-- The command line: options and the tasks that they belong to, and how a list of arguments
-- is read.
import StoreClient.Run.Task

namespace StoreClient

/-! ## What is asked for -/

/-- What the command line says of a source. What it leaves open is up to the settings. -/
structure SourceArguments where
  input : String
  choice : SourceChoice
  policy : Option EmptyListPolicy
  includeSystem : Option Bool
  includeId : Option Bool
deriving DecidableEq, Repr, Inhabited

inductive Task where
  | generate (source : SourceArguments) (output : String) (template : Option String)
  | check (source : SourceArguments)
  | bundle (source : SourceArguments) (output : String)
  | jsonSchema (output : String) (ofDocument : Bool)
deriving DecidableEq, Repr, Inhabited

/-- What a command line asks for. -/
inductive Invocation where
  /-- A task, with the path of the settings if one is given. -/
  | perform (settings : Option String) (task : Task)
  | version
  | help
  /-- A command line that cannot be understood. -/
  | misused
deriving DecidableEq, Repr, Inhabited

/-! ## Options -/

inductive CommandOption where
  | config
  | input
  | output
  | template
  | source
  | emptyList
  | includeSystem
  | includeId
  | document
deriving DecidableEq, Repr, Inhabited

/-- How an option takes its value. -/
inductive ValueRule where
  /-- After an equals sign or as the next argument. -/
  | needed
  /-- After an equals sign, or not at all. -/
  | attached
  /-- Not at all. -/
  | never
deriving DecidableEq, Repr

namespace CommandOption

def name : CommandOption → String
  | config => "config"
  | input => "input"
  | output => "output"
  | template => "template"
  | source => "source"
  | emptyList => "empty-list"
  | includeSystem => "include-system-collections"
  | includeId => "include-id-field"
  | document => "document"

def valueRule : CommandOption → ValueRule
  | includeSystem | includeId => .attached
  | document => .never
  | _ => .needed

def sources : List (String × SourceChoice) :=
  [("auto", .auto), ("document", .ofKind .document), ("sqlite", .ofKind .store)]

def policies : List (String × EmptyListPolicy) := [("null", .null), ("empty-list", .emptyList)]

def bools : List (String × Bool) := [("true", true), ("false", false)]

/-- Whether an option may have a value. No path is empty. -/
def accepts (o : CommandOption) (value : String) : Bool :=
  match o with
  | config | input | output | template => !value.isEmpty
  | source => (sources.lookup value).isSome
  | emptyList => (policies.lookup value).isSome
  | includeSystem | includeId | document => (bools.lookup value).isSome

end CommandOption

/-! ## Tasks by name -/

inductive TaskName where
  | generate
  | check
  | bundle
  | jsonSchema
deriving DecidableEq, Repr, Inhabited

namespace TaskName

def all : List TaskName := [generate, check, bundle, jsonSchema]

def name : TaskName → String
  | generate => "generate"
  | check => "check"
  | bundle => "bundle"
  | jsonSchema => "json-schema"

def ofName? (name : String) : Option TaskName := all.find? fun t => t.name = name

def ofSource : List CommandOption := [.input, .source, .emptyList, .includeSystem, .includeId]

/-- The options that may follow the name of a task. -/
def options : TaskName → List CommandOption
  | generate => .config :: ofSource ++ [.output, .template]
  | check => .config :: ofSource
  | bundle => .config :: ofSource ++ [.output]
  | jsonSchema => [.config, .output, .document]

end TaskName

/-! ## Reading arguments -/

/-- Options with their values, and an option whose value is not settled yet or still to come. -/
structure Given where
  values : List (CommandOption × String)
  pending : Option (CommandOption × Option String)

namespace Given

def none : Given := ⟨[], .none⟩

def value? (g : Given) (o : CommandOption) : Option String := g.values.lookup o

/-- The value of an option among some choices. -/
def choice? {α : Type} (g : Given) (o : CommandOption) (choices : List (String × α)) : Option α :=
  (g.value? o).bind fun value => choices.lookup value

/-- Gives a value to an option. No option is given twice. -/
def add? (g : Given) (o : CommandOption) (value : String) : Option Given :=
  if (g.value? o).isSome || !o.accepts value then .none
  else some { g with values := g.values ++ [(o, value)] }

/-- Settles the pending option, for which there must be a value. -/
def settle? (g : Given) : Option Given :=
  match g.pending with
  | .none => some g
  | some (_, .none) => .none
  | some (o, some value) => { g with pending := .none }.add? o value

/-- Whether the next argument is the value of the pending option. -/
def isWaiting (g : Given) : Bool :=
  match g.pending with
  | some (_, .none) => true
  | _ => false

end Given

/-- What an argument comes to. -/
inductive Reaction where
  | goOn (g : Given)
  | version
  | help
  | misused

namespace Reaction

/-- Settles the pending option, and then reacts. -/
def settled (g : Given) (react : Given → Reaction) : Reaction :=
  match g.settle? with
  | some g => react g
  | none => misused

/-- Settles the pending option, and then gives a value to an option. -/
def adding (g : Given) (o : CommandOption) (value : String) : Reaction :=
  settled g fun g =>
    match g.add? o value with
    | some g => goOn g
    | none => misused

/-- An option after its two dashes, with the value after its equals sign if there is one. -/
def toOption (options : List CommandOption) (isTop : Bool) (g : Given) (name : String)
    (value : Option String) : Reaction :=
  match options.find? fun o => o.name = name with
  | some o =>
    match o.valueRule, value with
    | .needed, none => settled g fun g => goOn { g with pending := some (o, none) }
    | .attached, none | .never, none => adding g o "true"
    | .never, some _ => misused
    | _, some value => adding g o value
  | none =>
    if value.isSome then misused
    else if name = "help" then settled g fun _ => help
    else if isTop && name = "version" then settled g fun _ => version
    else misused

/-- The letter of an option after a single dash. -/
def toLetter (isTop : Bool) (g : Given) (c : Char) : Reaction :=
  if c = 'h' then settled g fun _ => help
  else if isTop && c = 'V' then settled g fun _ => version
  else misused

/-- An argument other than two dashes alone. Before the name of a task, the program itself is
meant. -/
def toArgument (options : List CommandOption) (isTop : Bool) (g : Given) (argument : String) :
    Reaction :=
  match argument.toList with
  | '-' :: '-' :: cs =>
    let name := cs.takeWhile (· != '=')
    let value := match cs.drop name.length with
      | _ :: value => some (String.ofList value)
      | [] => none
    toOption options isTop g (String.ofList name) value
  | '-' :: c :: _ => toLetter isTop g c
  | _ =>
    match g.pending with
    | some (o, none) => goOn { g with pending := some (o, some argument) }
    | _ => misused

end Reaction

/-! ## The task of a command line -/

namespace Task

/-- What some options say of a source; its path must be given. -/
def source? (g : Given) : Option SourceArguments :=
  (g.value? .input).map fun input =>
    { input, choice := (g.choice? .source CommandOption.sources).getD .auto,
      policy := g.choice? .emptyList CommandOption.policies,
      includeSystem := g.choice? .includeSystem CommandOption.bools,
      includeId := g.choice? .includeId CommandOption.bools }

/-- The task of a name with its options, if all are given that it needs. -/
def ofGiven? (name : TaskName) (g : Given) : Option Task :=
  match name with
  | .generate => do pure (.generate (← source? g) (← g.value? .output) (g.value? .template))
  | .check => do pure (.check (← source? g))
  | .bundle => do pure (.bundle (← source? g) (← g.value? .output))
  | .jsonSchema => do pure (.jsonSchema (← g.value? .output) (g.value? .document).isSome)

end Task

namespace Invocation

/-- The task when all its arguments are read. Options before its name count where they are not
given after it. -/
def ofTask (name : TaskName) (before after : Given) : Invocation :=
  match after.settle? with
  | none => misused
  | some after =>
    match Task.ofGiven? name after with
    | none => misused
    | some task =>
      match before.settle? with
      | none => misused
      | some before => perform ((after.value? .config).or (before.value? .config)) task

/-- The arguments after the name of a task. Nothing may follow two dashes alone. -/
def afterName (name : TaskName) (before after : Given) : List String → Invocation
  | [] => ofTask name before after
  | "--" :: rest => if rest.isEmpty then ofTask name before after else misused
  | argument :: rest =>
    match Reaction.toArgument name.options false after argument with
    | .goOn after => afterName name before after rest
    | .version => version
    | .help => help
    | .misused => misused

/-- Whether there is help on some words. -/
def hasHelp : List String → Bool
  | [] => true
  | [word] => word = "help" || (TaskName.ofName? word).isSome
  | _ => false

/-- The arguments before the name of a task. -/
def beforeName (before : Given) : List String → Invocation
  | [] | "--" :: _ => misused
  | argument :: rest =>
    if !before.isWaiting && argument = "help" then if hasHelp rest then help else misused
    else
      match if before.isWaiting then none else TaskName.ofName? argument with
      | some name => afterName name before Given.none rest
      | none =>
        match Reaction.toArgument [.config] true before argument with
        | .goOn before => beforeName before rest
        | .version => version
        | .help => help
        | .misused => misused

/-- What some arguments ask for. -/
def ofArguments (arguments : List String) : Invocation := beforeName Given.none arguments

end Invocation

end StoreClient
