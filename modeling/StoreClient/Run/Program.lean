-- The program: what a command line comes to, in the exit code, the printed text, the logged
-- events and the changes to the disk.
import StoreClient.Log.Filter
import StoreClient.Run.Arguments
import StoreClient.Run.Settings

namespace StoreClient

/-- What a run of the program shows. -/
structure Outcome where
  exit : Nat
  /-- The printed text. -/
  output : String
  /-- Why the run failed, if it is not the command line that is wrong. -/
  error : Option String
  /-- The events that the filter lets through. -/
  events : List Event
  layout : LogLayout
deriving Inhabited

namespace Run

variable {m : Type → Type} [Monad m] [Disk m]

/-! ## Settings -/

/-- The settings that are used if there are any at this path and none are asked for. -/
def standardSettings : String := "pocketgen.toml"

def readSettings (path : String) : Run m Settings := do
  let text ← readText path
  match Settings.ofText? text with
  | some settings => pure settings
  | none => throw (.badSettings path)

/-- The settings at a path, or those at the standard path if there is something. -/
def settings (path : Option String) : Run m Settings := do
  match path with
  | some path => readSettings path
  | none =>
    if ← ask (Disk.isThere (Path.ofText standardSettings)) then readSettings standardSettings
    else pure Settings.standard

/-! ## Tasks -/

/-- What is taken over from a catalog; the command line goes before the settings. -/
def catalogOptions (settings : Settings) (includeSystem includeId : Option Bool) : CatalogOptions :=
  ⟨includeSystem.getD settings.catalog.includeSystem, includeId.getD settings.catalog.includeId⟩

/-- A source as the command line and the settings together describe it. -/
def request (settings : Settings) (a : SourceArguments) : Request :=
  { input := a.input, choice := a.choice, policy := a.policy.getD settings.emptyList,
    catalog := catalogOptions settings a.includeSystem a.includeId }

def counted (n : Nat) (things : String) : String :=
  String.ofList (Number.natChars n) ++ " " ++ things

def wrote (path : String) (collections : Nat) : String :=
  "wrote " ++ path ++ " (" ++ counted collections "collections" ++ ")\n"

/-- Performs a task; gives the text to print. -/
def perform (settings : Settings) : Task → Run m String
  | .generate source output template => do
    let made ← generate (request settings source) output (template.or settings.template)
    pure (wrote output made.collections)
  | .check source => do
    let counts ← check (request settings source)
    pure ("ok: " ++ counted counts.collections "collections" ++ ", " ++
      counted counts.fields "fields" ++ ", " ++ counted counts.relations "relations" ++ "\n")
  | .bundle source output => do
    let s ← writeBundle (request settings source) output
    pure (wrote output s.bundles.length)
  | .jsonSchema output ofDocument => do
    writePublished output ofDocument
    pure ("wrote " ++ output ++ "\n")

end Run

/-! ## The whole program -/

namespace Program

variable {m : Type → Type} [Monad m] [Disk m]

def version : String := "0.1.0"

/-- What is printed when help is asked for. -/
def usage : String :=
  "Typed client generator for record store schemas\n\n" ++
    "Usage: pocketgen [--config <FILE>] <TASK>\n\n" ++
    "Tasks:\n" ++
    "  generate     --input <FILE> --output <FILE> [--template <FILE>] [source options]\n" ++
    "  check        --input <FILE> [source options]\n" ++
    "  bundle       --input <FILE> --output <FILE> [source options]\n" ++
    "  json-schema  --output <FILE> [--document]\n\n" ++
    "Source options:\n" ++
    "  --source <auto|document|sqlite>\n" ++
    "  --empty-list <null|empty-list>\n" ++
    "  --include-system-collections[=<true|false>]\n" ++
    "  --include-id-field[=<true|false>]\n"

/-- The filter of logged events: a good one from the environment goes before the settings. -/
def logFilter? (environment : Option String) (settings : Settings) : Option LogFilter :=
  (environment.bind LogFilter.ofText?).or (LogFilter.ofText? settings.logFilter)

/-- A run that fails, with the events logged before. -/
def failed (fault : RunFault) (events : List Event) (layout : LogLayout) : Outcome :=
  ⟨1, "", some fault.message, events, layout⟩

/-- A task with its events. -/
def logged (settings : Settings) (task : Task) : Run m String := do
  Run.log (.runStarted version)
  let output ← Run.perform settings task
  Run.log .runFinished
  pure output

/-- Performs a task. Nothing is logged before the settings and their filter are known. -/
def perform (environment : Option String) (path : Option String) (task : Task) : m Outcome := do
  match ← (Run.settings path).outcome with
  | (.error fault, _) => pure (failed fault [] .pretty)
  | (.ok settings, _) =>
    match logFilter? environment settings with
    | none => pure (failed .badLogFilter [] settings.layout)
    | some filter =>
      match ← (logged settings task).outcome with
      | (.ok output, events) =>
        pure ⟨0, output, none, events.filter filter.admits, settings.layout⟩
      | (.error fault, events) =>
        let events := events ++ [.runFailed fault.message]
        pure (failed fault (events.filter filter.admits) settings.layout)

/-- Runs the program with its arguments and the log filter of its environment. -/
def run (arguments : List String) (environment : Option String) : m Outcome :=
  match Invocation.ofArguments arguments with
  | .perform path task => perform environment path task
  | .version => pure ⟨0, "pocketgen " ++ version ++ "\n", none, [], .pretty⟩
  | .help => pure ⟨0, usage, none, [], .pretty⟩
  | .misused => pure ⟨2, "", none, [], .pretty⟩

end Program

end StoreClient
