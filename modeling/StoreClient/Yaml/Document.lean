-- Documents in YAML. Where a text is expected any scalar will do, as it is written; where
-- any value is expected a scalar is what it stands for, and a tag of one's own is refused.
import StoreClient.Collection.Document
import StoreClient.Yaml.Node
import StoreClient.Yaml.Resolve

namespace StoreClient

namespace Yaml

/-! ## Sizes -/

mutual

/-- How many marks a node makes: one for a scalar or an alias, two around what has parts. -/
def Node.marks : Node → Nat
  | .scalar _ _ _ | .aliased _ => 1
  | .sequence _ items => marksOfItems items + 2
  | .mapping _ entries => marksOfEntries entries + 2

def marksOfItems : List Node → Nat
  | [] => 0
  | item :: rest => item.marks + marksOfItems rest

def marksOfEntries : List (Node × Node) → Nat
  | [] => 0
  | (key, value) :: rest => key.marks + value.marks + marksOfEntries rest

end

/-! ## Following aliases -/

/-- Decoding keeps count of the aliases it may still follow. -/
abbrev Decoding := StateT Nat Option

namespace Decoding

def fail {α : Type} : Decoding α := fun _ => none

/-- The node itself, or the one that an alias stands for. -/
def target (source : Source) : Node → Decoding Node
  | .aliased number => fun left =>
    match left, source.anchored.lookup number with
    | left + 1, some node => some (node, left)
    | _, _ => none
  | node => pure node

/-! ## Values -/

/-- A tag of one's own begins with an exclamation mark. -/
def isOwnTag : Option String → Bool
  | some tag => tag.toList.head? == some '!'
  | none => false

/-- The text of a scalar, whatever it stands for. -/
def text (source : Source) (node : Node) : Decoding String := do
  match ← target source node with
  | .scalar _ _ s => pure s
  | _ => fail

/-- The value of a scalar. -/
def scalar (tag : Option String) (isPlain : Bool) (s : String) : Decoding Json :=
  let value : Option Json := match tag with
    | some tag => ofTagged? tag s
    | none => if isPlain then ofPlain? s else some (.text s)
  match value with
  | some j => pure j
  | none => fail

/-- Each of some nodes decoded. -/
def each {α : Type} (decode : Node → Decoding α) : List Node → Decoding (List α)
  | [] => pure []
  | node :: rest => do
    let a ← decode node
    pure (a :: (← each decode rest))

/-- The members of some entries. -/
def members (source : Source) (decode : Node → Decoding Json) :
    List (Node × Node) → Decoding (List (String × Json))
  | [] => pure []
  | (key, value) :: rest => do
    let k ← text source key
    let j ← decode value
    pure ((k, j) :: (← members source decode rest))

/-- Any value, at most `depth` sequences and mappings deep. Of two entries with one key the later
one stays. -/
def value (source : Source) : Nat → Node → Decoding Json
  | 0, node => do
    match ← target source node with
    | .scalar tag isPlain s => if isOwnTag tag then fail else scalar tag isPlain s
    | _ => fail
  | depth + 1, node => do
    match ← target source node with
    | .scalar tag isPlain s => if isOwnTag tag then fail else scalar tag isPlain s
    | .sequence tag items =>
      if isOwnTag tag then fail
      else pure (.array (← each (value source depth) items))
    | .mapping tag entries =>
      if isOwnTag tag then fail
      else pure (.object (Json.sorted (← members source (value source depth) entries)))
    | .aliased _ => fail

/-- A sequence; a place left empty counts as an empty one. -/
def list {α : Type} (source : Source) (decode : Node → Decoding α) (node : Node) :
    Decoding (List α) := do
  match ← target source node with
  | .sequence _ items => each decode items
  | .scalar _ isPlain s => if isPlain && s.isEmpty then pure [] else fail
  | _ => fail

/-- A text, or nothing where a scalar stands for null. -/
def optionalText (source : Source) (node : Node) : Decoding (Option String) := do
  match ← target source node with
  | .scalar tag isPlain s =>
    if !isPlain then pure (some s)
    else
      match tag with
      | none => pure (if s.isEmpty || isNull s then none else some s)
      | some tag =>
        if tag = "tag:yaml.org,2002:null" then if isNull s then pure none else fail
        else pure (some s)
  | _ => fail

/-! ## Records -/

/-- How deep sequences and mappings may stand inside one another. -/
def deepest : Nat := 128

/-- Fills in the entries of a mapping that are fields; others are passed over. Each step gives
nothing for a key that is no field. -/
def fields {σ : Type} (source : Source) (fill : String → Node → σ → Option (Decoding σ)) :
    List (Node × Node) → σ → Decoding σ
  | [], s => pure s
  | (key, node) :: rest, s => do
    let k ← text source key
    match fill k node s with
    | none => fields source fill rest s
    | some filled =>
      let s ← filled
      fields source fill rest s

/-- A field of a record, which may be given once. -/
def once {σ α : Type} (current : Option α) (decode : Decoding α) (put : α → σ) :
    Option (Decoding σ) :=
  match current with
  | some _ => some fail
  | none => some do
    let a ← decode
    pure (put a)

def fillCollection (source : Source) (key : String) (node : Node)
    (s : CollectionDeclaration.Partial) : Option (Decoding CollectionDeclaration.Partial) :=
  if key = "id" then
    once s.id (optionalText source node) fun v => { s with id := some v }
  else if key = "name" then
    once s.name (text source node) fun v => { s with name := some v }
  else if key = "singular" then
    once s.singular (optionalText source node) fun v => { s with singular := some v }
  else if key = "plural" then
    once s.plural (optionalText source node) fun v => { s with plural := some v }
  else if key = "fields" || key = "properties" then
    once s.fields (list source (value source (deepest - 4)) node) fun v =>
      { s with fields := some v }
  else none

/-- A collection. -/
def collection (source : Source) (node : Node) : Decoding CollectionDeclaration := do
  match ← target source node with
  | .mapping _ entries =>
    let s ← fields source (fillCollection source) entries CollectionDeclaration.record.start
    match CollectionDeclaration.record.finish s with
    | some c => pure c
    | none => fail
  | _ => fail

def fillDocument (source : Source) (key : String) (node : Node)
    (s : Option (List CollectionDeclaration)) :
    Option (Decoding (Option (List CollectionDeclaration))) :=
  if key = "collections" then once s (list source (collection source) node) some else none

def document (source : Source) : Decoding Document := do
  match source.root with
  | none => fail
  | some root =>
    match ← target source root with
    | .mapping _ entries =>
      let s ← fields source (fillDocument source) entries none
      match s with
      | some collections => pure ⟨collections⟩
      | none => fail
    | _ => fail

end Decoding

end Yaml

/-- The document of a YAML text. All aliases together may be followed a hundred times for each
mark of the text. -/
def Document.ofYaml? (text : String) : Option Document :=
  match Yaml.Source.ofText? text with
  | none => none
  | some source =>
    let marks := (source.root.map (·.marks)).getD 1
    (Yaml.Decoding.document source (100 * marks)).map (·.1)

end StoreClient
