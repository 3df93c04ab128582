-- The nodes of a YAML document, from its tokens. A node may carry a tag and an anchor; an
-- alias stands for the node of an anchor that has begun before it.
import StoreClient.Yaml.Scan

namespace StoreClient

namespace Yaml

inductive Node where
  /-- A text; a plain one stands without quotes. -/
  | scalar (tag : Option String) (isPlain : Bool) (text : String)
  | sequence (tag : Option String) (items : List Node)
  | mapping (tag : Option String) (entries : List (Node × Node))
  /-- The node of an anchor, given by the anchor's number. -/
  | aliased (number : Nat)
deriving Inhabited

/-- A document: its node, unless the text is empty, and the nodes of its anchors by number. -/
structure Source where
  root : Option Node
  anchored : List (Nat × Node)
deriving Inhabited

/-! ## State -/

/-- The state of the reading of a document. The number of an anchor is how many names of anchors
are known before it, and a number stands for the last node that was begun under it. -/
structure Reader where
  tokens : List Token
  /-- What the handles of tags stand for. -/
  handles : List (String × String)
  anchors : List (String × Nat)
  /-- For each number the place of its node among the anchored ones. -/
  places : List (Nat × Nat)
  begun : Nat
  /-- The anchored nodes that are complete, by place. -/
  complete : List (Nat × Node)

abbrev Reading := StateT Reader Option

namespace Reading

def fail {α : Type} : Reading α := fun _ => none

/-- The next token, which is not taken yet. -/
def peek : Reading (Option Token) := fun r => some (r.tokens.head?, r)

def skip : Reading Unit := fun r => some ((), { r with tokens := r.tokens.drop 1 })

/-- Whether the next token is one of these. -/
def isNext (tokens : List Token) : Reading Bool := do
  match ← peek with
  | some token => pure (tokens.contains token)
  | none => pure false

/-- Takes the next token if it is this one. -/
def take (token : Token) : Reading Bool := do
  if ← isNext [token] then
    skip
    pure true
  else pure false

/-- An entry for a key in front of others; an older one is dropped. -/
def put {α β : Type} [BEq α] (key : α) (value : β) (entries : List (α × β)) : List (α × β) :=
  (key, value) :: entries.filter fun e => !(e.1 == key)

/-- An anchor begins a node; gives the place of the node. -/
def beginAnchor (name : String) : Reading Nat := fun r =>
  let number := r.anchors.length
  some (r.begun,
    { r with anchors := put name number r.anchors, places := put number r.begun r.places,
             begun := r.begun + 1 })

/-- The node of an anchor is complete. -/
def endAnchor (place : Option Nat) (node : Node) : Reading Node := fun r =>
  match place with
  | some place => some (node, { r with complete := (place, node) :: r.complete })
  | none => some (node, r)

def aliased (name : String) : Reading Node := fun r =>
  (r.anchors.lookup name).map fun number => (.aliased number, r)

/-- The tag of a handle and a suffix. -/
def tag (handle suffix : String) : Reading String := fun r =>
  if handle.isEmpty then some (suffix, r)
  else (r.handles.lookup handle).map fun uri => (uri ++ suffix, r)

/-! ## Nodes -/

/-- The anchor and the tag of a node, in either order. -/
def properties : Reading (Option Nat × Option String) := do
  match ← peek with
  | some (.anchor name) =>
    skip
    let place ← beginAnchor name
    match ← peek with
    | some (.tag handle suffix) =>
      skip
      pure (some place, some (← tag handle suffix))
    | _ => pure (some place, none)
  | some (.tag handle suffix) =>
    skip
    match ← peek with
    | some (.anchor name) =>
      skip
      let tag ← tag handle suffix
      pure (some (← beginAnchor name), some tag)
    | _ => pure (none, some (← tag handle suffix))
  | _ => pure (none, none)

def emptyNode : Node := .scalar none true ""

mutual

/-- A node. Where `isBlock` is set it may be a block; where `isIndentless` is set it may be a
sequence whose dashes stand in the column of its parent. The first number bounds the calls. -/
def node : Nat → Bool → Bool → Reading Node
  | 0, _, _ => fail
  | fuel + 1, isBlock, isIndentless => do
    match ← peek with
    | some (.aliased name) =>
      skip
      aliased name
    | _ =>
      let (place, tag) ← properties
      match ← peek with
      | some .blockEntry =>
        if isIndentless then endAnchor place (.sequence tag (← indentlessItems fuel))
        else withoutContent place tag
      | some (.scalar isPlain text) =>
        skip
        let tag := tag.filter fun t => t != "!"
        endAnchor place (.scalar tag isPlain text)
      | some .flowSequenceStart =>
        skip
        endAnchor place (.sequence tag (← flowItems fuel true))
      | some .flowMappingStart =>
        skip
        endAnchor place (.mapping tag (← flowEntries fuel true))
      | some .blockSequenceStart =>
        if isBlock then
          skip
          endAnchor place (.sequence tag (← blockItems fuel))
        else withoutContent place tag
      | some .blockMappingStart =>
        if isBlock then
          skip
          endAnchor place (.mapping tag (← blockEntries fuel))
        else withoutContent place tag
      | _ => withoutContent place tag

/-- An empty node, which must have an anchor or a tag. -/
def withoutContent (place : Option Nat) (tag : Option String) : Reading Node :=
  if place.isSome || tag.isSome then endAnchor place (.scalar tag true "") else fail

/-- A node, or an empty one before some tokens. -/
def nodeUnless : Nat → List Token → Bool → Bool → Reading Node
  | 0, _, _, _ => fail
  | fuel + 1, ends, isBlock, isIndentless => do
    if ← isNext ends then pure emptyNode else node fuel isBlock isIndentless

/-- The items of a block sequence. -/
def blockItems : Nat → Reading (List Node)
  | 0 => fail
  | fuel + 1 => do
    if ← take .blockEntry then
      let item ← nodeUnless fuel [.blockEntry, .blockEnd] true false
      pure (item :: (← blockItems fuel))
    else if ← take .blockEnd then pure []
    else fail

/-- The items of a sequence whose dashes stand in the column of its parent. -/
def indentlessItems : Nat → Reading (List Node)
  | 0 => fail
  | fuel + 1 => do
    if ← take .blockEntry then
      let item ← nodeUnless fuel [.blockEntry, .key, .value, .blockEnd] true false
      pure (item :: (← indentlessItems fuel))
    else pure []

/-- The entries of a block mapping. -/
def blockEntries : Nat → Reading (List (Node × Node))
  | 0 => fail
  | fuel + 1 => do
    if ← take .key then
      let key ← nodeUnless fuel [.key, .value, .blockEnd] true true
      let value ←
        if ← take .value then nodeUnless fuel [.key, .value, .blockEnd] true true
        else pure emptyNode
      pure ((key, value) :: (← blockEntries fuel))
    else if ← take .blockEnd then pure []
    else fail

/-- The items of a sequence in brackets: all of them, or those after the first. A key inside
makes a mapping with a single entry. -/
def flowItems : Nat → Bool → Reading (List Node)
  | 0, _ => fail
  | fuel + 1, isFirst => do
    if ← take .flowSequenceEnd then pure []
    else
      let isSeparated ← if isFirst then pure true else take .flowEntry
      if !isSeparated then fail
      else if ← take .key then
        let entry ← singleEntry fuel
        pure (.mapping none [entry] :: (← flowItems fuel false))
      else if ← take .flowSequenceEnd then pure []
      else
        let item ← node fuel false false
        pure (item :: (← flowItems fuel false))

/-- The only entry of a mapping inside a sequence in brackets. A token that cannot begin its key
is passed over. -/
def singleEntry : Nat → Reading (Node × Node)
  | 0 => fail
  | fuel + 1 => do
    let hasNoKey ← isNext [.value, .flowEntry, .flowSequenceEnd]
    let key ←
      if hasNoKey then
        skip
        pure emptyNode
      else node fuel false false
    let value ←
      if ← take .value then nodeUnless fuel [.flowEntry, .flowSequenceEnd] false false
      else pure emptyNode
    pure (key, value)

/-- The entries of a mapping in braces: all of them, or those after the first. -/
def flowEntries : Nat → Bool → Reading (List (Node × Node))
  | 0, _ => fail
  | fuel + 1, isFirst => do
    if ← take .flowMappingEnd then pure []
    else
      let isSeparated ← if isFirst then pure true else take .flowEntry
      if !isSeparated then fail
      else if ← take .key then
        let key ← nodeUnless fuel [.value, .flowEntry, .flowMappingEnd] false false
        let value ←
          if ← take .value then nodeUnless fuel [.flowEntry, .flowMappingEnd] false false
          else pure emptyNode
        pure ((key, value) :: (← flowEntries fuel false))
      else if ← take .flowMappingEnd then pure []
      else
        let key ← node fuel false false
        pure ((key, emptyNode) :: (← flowEntries fuel false))

end

/-! ## Documents -/

/-- The handles that every document knows. -/
def standardHandles : List (String × String) := [("!", "!"), ("!!", "tag:yaml.org,2002:")]

/-- The directives before a document: at most one version, and each handle once. -/
def directives : Nat → Bool → List (String × String) → Reading (List (String × String))
  | 0, _, _ => fail
  | fuel + 1, hasVersion, handles => do
    match ← peek with
    | some (.version major minor) =>
      if hasVersion || major != 1 || (minor != 1 && minor != 2) then fail
      else
        skip
        directives fuel true handles
    | some (.handle handle uri) =>
      if (handles.lookup handle).isSome then fail
      else
        skip
        directives fuel hasVersion ((handle, uri) :: handles)
    | _ => pure handles

/-- The node of the only document, if there is one. -/
def document (fuel : Nat) : Reading (Option Node) := do
  let first ← peek
  let isBare : Bool := match first with
    | none | some .documentStart | some (.version _ _) | some (.handle _ _) => false
    | _ => true
  if first.isNone then pure none
  else
    let handles ← if isBare then pure [] else directives fuel false []
    modify fun r => { r with handles := handles ++ standardHandles }
    let isStarted ← if isBare then pure true else take .documentStart
    if !isStarted then fail
    else
      let next ← peek
      let isEmpty : Bool := match next with
        | none | some .documentStart | some .documentEnd | some (.version _ _)
        | some (.handle _ _) => !isBare
        | _ => false
      let root ← if isEmpty then pure emptyNode else node fuel true false
      pure (some root)

/-- Nothing but the ends of documents may follow. -/
def nothingMore : Reading Unit := do
  let r ← get
  if r.tokens.all fun t => t == .documentEnd then pure () else fail

end Reading

/-- The document of a text, if the text holds exactly one or none. -/
def Source.ofText? (text : String) : Option Source :=
  match tokens? text.toList with
  | none => none
  | some tokens =>
    let start : Reader := ⟨tokens, [], [], [], 0, []⟩
    let reading : Reading (Option Node) := do
      let root ← Reading.document (3 * tokens.length + 4)
      Reading.nothingMore
      pure root
    match reading start with
    | none => none
    | some (root, r) =>
      some ⟨root, r.places.filterMap fun (number, place) =>
        (r.complete.lookup place).map fun node => (number, node)⟩

end Yaml

end StoreClient
