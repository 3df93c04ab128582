-- Filling in a template. A place whose value is missing is a fault; a condition whose
-- value is missing does not hold.
import StoreClient.Template.Node
import StoreClient.Text.Case

namespace StoreClient

namespace Template

/-! ## Looking up -/

/-- The item of an array at a position; a negative one counts from the end. -/
def item? (items : List Json) (position : Int) : Option Json :=
  if 0 ≤ position then items[position.toNat]?
  else if position.natAbs ≤ items.length then items[items.length - position.natAbs]?
  else none

def size (n : Nat) : Json := .number (.int n)

/-- The member or item that an index names. -/
def member? (index : Json) : Json → Option Json
  | .array items =>
    match index with
    | .number (.int position) => item? items position
    | .text "first" => items.head?
    | .text "last" => items.getLast?
    | .text "size" => some (size items.length)
    | _ => none
  | .object members =>
    match index with
    | .text key =>
      (members.lookup key).or (if key = "size" then some (size members.length) else none)
    | _ => none
  | .text s => if index.asText? = some "size" then some (size s.utf8ByteSize) else none
  | _ => none

/-- The variables of a place, the innermost first. -/
abbrev Scope := List (String × Json)

mutual

/-- The value of an operand, if it is there. -/
def Operand.value? (scope : Scope) : Operand → Option Json
  | .literal value => some value
  | .path root steps =>
    match scope.lookup root with
    | some start => down? scope steps start
    | none => none

/-- The value that some steps lead to. -/
def down? (scope : Scope) : List Operand → Json → Option Json
  | [], j => some j
  | step :: rest, j =>
    match Operand.value? scope step with
    | none => none
    | some index =>
      match member? index j with
      | some below => down? scope rest below
      | none => none

end

/-! ## Texts of values -/

mutual

/-- The text of a value: null has none, and a list is run together. -/
def shown : Json → List Char
  | .null => []
  | .bool true => ['t', 'r', 'u', 'e']
  | .bool false => ['f', 'a', 'l', 's', 'e']
  | .number n => n.chars
  | .text s => s.toList
  | .array items => shownItems items
  | .object members => shownMembers members

def shownItems : List Json → List Char
  | [] => []
  | j :: rest => shown j ++ shownItems rest

def shownMembers : List (String × Json) → List Char
  | [] => []
  | (key, j) :: rest => key.toList ++ shown j ++ shownMembers rest

end

/-- The value after a filter, if the filter applies. -/
def Filter.apply? (scope : Scope) (j : Json) : Filter → Option Json
  | join separator =>
    match j, separator.value? scope with
    | .array items, some between =>
      some (.text (String.ofList ((shown between).intercalate (items.map shown))))
    | _, _ => none
  | upcase => some (.text (String.ofList (Case.upper (shown j))))
  | downcase => some (.text (String.ofList (Case.lower (shown j))))

def Filter.applyAll? (scope : Scope) : List Filter → Json → Option Json
  | [], j => some j
  | filter :: rest, j =>
    match filter.apply? scope j with
    | some j => applyAll? scope rest j
    | none => none

/-! ## Filling in -/

/-- Whether a condition holds. -/
def holds : Option Json → Bool
  | none | some .null | some (.bool false) => false
  | _ => true

/-- The items that a loop goes over. -/
def items? : Json → Option (List Json)
  | .array items => some items
  | .object members => some (members.map fun m => .array [.text m.1, m.2])
  | .null => some []
  | _ => none

/-- What a loop says about its item at a position. -/
def loopState (length position : Nat) : Json :=
  .object
    [("first", .bool (position = 0)), ("index", size (position + 1)), ("index0", size position),
     ("last", .bool (position + 1 = length)), ("length", size length),
     ("rindex", size (length - position)), ("rindex0", size (length - position - 1))]

/-- The texts of a part for each of some items from a position on. -/
def repeated (part : Scope → Option (List Char)) (scope : Scope) (variableName : String)
    (length : Nat) : Nat → List Json → Option (List Char)
  | _, [] => some []
  | position, j :: rest =>
    match part ((variableName, j) :: ("forloop", loopState length position) :: scope) with
    | none => none
    | some text =>
      match repeated part scope variableName length (position + 1) rest with
      | none => none
      | some others => some (text ++ others)

mutual

/-- The text of a piece. -/
def Node.render? : Node → Scope → Option (List Char)
  | .text s, _ => some s.toList
  | .output value filters, scope =>
    match value.value? scope with
    | none => none
    | some j => (Filter.applyAll? scope filters j).map shown
  | .choice condition kept other, scope =>
    if holds (condition.value? scope) then renderAll? kept scope else renderAll? other scope
  | .loop variableName items body other, scope =>
    match (items.value? scope).bind items? with
    | none => none
    | some [] => renderAll? other scope
    | some js => repeated (renderAll? body) scope variableName js.length 0 js

def renderAll? : List Node → Scope → Option (List Char)
  | [], _ => some []
  | node :: rest, scope =>
    match node.render? scope with
    | none => none
    | some first =>
      match renderAll? rest scope with
      | none => none
      | some others => some (first ++ others)

end

/-- The text of a template filled in from the members of an object. -/
def render (template : Template) (data : Json) : Except TemplateFault String :=
  let scope : Scope := match data with
    | .object members => members
    | _ => []
  match renderAll? template scope with
  | some text => .ok (String.ofList text)
  | none => .error .unrenderable

end Template

end StoreClient
