-- A JSON text as far as it is well formed: a tree in which the point where the text
-- breaks off is part of the tree. Who walks the tree in order meets whatever comes first
-- in the text, be it a value of the wrong kind or the break.
import StoreClient.Json.Basic

namespace StoreClient

/-- How a text fails to be JSON: something else stands there, or the text ends too early. -/
inductive Break where
  | malformed
  | truncated
deriving DecidableEq, Repr, Inhabited

/-- A JSON text as far as it is well formed. A text or a number may be flawed so that it cannot
be read but can be passed over: half of a surrogate pair, a number beyond the largest double. -/
inductive Draft where
  | null
  | bool (value : Bool)
  | number (value : Number)
  | text (value : String)
  /-- The items that start, and the break after them if there is one. -/
  | array (items : List Draft) (ending : Option Break)
  /-- The members that start, and the break after them if there is one. -/
  | object (members : List (Draft × Draft)) (ending : Option Break)
  /-- A text that does not read; the second break is met also by who passes it over. -/
  | flawedText (reading : Break) (passing : Option Break)
  /-- A word or a number that does not read. -/
  | flawedWord (reading : Break) (passing : Option Break)
  /-- No value starts here. -/
  | absent (why : Break)
deriving Inhabited

namespace Draft

/-- The draft of a value. -/
def ofJson : Json → Draft
  | .null => null
  | .bool b => bool b
  | .number n => number n
  | .text s => text s
  | .array items => array (ofItems items) none
  | .object members => object (ofMembers members) none
where
  ofItems : List Json → List Draft
    | [] => []
    | item :: rest => ofJson item :: ofItems rest
  ofMembers : List (String × Json) → List (Draft × Draft)
    | [] => []
    | (key, value) :: rest => (text key, ofJson value) :: ofMembers rest

/-! ## Reading a draft -/

mutual

/-- How many arrays and objects stand inside one another. -/
def levels : Draft → Nat
  | array items _ => levelsItems items + 1
  | object members _ => levelsMembers members + 1
  | _ => 0

def levelsItems : List Draft → Nat
  | [] => 0
  | item :: rest => max (levels item) (levelsItems rest)

def levelsMembers : List (Draft × Draft) → Nat
  | [] => 0
  | (_, item) :: rest => max (levels item) (levelsMembers rest)

end

mutual

/-- The value of a draft, at most `depth` arrays and objects deep. Of two members with one key
the later one stays. -/
def read : Nat → Draft → Except Break Json
  | _, null => .ok .null
  | _, bool b => .ok (.bool b)
  | _, number n => .ok (.number n)
  | _, text s => .ok (.text s)
  | 0, array _ _ => .error .malformed
  | depth + 1, array items ending =>
    match readItems depth items, ending with
    | .error b, _ => .error b
    | .ok _, some b => .error b
    | .ok values, none => .ok (.array values)
  | 0, object _ _ => .error .malformed
  | depth + 1, object members ending =>
    match readMembers depth members, ending with
    | .error b, _ => .error b
    | .ok _, some b => .error b
    | .ok values, none => .ok (.object (Json.sorted values))
  | _, flawedText reading _ => .error reading
  | _, flawedWord reading _ => .error reading
  | _, absent why => .error why

def readItems : Nat → List Draft → Except Break (List Json)
  | _, [] => .ok []
  | depth, item :: rest =>
    match read depth item with
    | .error b => .error b
    | .ok value =>
      match readItems depth rest with
      | .error b => .error b
      | .ok values => .ok (value :: values)

def readMembers : Nat → List (Draft × Draft) → Except Break (List (String × Json))
  | _, [] => .ok []
  | depth, (key, item) :: rest =>
    match key.read depth with
    | .ok (.text k) =>
      match read depth item with
      | .error b => .error b
      | .ok value =>
        match readMembers depth rest with
        | .error b => .error b
        | .ok values => .ok ((k, value) :: values)
    | .ok _ => .error .malformed
    | .error b => .error b

end

mutual

/-- The break that is met by who passes the draft over, however deep it goes. -/
def passing : Draft → Option Break
  | array items ending => (passingItems items).or ending
  | object members ending => (passingMembers members).or ending
  | flawedText _ passing => passing
  | flawedWord _ passing => passing
  | absent why => some why
  | _ => none

def passingItems : List Draft → Option Break
  | [] => none
  | item :: rest => (passing item).or (passingItems rest)

def passingMembers : List (Draft × Draft) → Option Break
  | [] => none
  | (key, item) :: rest => ((passing key).or (passing item)).or (passingMembers rest)

end

end Draft

end StoreClient
