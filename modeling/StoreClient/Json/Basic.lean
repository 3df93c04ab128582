-- JSON values. An object keeps its members in the order given; a value read from a text
-- has them in the order of their keys, each key once.
import StoreClient.Number.Basic

namespace StoreClient

/-- A JSON value. -/
inductive Json where
  | null
  | bool (value : Bool)
  | number (value : Number)
  | text (value : String)
  | array (items : List Json)
  | object (members : List (String × Json))
deriving Inhabited

/-- The kinds of JSON value, as messages name them. -/
inductive JsonType where
  | null | boolean | number | string | array | object
deriving DecidableEq, Repr

def JsonType.name : JsonType → String
  | .null => "null"
  | .boolean => "boolean"
  | .number => "number"
  | .string => "string"
  | .array => "array"
  | .object => "object"

namespace Json

def type : Json → JsonType
  | null => .null
  | bool _ => .boolean
  | number _ => .number
  | text _ => .string
  | array _ => .array
  | object _ => .object

/-! ## Members in the order of their keys -/

/-- Members sorted by key, with one member put in; a member of the same key is replaced. -/
def insert (key : String) (value : Json) : List (String × Json) → List (String × Json)
  | [] => [(key, value)]
  | (k, v) :: rest =>
    if key < k then (key, value) :: (k, v) :: rest
    else if key = k then (key, value) :: rest
    else (k, v) :: insert key value rest

/-- Members sorted by key; of two members with one key the later one stays. -/
def sorted (members : List (String × Json)) : List (String × Json) :=
  members.foldl (fun ms m => insert m.1 m.2 ms) []

/-- Members with another value for one key, wherever it stands. -/
def replace (key : String) (value : Json) (members : List (String × Json)) :
    List (String × Json) :=
  members.map fun m => if m.1 = key then (key, value) else m

/-- Members without those of one key. -/
def erase (key : String) (members : List (String × Json)) : List (String × Json) :=
  members.filter fun m => m.1 ≠ key

/-- The member of a key, if the value is an object that has it. -/
def get? (key : String) : Json → Option Json
  | object members => members.lookup key
  | _ => none

/-- The text, if the value is one. -/
def asText? : Json → Option String
  | text s => some s
  | _ => none

end Json

end StoreClient
