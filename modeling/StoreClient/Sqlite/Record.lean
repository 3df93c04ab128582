-- The values of a row: first the types of all values, and then the values themselves.
import StoreClient.Number.Basic
import StoreClient.Sqlite.Page

namespace StoreClient

namespace Sqlite

/-- A value of a row. Numbers that are not whole are not looked into. -/
inductive Value where
  | null
  | integer (n : Int)
  | real
  | text (data : ByteArray)
  | bytes (data : ByteArray)

namespace Value

/-- How many bytes a value of a type takes. -/
def size : Nat → Nat
  | 0 | 8 | 9 => 0
  | 5 => 6
  | 6 | 7 => 8
  | type => if type < 12 then type else (type - 12) / 2

/-- The value of a type at a position. -/
def ofType? (data : ByteArray) (position type : Nat) : Option Value :=
  if data.size < position + size type then none
  else
    match type with
    | 0 => some null
    | 8 => some (integer 0)
    | 9 => some (integer 1)
    | 7 => some real
    | type =>
      if type < 7 then
        (numberAt? data position (size type)).map fun n => integer (signed (8 * size type) n)
      else if type < 12 then none
      else
        let content := data.extract position (position + size type)
        some (if type % 2 = 0 then bytes content else text content)

/-- The values of types from a position on. -/
def ofTypes? (data : ByteArray) : Nat → List Nat → Option (List Value)
  | _, [] => some []
  | position, type :: rest => do
    let v ← ofType? data position type
    let vs ← ofTypes? data (position + size type) rest
    pure (v :: vs)

/-- The types of the values, from a position up to the end of their list. The first number bounds
them. -/
def types? (data : ByteArray) (stop : Nat) : Nat → Nat → Option (List Nat)
  | 0, _ => none
  | bound + 1, position =>
    if stop ≤ position then some []
    else do
      let (type, position) ← packedAt? data position
      let rest ← types? data stop bound position
      pure (type :: rest)

/-- The values of the content of a row. -/
def ofRow? (content : ByteArray) : Option (List Value) := do
  let (stop, position) ← packedAt? content 0
  let types ← types? content stop (content.size + 1) position
  ofTypes? content stop types

/-! ## Reading values -/

/-- A column of texts; null counts as the empty text. -/
def text? : Value → Option String
  | null => some ""
  | text data => String.fromUTF8? data
  | _ => none

/-- A column of truth values; null counts as false. -/
def bool? : Value → Option Bool
  | null => some false
  | integer n => some (n ≠ 0)
  | _ => none

/-- Any value as a text. -/
def castText? : Value → Option String
  | integer n => some (String.ofList (Number.intChars n))
  | bytes data => String.fromUTF8? data
  | v => text? v

end Value

end Sqlite

end StoreClient
