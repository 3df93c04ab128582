-- TOML values, and tables as they grow: a table remembers how it came about, since that
-- says what may still be added to it.

namespace StoreClient

/-- A value. Numbers that are not whole and times are kept as they are written. -/
inductive TomlValue where
  | text (text : String)
  | integer (n : Int)
  | float (text : String)
  | time (text : String)
  | bool (b : Bool)
  | array (items : List TomlValue)
  | table (members : List (String × TomlValue))
deriving Inhabited

namespace Toml

/-- How a table came about. -/
inductive Origin where
  /-- A header names it, or it is written in braces, or it is the whole document. -/
  | stated
  /-- It is on the way to a table that a header names. -/
  | onTheWay
  /-- The dots of a key make it. -/
  | dotted
deriving DecidableEq, Repr

/-- What a key of a growing table has. -/
inductive Item where
  | value (v : TomlValue)
  | table (origin : Origin) (members : List (String × Item))
  /-- The tables that headers in double brackets name, the last one first. -/
  | tables (all : List (List (String × Item)))
deriving Inhabited

/-- The members of a growing table. -/
abbrev Members := List (String × Item)

namespace Members

def has (key : String) (ms : Members) : Bool := ms.any fun m => m.1 = key

/-- The members with another item for a key. -/
def set (key : String) (item : Item) : Members → Members
  | [] => [(key, item)]
  | (k, old) :: rest => if k = key then (k, item) :: rest else (k, old) :: set key item rest

/-! ## Keys with values -/

/-- Gives a value to a dotted key. The dots lead only through tables that dots may extend, and
the last of these tables must be made by dots itself. -/
def put (value : TomlValue) (key : String) : List String → Members → Option Members
  | [], ms => if ms.has key then none else some (ms.set key (.value value))
  | step :: path, ms =>
    match ms.lookup step with
    | none => (put value key path []).map fun inner => ms.set step (.table .dotted inner)
    | some (.table origin inner) =>
      if origin = .stated || (path.isEmpty && origin ≠ .dotted) then none
      else (put value key path inner).map fun inner => ms.set step (.table origin inner)
    | some (.tables (last :: others)) =>
      if path.isEmpty then none
      else (put value key path last).map fun last => ms.set step (.tables (last :: others))
    | some _ => none

/-! ## Headers -/

/-- Changes the table at the end of a path. Tables that are missing on the way are made; a list
of tables stands for its last one. -/
def within (change : Members → Option Members) : List String → Members → Option Members
  | [], ms => change ms
  | step :: path, ms =>
    match ms.lookup step with
    | none => (within change path []).map fun inner => ms.set step (.table .onTheWay inner)
    | some (.table origin inner) =>
      (within change path inner).map fun inner => ms.set step (.table origin inner)
    | some (.tables (last :: others)) =>
      (within change path last).map fun last => ms.set step (.tables (last :: others))
    | some _ => none

/-- States a table; it may have been on the way to others before. -/
def state (key : String) (ms : Members) : Option Members :=
  match ms.lookup key with
  | none => some (ms.set key (.table .stated []))
  | some (.table .onTheWay inner) => some (ms.set key (.table .stated inner))
  | some _ => none

/-- Adds an empty table to a list of tables. -/
def push (key : String) (ms : Members) : Option Members :=
  match ms.lookup key with
  | none => some (ms.set key (.tables [[]]))
  | some (.tables all) => some (ms.set key (.tables ([] :: all)))
  | some _ => none

end Members

/-! ## Finished tables -/

mutual

def Item.toValue : Item → TomlValue
  | .value v => v
  | .table _ members => .table (memberValues members)
  | .tables all => .array (tableValues all).reverse

def memberValues : List (String × Item) → List (String × TomlValue)
  | [] => []
  | (key, item) :: rest => (key, item.toValue) :: memberValues rest

def tableValues : List (List (String × Item)) → List TomlValue
  | [] => []
  | members :: rest => .table (memberValues members) :: tableValues rest

end

end Toml

end StoreClient
