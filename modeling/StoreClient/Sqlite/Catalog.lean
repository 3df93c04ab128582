-- The catalog of a store in its data file: the table `_collections`, with its rows in the
-- order of their numbers.
import StoreClient.Catalog.Basic
import StoreClient.Sqlite.Record

namespace StoreClient

namespace Sqlite

/-! ## Columns of a table

The columns are found in the statement that made the table. -/

def isWordChar (c : Char) : Bool :=
  Identifier.isAsciiLetter c || Identifier.isAsciiDigit c || c == '_' || 0x80 ≤ c.toNat

/-- The quote that closes a quote. -/
def closing? : Char → Option Char
  | '"' => some '"'
  | '\'' => some '\''
  | '\x60' => some '\x60'
  | '[' => some ']'
  | _ => none

/-- The definitions between the outer brackets of a statement, backwards and each backwards.
`depth` counts the open brackets, and `quote` is the quote that closes the current one. -/
def definitions (depth : Nat) (quote : Option Char) (done : List (List Char)) :
    List Char → List (List Char)
  | [] => done
  | c :: rest =>
    let added := match done with
      | [] => []
      | current :: others => (c :: current) :: others
    match quote with
    | some close => definitions depth (if c = close then none else quote) added rest
    | none =>
      match closing? c with
      | some close => definitions depth (some close) added rest
      | none =>
        if c = '(' then definitions (depth + 1) none (if depth = 0 then [[]] else added) rest
        else if c = ')' then
          if depth ≤ 1 then done else definitions (depth - 1) none added rest
        else if c = ',' && depth = 1 then definitions depth none ([] :: done) rest
        else definitions depth none added rest

/-- The name with which a definition starts, and what follows it. -/
def nameIn (definition : List Char) : List Char × List Char :=
  match definition.dropWhile Char.isWhitespace with
  | [] => ([], [])
  | c :: rest =>
    match closing? c with
    | some close => rest.span (· != close)
    | none => (c :: rest).span isWordChar

def lowered (cs : List Char) : String := String.ofList (cs.map Char.toLower)

/-- The words with which a definition starts that is not one of a column. -/
def isConstraint (definition : List Char) : Bool :=
  let cs := definition.dropWhile Char.isWhitespace
  ["constraint", "primary", "unique", "check", "foreign"].contains
    (lowered (cs.takeWhile isWordChar))

/-- The names of the columns that a statement defines, in lower case. -/
def columns (statement : List Char) : List String :=
  let all := (definitions 0 none [] statement).reverse.map List.reverse
  (all.filter fun d => !isConstraint d).map fun d => lowered (nameIn d).1

/-! ## The catalog -/

/-- Where the tree of a table begins, and the statement that made it. -/
def tableIn? (name : String) : List (List Value) → Option (Nat × String)
  | [] => none
  | [.text kind, .text table, _, .integer page, .text statement] :: rest =>
    if String.fromUTF8? kind = some "table" &&
        (String.fromUTF8? table).map (fun t => lowered t.toList) = some name
    then (String.fromUTF8? statement).map fun s => (page.toNat, s)
    else tableIn? name rest
  | _ :: rest => tableIn? name rest

/-- The value of a column in a row. Values that a row does not have are null. -/
def value? (columns : List String) (row : List Value) (name : String) : Option Value :=
  (columns.idxOf? name).map fun i => row[i]?.getD .null

/-- A row of the catalog. -/
def catalogRow? (columns : List String) (row : List Value) : Option CatalogRow := do
  pure {
    id := ← (← value? columns row "id").text?
    name := ← (← value? columns row "name").text?
    kind := ← (← value? columns row "type").text?
    isSystem := ← (← value? columns row "system").bool?
    fields := ← (← value? columns row "fields").castText? }

/-- The rows of the catalog in a data file. -/
def catalog? (data : ByteArray) : Option (List CatalogRow) := do
  let f ← File.ofBytes? data
  let tables ← (← f.table? 1).mapM fun (_, content) => Value.ofRow? content
  let (page, statement) ← tableIn? "_collections" tables
  let columns := columns statement.toList
  (← f.table? page).mapM fun (_, content) => do
    catalogRow? columns (← Value.ofRow? content)

end Sqlite

end StoreClient
