-- A TOML document: lines that each give a value to a key or name the table that the next
-- keys belong to.
import StoreClient.Toml.Value

namespace StoreClient

namespace Toml

/-- What a line says. -/
inductive Line where
  | entry (path : List String) (key : String) (value : TomlValue)
  /-- A header: the following keys belong to this table. -/
  | table (path : List String) (key : String)
  /-- A header in double brackets: the following keys belong to a new table of a list. -/
  | tables (path : List String) (key : String)

/-! ## Lines of a text -/

/-- The text after the end of a line, at which blanks and a comment may stand. -/
def lineEnd? (cs : List Char) : Option (List Char) :=
  match skipComment (skipBlanks cs) with
  | [] => some []
  | cs => lineBreak? cs

/-- The line that stands next, and the text after it. -/
def line? (cs : List Char) : Option (Line × List Char) :=
  match cs with
  | '[' :: '[' :: rest => do
    let (path, key, rest) ← key? rest
    let rest ← Instant.expect ']' rest
    let rest ← Instant.expect ']' rest
    pure (.tables path key, ← lineEnd? rest)
  | '[' :: rest => do
    let (path, key, rest) ← key? rest
    let rest ← Instant.expect ']' rest
    pure (.table path key, ← lineEnd? rest)
  | cs => do
    let (path, key, rest) ← key? cs
    let rest ← Instant.expect '=' rest
    let (value, rest) ← value? (2 * rest.length + 2) (depthLimit - 1) (skipBlanks rest)
    pure (.entry path key value, ← lineEnd? rest)

/-- The lines of a text. The number bounds them. -/
def linesWithin? : Nat → List Char → Option (List Line)
  | 0, _ => none
  | bound + 1, cs =>
    match skipBlanks cs with
    | [] => some []
    | '#' :: rest => (lineEnd? ('#' :: rest)).bind (linesWithin? bound)
    | cs =>
      match lineBreak? cs with
      | some rest => linesWithin? bound rest
      | none => do
        let (line, rest) ← line? cs
        let others ← linesWithin? bound rest
        pure (line :: others)

/-- The lines of a text. A byte order mark may stand before them. -/
def lines? (text : String) : Option (List Line) :=
  let cs := match text.toList with
    | '\uFEFF' :: rest => rest
    | cs => cs
  linesWithin? (cs.length + 1) cs

/-! ## From lines to a table -/

/-- A document as far as it is read: its members, and the path of the table that the next keys
belong to. -/
structure Reading where
  members : Members
  current : List String

/-- The document after one more line. -/
def Reading.add? (r : Reading) : Line → Option Reading
  | .entry path key value =>
    (r.members.within (Members.put value key path) r.current).map fun ms => ⟨ms, r.current⟩
  | .table path key => (r.members.within (Members.state key) path).map fun ms => ⟨ms, path ++ [key]⟩
  | .tables path key => (r.members.within (Members.push key) path).map fun ms => ⟨ms, path ++ [key]⟩

end Toml

/-- The members of a TOML document. -/
def TomlValue.ofText? (text : String) : Option (List (String × TomlValue)) := do
  let lines ← Toml.lines? text
  let r ← lines.foldlM Toml.Reading.add? ⟨[], []⟩
  pure (Toml.memberValues r.members)

end StoreClient
