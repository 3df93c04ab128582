-- Keys, and values that may hold other values: arrays in brackets and tables in braces.
import StoreClient.Toml.Scalar

namespace StoreClient

namespace Toml

/-! ## Between values -/

/-- The text after a comment, from the line break on. A character that no comment may hold stops
it early. -/
def skipComment : List Char → List Char
  | '#' :: rest => rest.dropWhile isTextChar
  | cs => cs

/-- What follows blanks, comments and line breaks. The number bounds the lines. -/
def skipLines : Nat → List Char → List Char
  | 0, cs => cs
  | lines + 1, cs =>
    let cs := skipBlanks cs
    match lineBreak? (skipComment cs) with
    | some rest => skipLines lines rest
    | none => cs

/-- What follows blanks, comments and line breaks. -/
def skipSpace (cs : List Char) : List Char := skipLines (cs.length + 1) cs

/-! ## Keys -/

/-- The deepest that keys may go with dots, and values within each other, is one less than
this. -/
def depthLimit : Nat := 80

def isKeyChar (c : Char) : Bool :=
  Identifier.isAsciiLetter c || Identifier.isAsciiDigit c || c == '-' || c == '_'

/-- One part of a key, and what follows it. -/
def keyPart? (cs : List Char) : Option (String × List Char) :=
  match cs with
  | '"' :: rest => quoted [] rest
  | '\'' :: rest => plain [] rest
  | cs =>
    let part := cs.takeWhile isKeyChar
    if part.isEmpty then none else some (String.ofList part, cs.drop part.length)

/-- The parts of a key with dots between them, and what follows them. The number bounds the
parts. -/
def keyParts? : Nat → List Char → Option (List String × List Char)
  | 0, _ => none
  | parts + 1, cs => do
    let (part, rest) ← keyPart? (skipBlanks cs)
    match skipBlanks rest with
    | '.' :: rest =>
      let (others, rest) ← keyParts? parts rest
      pure (part :: others, rest)
    | rest => pure ([part], rest)

/-- A key: its parts but the last, and its last part. -/
def key? (cs : List Char) : Option (List String × String × List Char) := do
  let (parts, rest) ← keyParts? (depthLimit - 1) cs
  let last ← parts.getLast?
  pure (parts.dropLast, last, rest)

/-! ## Values -/

mutual

/-- One value and what follows it. The first number bounds the calls; the second one is how deep
the value may still go. -/
def value? : Nat → Nat → List Char → Option (TomlValue × List Char)
  | 0, _, _ => none
  | calls + 1, depth, cs =>
    match cs with
    | '[' :: rest =>
      match depth with
      | 0 => none
      | depth + 1 => do
        let (items, rest) ← items? calls depth rest
        pure (.array items, rest)
    | '{' :: rest =>
      match depth with
      | 0 => none
      | depth + 1 =>
        match skipBlanks rest with
        | '}' :: rest => some (.table [], rest)
        | rest => do
          let (members, rest) ← members? calls depth [] rest
          pure (.table (memberValues members), rest)
    | cs => scalar? cs

/-- The values of an array up to its closing bracket. A comma may follow the last one. -/
def items? : Nat → Nat → List Char → Option (List TomlValue × List Char)
  | 0, _, _ => none
  | calls + 1, depth, cs =>
    match skipSpace cs with
    | ']' :: rest => some ([], rest)
    | cs => do
      let (item, rest) ← value? calls depth cs
      match skipSpace rest with
      | ',' :: rest =>
        let (others, rest) ← items? calls depth rest
        pure (item :: others, rest)
      | ']' :: rest => pure ([item], rest)
      | _ => none

/-- The members of a table in braces up to its closing brace, added to those before them. -/
def members? : Nat → Nat → Members → List Char → Option (Members × List Char)
  | 0, _, _, _ => none
  | calls + 1, depth, before, cs => do
    let (path, key, rest) ← key? cs
    let rest ← Instant.expect '=' rest
    let (value, rest) ← value? calls depth (skipBlanks rest)
    let members ← before.put value key path
    match skipBlanks rest with
    | ',' :: rest => members? calls depth members rest
    | '}' :: rest => pure (members, rest)
    | _ => none

end

end Toml

end StoreClient
