-- A place in a YAML text: what is left of the text, and the line and column reached.
import StoreClient.Text.Identifier

namespace StoreClient

namespace Yaml

/-! ## Characters -/

def isBlank (c : Char) : Bool := c == ' ' || c == '\t'

def isBreak (c : Char) : Bool :=
  c == '\n' || c == '\r' || c == '\u0085' || c == '\u2028' || c == '\u2029'

/-- The characters of names: of anchors, directives and tag handles. -/
def isWordChar (c : Char) : Bool :=
  Identifier.isAsciiLetter c || Identifier.isAsciiDigit c || c == '_' || c == '-'

/-- The characters that a text may hold. Control characters and the byte order mark are none. -/
def isAllowed (c : Char) : Bool :=
  let n := c.toNat
  n == 0x09 || n == 0x0A || n == 0x0D || (0x20 ≤ n && n ≤ 0x7E) || n == 0x85 ||
    (0xA0 ≤ n && n ≤ 0xD7FF) || (0xE000 ≤ n && n ≤ 0xFFFD && n != 0xFEFF) ||
    (0x10000 ≤ n && n ≤ 0x10FFFF)

/-- Whether a blank, a line break or the end of the text stands next. -/
def endsWord : List Char → Bool
  | [] => true
  | c :: _ => isBlank c || isBreak c

/-- Whether a line break or the end of the text stands next. -/
def endsLine : List Char → Bool
  | [] => true
  | c :: _ => isBreak c

/-- Whether a line that starts so begins or ends a document. -/
def isDocumentMarker (cs : List Char) : Bool :=
  match cs with
  | '-' :: '-' :: '-' :: rest | '.' :: '.' :: '.' :: rest => endsWord rest
  | _ => false

/-! ## Places -/

structure Cursor where
  rest : List Char
  /-- How many characters come before. -/
  index : Nat
  line : Nat
  column : Nat
deriving Inhabited

namespace Cursor

def start (text : List Char) : Cursor := ⟨text, 0, 0, 0⟩

/-- After one character within a line. -/
def skip (c : Cursor) : Cursor :=
  { c with rest := c.rest.drop 1, index := c.index + 1, column := c.column + 1 }

/-- After some characters within a line. -/
def skipSome (c : Cursor) (n : Nat) : Cursor :=
  { c with rest := c.rest.drop n, index := c.index + n, column := c.column + n }

/-- The characters of a line as long as they are of a kind, and the place after them. -/
def span (p : Char → Bool) (c : Cursor) : List Char × Cursor :=
  let found := c.rest.takeWhile p
  (found, c.skipSome found.length)

def skipWhile (p : Char → Bool) (c : Cursor) : Cursor := (c.span p).2

/-- A line break as it counts in a scalar, and the place after it. Most breaks count as a line
feed; there is none at the end of the text. -/
def lineBreak (c : Cursor) : List Char × Cursor :=
  let next (n : Nat) (rest : List Char) : Cursor :=
    { rest, index := c.index + n, line := c.line + 1, column := 0 }
  match c.rest with
  | '\r' :: '\n' :: rest => (['\n'], next 2 rest)
  | '\r' :: rest | '\n' :: rest | '\u0085' :: rest => (['\n'], next 1 rest)
  | '\u2028' :: rest => (['\u2028'], next 1 rest)
  | '\u2029' :: rest => (['\u2029'], next 1 rest)
  | _ => ([], c)

/-- Whether a line that begins or ends a document starts here. -/
def atDocumentMarker (c : Cursor) : Bool := c.column == 0 && isDocumentMarker c.rest

end Cursor

end Yaml

end StoreClient
