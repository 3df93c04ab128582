-- Double-quoted literals, as JSON and the generated client both write them: quotes,
-- backslashes and control characters are escaped and every other character stands as it is.

namespace StoreClient

namespace Literal

/-- A digit of a `\u00xx` escape, in lower case. -/
def hexDigit (n : Nat) : Char :=
  if n < 10 then Char.ofNat ('0'.toNat + n) else Char.ofNat ('a'.toNat + (n - 10))

/-- How one character stands inside a literal. -/
def escape (c : Char) : List Char :=
  match c with
  | '"' => ['\\', '"']
  | '\\' => ['\\', '\\']
  | '\n' => ['\\', 'n']
  | '\r' => ['\\', 'r']
  | '\t' => ['\\', 't']
  | '\x08' => ['\\', 'b']
  | '\x0c' => ['\\', 'f']
  | c =>
    if c.toNat < 32 then ['\\', 'u', '0', '0', hexDigit (c.toNat / 16), hexDigit (c.toNat % 16)]
    else [c]

/-- The inside of a literal. -/
def encode (cs : List Char) : List Char := cs.flatMap escape

/-- The literal of a text, with its quotes. -/
def quote (cs : List Char) : List Char := '"' :: (encode cs ++ ['"'])

/-- The literal of a text, as text. -/
def ofString (s : String) : String := String.ofList (quote s.toList)

end Literal

end StoreClient
