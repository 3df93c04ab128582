-- What can stand for a single value in a TOML text: texts in quotes, numbers, times and
-- words.
import StoreClient.Text.Digits
import StoreClient.Time.Instant
import StoreClient.Toml.Basic

namespace StoreClient

namespace Toml

/-! ## Characters -/

def isBlank (c : Char) : Bool := c == ' ' || c == '\t'

/-- Whether a text and a comment may hold a character as it is: every character but the control
characters, of which the tab may stand. -/
def isTextChar (c : Char) : Bool := c == '\t' || (' ' ≤ c && c != '\x7f')

def skipBlanks (cs : List Char) : List Char := cs.dropWhile isBlank

/-- The text after a line break, if it starts with one. -/
def lineBreak? : List Char → Option (List Char)
  | '\n' :: rest => some rest
  | '\r' :: '\n' :: rest => some rest
  | _ => none

/-- The text without a line break at its start. -/
def skipBreak (cs : List Char) : List Char := (lineBreak? cs).getD cs

/-! ## Texts in quotes -/

/-- The character of an escape by letter. -/
def escape? : Char → Option Char
  | 'b' => some '\x08'
  | 't' => some '\t'
  | 'n' => some '\n'
  | 'f' => some '\x0c'
  | 'r' => some '\r'
  | '"' => some '"'
  | '\\' => some '\\'
  | _ => none

def textOf (backwards : List Char) : String := String.ofList backwards.reverse

/-- A text in double quotes after the first quote, and what follows it. -/
def quoted (done : List Char) : List Char → Option (String × List Char)
  | [] => none
  | '"' :: rest => some (textOf done, rest)
  | '\\' :: 'u' :: a :: b :: c :: d :: rest =>
    match Digits.char? [a, b, c, d] with
    | some x => quoted (x :: done) rest
    | none => none
  | '\\' :: 'U' :: a :: b :: c :: d :: e :: f :: g :: h :: rest =>
    match Digits.char? [a, b, c, d, e, f, g, h] with
    | some x => quoted (x :: done) rest
    | none => none
  | '\\' :: c :: rest =>
    match escape? c with
    | some x => quoted (x :: done) rest
    | none => none
  | c :: rest => if isTextChar c && c != '\\' then quoted (c :: done) rest else none

/-- A text in single quotes after the first quote, and what follows it. -/
def plain (done : List Char) : List Char → Option (String × List Char)
  | [] => none
  | '\'' :: rest => some (textOf done, rest)
  | c :: rest => if isTextChar c then plain (c :: done) rest else none

/-- Whether only blanks stand before the next line break. -/
def endsLine (cs : List Char) : Bool := (lineBreak? (skipBlanks cs)).isSome

/-- A text of lines between three double quotes after the first quotes, and what follows it.
A backslash at the end of a line is left out together with all blanks and line breaks after it;
`isJoining` says that these are being left out. Up to two quotes may stand before the last
three. -/
def quotedLines (isJoining : Bool) (done : List Char) : List Char → Option (String × List Char)
  | [] => none
  | '"' :: '"' :: '"' :: '"' :: '"' :: rest => some (textOf ('"' :: '"' :: done), rest)
  | '"' :: '"' :: '"' :: '"' :: rest => some (textOf ('"' :: done), rest)
  | '"' :: '"' :: '"' :: rest => some (textOf done, rest)
  | '\n' :: rest =>
    if isJoining then quotedLines true done rest else quotedLines false ('\n' :: done) rest
  | '\r' :: '\n' :: rest =>
    if isJoining then quotedLines true done rest else quotedLines false ('\n' :: done) rest
  | '\\' :: 'u' :: a :: b :: c :: d :: rest =>
    match Digits.char? [a, b, c, d] with
    | some x => quotedLines false (x :: done) rest
    | none => none
  | '\\' :: 'U' :: a :: b :: c :: d :: e :: f :: g :: h :: rest =>
    match Digits.char? [a, b, c, d, e, f, g, h] with
    | some x => quotedLines false (x :: done) rest
    | none => none
  | '\\' :: c :: rest =>
    if endsLine (c :: rest) then quotedLines true done (c :: rest)
    else
      match escape? c with
      | some x => quotedLines false (x :: done) rest
      | none => none
  | c :: rest =>
    if isJoining && isBlank c then quotedLines true done rest
    else if isTextChar c && c != '\\' then quotedLines false (c :: done) rest
    else none

/-- A text of lines between three single quotes after the first quotes, and what follows it. -/
def plainLines (done : List Char) : List Char → Option (String × List Char)
  | [] => none
  | '\'' :: '\'' :: '\'' :: '\'' :: '\'' :: rest => some (textOf ('\'' :: '\'' :: done), rest)
  | '\'' :: '\'' :: '\'' :: '\'' :: rest => some (textOf ('\'' :: done), rest)
  | '\'' :: '\'' :: '\'' :: rest => some (textOf done, rest)
  | '\n' :: rest => plainLines ('\n' :: done) rest
  | '\r' :: '\n' :: rest => plainLines ('\n' :: done) rest
  | c :: rest => if isTextChar c then plainLines (c :: done) rest else none

/-- A text of any of the four kinds, and what follows it. -/
def text? : List Char → Option (String × List Char)
  | '"' :: '"' :: '"' :: rest => quotedLines false [] (skipBreak rest)
  | '"' :: rest => quoted [] rest
  | '\'' :: '\'' :: '\'' :: rest => plainLines [] (skipBreak rest)
  | '\'' :: rest => plain [] rest
  | _ => none

/-! ## Numbers -/

/-- Digits with single underscores between them, and what follows them. The digits are given
without the underscores. -/
def digits? (base : Nat) : List Char → Option (List Char × List Char)
  | [] => none
  | c :: '_' :: rest =>
    if (Digits.digit? base c).isNone then none
    else (digits? base rest).map fun (ds, rest) => (c :: ds, rest)
  | c :: rest =>
    if (Digits.digit? base c).isNone then none
    else if (rest.head?.bind (Digits.digit? base)).isNone then some ([c], rest)
    else (digits? base rest).map fun (ds, rest) => (c :: ds, rest)

/-- Whether there is a minus sign, and what follows the sign. -/
def sign : List Char → Bool × List Char
  | '-' :: rest => (true, rest)
  | '+' :: rest => (false, rest)
  | cs => (false, cs)

/-- The digits of a whole number in base ten: none follow a leading zero. -/
def whole? : List Char → Option (List Char × List Char)
  | '0' :: rest => some (['0'], rest)
  | cs => digits? 10 cs

/-- The exponent of a number with its letter, and what follows it. -/
def exponent? : List Char → Option (Int × List Char)
  | 'e' :: rest | 'E' :: rest =>
    let (isMinus, rest) := sign rest
    (digits? 10 rest).map fun (ds, rest) =>
      let n : Int := Number.natOfDigits ds
      (if isMinus then -n else n, rest)
  | rest => some (0, rest)

/-- What stands between a text and the rest of it. -/
def taken (cs rest : List Char) : String := String.ofList (cs.take (cs.length - rest.length))

/-- A whole number; it has sixty-four bits. -/
def integer? (n : Int) : Option TomlValue :=
  if -Int.pow 2 63 ≤ n ∧ n < Int.pow 2 63 then some (.integer n) else none

/-- A number with a point, an exponent or both after its digits. None lies beyond the largest
double, but one below the least double counts as infinite. -/
def float? (isMinus : Bool) (digits fraction : List Char) (exponent : Int) (text : String) :
    Option TomlValue :=
  let all := digits ++ fraction
  if isMinus || (Number.nearestDouble? false all (exponent - fraction.length)).isSome then
    some (.float text)
  else none

/-- A number in base ten, and what follows it. -/
def decimal? (cs : List Char) : Option (TomlValue × List Char) := do
  let (isMinus, unsigned) := sign cs
  let (whole, rest) ← whole? unsigned
  match rest with
  | '.' :: rest =>
    let (fraction, rest) ← digits? 10 rest
    let (exponent, rest) ← exponent? rest
    pure (← float? isMinus whole fraction exponent (taken cs rest), rest)
  | 'e' :: _ | 'E' :: _ =>
    let (exponent, rest) ← exponent? rest
    pure (← float? isMinus whole [] exponent (taken cs rest), rest)
  | rest =>
    let n : Int := Number.natOfDigits whole
    pure (← integer? (if isMinus then -n else n), rest)

/-- A number in another base after the mark of the base, and what follows it. -/
def based? (base : Nat) (cs : List Char) : Option (TomlValue × List Char) := do
  let (ds, rest) ← digits? base cs
  let n ← Digits.number? base ds
  pure (← integer? n, rest)

/-- The words of numbers that are not finite. -/
def isNotFinite : List Char → Bool
  | 'i' :: 'n' :: 'f' :: _ | 'n' :: 'a' :: 'n' :: _ => true
  | _ => false

/-- A number, and what follows it. -/
def number? (cs : List Char) : Option (TomlValue × List Char) :=
  match cs with
  | '0' :: 'x' :: rest => based? 16 rest
  | '0' :: 'o' :: rest => based? 8 rest
  | '0' :: 'b' :: rest => based? 2 rest
  | cs =>
    let unsigned := (sign cs).2
    if isNotFinite unsigned then
      let rest := unsigned.drop 3
      some (.float (taken cs rest), rest)
    else decimal? cs

/-! ## Times -/

open Instant (exactly expect fraction)

/-- A number of two digits up to a limit, and what follows it. -/
def twoUpTo (limit : Nat) (cs : List Char) : Option (Nat × List Char) :=
  (exactly 2 cs).filter fun p => p.1 ≤ limit

/-- What follows a date. -/
def afterDate? (cs : List Char) : Option (List Char) := do
  let (year, cs) ← exactly 4 cs
  let cs ← expect '-' cs
  let (month, cs) ← exactly 2 cs
  let cs ← expect '-' cs
  let (day, cs) ← exactly 2 cs
  if Date.isValid ⟨year, month, day⟩ then some cs else none

/-- What follows a time of day. The last second of a day may be a leap second. -/
def afterTime? (cs : List Char) : Option (List Char) := do
  let (_, cs) ← twoUpTo 23 cs
  let cs ← expect ':' cs
  let (_, cs) ← twoUpTo 59 cs
  let cs ← expect ':' cs
  let (_, cs) ← twoUpTo 60 cs
  let (_, cs) ← fraction cs
  pure cs

/-- What follows an offset from universal time, if there is one. -/
def afterOffset? (cs : List Char) : Option (List Char) :=
  match cs with
  | 'Z' :: rest | 'z' :: rest => some rest
  | '+' :: rest | '-' :: rest => do
    let (_, cs) ← twoUpTo 23 rest
    let cs ← expect ':' cs
    let (_, cs) ← twoUpTo 59 cs
    pure cs
  | rest => some rest

/-- A date, a time of day or both, and what follows. -/
def time? (cs : List Char) : Option (TomlValue × List Char) := do
  let rest ← match afterDate? cs with
    | none => afterTime? cs
    | some rest =>
      match rest with
      | c :: clock =>
        if Instant.isSeparator c && (afterTime? clock).isSome then
          (afterTime? clock).bind afterOffset?
        else some rest
      | [] => some rest
  pure (.time (taken cs rest), rest)

/-! ## All kinds -/

/-- A single value, and what follows it. -/
def scalar? (cs : List Char) : Option (TomlValue × List Char) :=
  match cs with
  | '"' :: _ | '\'' :: _ => (text? cs).map fun (s, rest) => (.text s, rest)
  | 't' :: 'r' :: 'u' :: 'e' :: rest => some (.bool true, rest)
  | 'f' :: 'a' :: 'l' :: 's' :: 'e' :: rest => some (.bool false, rest)
  | cs => (time? cs).or (number? cs)

end Toml

end StoreClient
