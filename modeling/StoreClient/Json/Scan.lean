-- From a text to its draft. The scan goes once from left to right; where the text breaks
-- off there is no rest.
import StoreClient.Json.Draft
import StoreClient.Text.Digits
import StoreClient.Text.Identifier

namespace StoreClient

namespace Scan

/-- A draft, and the text after it unless it holds a break. -/
abbrev Step := Draft × Option (List Char)

def isBlank (c : Char) : Bool := c == ' ' || c == '\n' || c == '\t' || c == '\r'

def skipBlank (cs : List Char) : List Char := cs.dropWhile isBlank

/-! ## Words and numbers -/

/-- The rest of a word whose first letter is read. -/
def word (value : Draft) : List Char → List Char → Step
  | [], rest => (value, some rest)
  | _ :: _, [] => (.flawedWord .truncated (some .truncated), none)
  | c :: expected, d :: rest =>
    if c = d then word value expected rest else (.flawedWord .malformed (some .malformed), none)

/-- A number that breaks off; the end of the text counts only for who reads the number. -/
def brokenNumber (rest : List Char) : Step :=
  (.flawedWord (if rest.isEmpty then .truncated else .malformed) (some .malformed), none)

/-- A number literal that is complete. -/
def numbered (l : Number.Literal) (rest : List Char) : Step :=
  match Number.ofLiteral? l with
  | some n => (.number n, some rest)
  | none => (.flawedWord .malformed none, some rest)

def splitDigits (cs : List Char) : List Char × List Char := cs.span Identifier.isAsciiDigit

/-- What may follow the digits after the point. -/
def exponentPart (negative : Bool) (whole fraction : List Char) (cs : List Char) : Step :=
  match cs with
  | 'e' :: rest | 'E' :: rest =>
    let (minus, rest) := match rest with
      | '-' :: rest => (true, rest)
      | '+' :: rest => (false, rest)
      | rest => (false, rest)
    match splitDigits rest with
    | ([], rest) => brokenNumber rest
    | (digits, rest) => numbered ⟨negative, whole, fraction, some (minus, digits)⟩ rest
  | rest => numbered ⟨negative, whole, fraction, none⟩ rest

/-- What may follow the digits before the point. -/
def fractionPart (negative : Bool) (whole : List Char) (cs : List Char) : Step :=
  match cs with
  | '.' :: rest =>
    match splitDigits rest with
    | ([], rest) => brokenNumber rest
    | (fraction, rest) => exponentPart negative whole fraction rest
  | rest => exponentPart negative whole [] rest

/-- A number after its sign. No digit may follow a leading zero. -/
def number (negative : Bool) (cs : List Char) : Step :=
  match splitDigits cs with
  | ([], rest) => brokenNumber rest
  | ('0' :: _ :: _, _) => (.flawedWord .malformed (some .malformed), none)
  | (whole, rest) => fractionPart negative whole rest

/-! ## Texts -/

/-- The character of a one-letter escape. -/
def escaped? : Char → Option Char
  | '"' => some '"'
  | '\\' => some '\\'
  | '/' => some '/'
  | 'b' => some '\x08'
  | 'f' => some '\x0c'
  | 'n' => some '\n'
  | 'r' => some '\r'
  | 't' => some '\t'
  | _ => none

def isHighSurrogate (n : Nat) : Bool := 0xD800 ≤ n && n ≤ 0xDBFF

def isLowSurrogate (n : Nat) : Bool := 0xDC00 ≤ n && n ≤ 0xDFFF

/-- The character of a surrogate pair. -/
def paired (high low : Nat) : Char :=
  Char.ofNat (0x10000 + (high - 0xD800) * 0x400 + (low - 0xDC00))

/-- The state of a scan inside a text: the characters so far, the last one first, a first half of
a pair that waits for its second half, and the first flaw met. -/
structure Inside where
  chars : List Char
  high : Option Nat
  flaw : Option Break

namespace Inside

/-- A half of a pair that nothing completes is a flaw. -/
def settled (s : Inside) : Inside :=
  if s.high.isSome then { s with high := none, flaw := s.flaw.or (some .malformed) } else s

def push (s : Inside) (c : Char) : Inside :=
  let s := s.settled
  { s with chars := c :: s.chars }

/-- An escape that gives a number of 16 bits. -/
def pushCode (s : Inside) (n : Nat) : Inside :=
  match s.high with
  | some high =>
    if isLowSurrogate n then { s with chars := paired high n :: s.chars, high := none }
    else { s with high := none, flaw := s.flaw.or (some .malformed) }
  | none =>
    if isHighSurrogate n then { s with high := some n }
    else if isLowSurrogate n then { s with flaw := s.flaw.or (some .malformed) }
    else { s with chars := Char.ofNat n :: s.chars }

/-- The scan stops here with a break, unless a flaw came before it. -/
def broken (s : Inside) (b : Break) : Step := (.flawedText (s.flaw.getD b) (some b), none)

/-- The closing quote. -/
def closed (s : Inside) (rest : List Char) : Step :=
  let s := s.settled
  match s.flaw with
  | none => (.text (String.ofList s.chars.reverse), some rest)
  | some b => (.flawedText b none, some rest)

end Inside

/-- A text after its opening quote. An escape by number needs four more bytes of text. -/
def text (s : Inside) : List Char → Step
  | [] => s.broken .truncated
  | '"' :: rest => s.closed rest
  | ['\\'] => s.broken .truncated
  | '\\' :: 'u' :: a :: b :: c :: d :: rest =>
    match Digits.number? 16 [a, b, c, d] with
    | some n => text (s.pushCode n) rest
    | none => s.broken .malformed
  | '\\' :: 'u' :: rest =>
    s.broken (if (String.ofList rest).utf8ByteSize < 4 then .truncated else .malformed)
  | '\\' :: e :: rest =>
    match escaped? e with
    | some c => text (s.push c) rest
    | none => s.settled.broken .malformed
  | c :: rest =>
    if c.toNat < 32 then s.broken .malformed else text (s.push c) rest

/-! ## Values -/

mutual

/-- One value and the rest. The first number bounds the calls; twice the length of the text
always suffices. -/
def value : Nat → List Char → Step
  | 0, _ => (.absent .malformed, none)
  | fuel + 1, cs =>
    match skipBlank cs with
    | [] => (.absent .truncated, none)
    | '"' :: rest => text ⟨[], none, none⟩ rest
    | '[' :: rest =>
      let (items, ending, rest) := items fuel true rest
      (.array items ending, rest)
    | '\x7b' :: rest =>
      let (members, ending, rest) := members fuel true rest
      (.object members ending, rest)
    | 'n' :: rest => word .null ['u', 'l', 'l'] rest
    | 't' :: rest => word (.bool true) ['r', 'u', 'e'] rest
    | 'f' :: rest => word (.bool false) ['a', 'l', 's', 'e'] rest
    | '-' :: rest => number true rest
    | c :: rest =>
      if Identifier.isAsciiDigit c then number false (c :: rest) else (.absent .malformed, none)

/-- The items of an array up to its end: the first of them, or those after a comma. -/
def items : Nat → Bool → List Char → List Draft × Option Break × Option (List Char)
  | 0, _, _ => ([], some .malformed, none)
  | fuel + 1, first, cs =>
    let item (cs : List Char) : List Draft × Option Break × Option (List Char) :=
      match value fuel cs with
      | (d, none) => ([d], none, none)
      | (d, some rest) =>
        let (ds, ending, rest) := items fuel false rest
        (d :: ds, ending, rest)
    match skipBlank cs with
    | [] => ([], some .truncated, none)
    | ']' :: rest => ([], none, some rest)
    | ',' :: rest =>
      if first then ([], some .malformed, none)
      else
        match skipBlank rest with
        | [] => ([], some .truncated, none)
        | ']' :: _ => ([], some .malformed, none)
        | rest => item rest
    | rest => if first then item rest else ([], some .malformed, none)

/-- The members of an object up to its end. -/
def members : Nat → Bool → List Char → List (Draft × Draft) × Option Break × Option (List Char)
  | 0, _, _ => ([], some .malformed, none)
  | fuel + 1, first, cs =>
    let member (cs : List Char) : List (Draft × Draft) × Option Break × Option (List Char) :=
      match text ⟨[], none, none⟩ cs with
      | (key, none) => ([(key, .absent .malformed)], none, none)
      | (key, some rest) =>
        match skipBlank rest with
        | ':' :: rest =>
          match value fuel rest with
          | (d, none) => ([(key, d)], none, none)
          | (d, some rest) =>
            let (ds, ending, rest) := members fuel false rest
            ((key, d) :: ds, ending, rest)
        | [] => ([(key, .absent .truncated)], none, none)
        | _ => ([(key, .absent .malformed)], none, none)
    match skipBlank cs with
    | [] => ([], some .truncated, none)
    | '\x7d' :: rest => ([], none, some rest)
    | ',' :: rest =>
      if first then ([], some .malformed, none)
      else
        match skipBlank rest with
        | [] => ([], some .truncated, none)
        | '"' :: rest => member rest
        | _ => ([], some .malformed, none)
    | '"' :: rest => if first then member rest else ([], some .malformed, none)
    | _ => ([], some .malformed, none)

end

/-- The draft of a text, and what follows its value. -/
def draft (cs : List Char) : Step := value (2 * cs.length + 2) cs

/-- What follows a value must be blank. -/
def endOf : Option (List Char) → Except Break Unit
  | some rest => if (skipBlank rest).isEmpty then .ok () else .error .malformed
  | none => .ok ()

end Scan

/-- The levels of arrays and objects that a JSON text may have. -/
def Json.deepest : Nat := 127

/-- The value of a JSON text. -/
def Json.parse (s : String) : Except Break Json :=
  let (draft, rest) := Scan.draft s.toList
  match draft.read Json.deepest with
  | .error b => .error b
  | .ok j =>
    match Scan.endOf rest with
    | .error b => .error b
    | .ok () => .ok j

end StoreClient
