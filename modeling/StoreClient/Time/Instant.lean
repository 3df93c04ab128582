-- Points in time and their texts. Two layouts are read: the strict one of RFC 3339 with
-- an offset, and the looser one of the store, which is always in universal time. One
-- layout is written, in universal time and to the millisecond.
import StoreClient.Number.Basic
import StoreClient.Text.Blank
import StoreClient.Text.Identifier
import StoreClient.Time.Calendar

namespace StoreClient

/-- A point in time: seconds from the start of 1970 and nanoseconds within the second. Inside a
leap second the seconds stand still and the nanoseconds go on from `10 ^ 9`. -/
structure Instant where
  seconds : Int
  nanos : Nat
deriving DecidableEq, Repr, Inhabited

/-- A date with a time of day, and the offset of the local clock from universal time. -/
structure Clock where
  date : Date
  hour : Nat
  minute : Nat
  /-- Up to 60: the last one is a leap second. -/
  second : Nat
  nanos : Nat
  offset : Int
deriving DecidableEq, Repr

namespace Clock

def isValid (c : Clock) : Bool :=
  c.date.isValid && c.hour ≤ 23 && c.minute ≤ 59 && c.second ≤ 60 && c.offset.natAbs < 86400

/-- The instant at which the clock shows this. -/
def instant (c : Clock) : Instant :=
  let second := min c.second 59
  let leap := if c.second = 60 then Nat.pow 10 9 else 0
  ⟨c.date.dayNumber * 86400 + (c.hour * 3600 + c.minute * 60 + second : Nat) - c.offset,
    c.nanos + leap⟩

/-- The instant, if the clock can show this. -/
def instant? (c : Clock) : Option Instant := if c.isValid then some c.instant else none

end Clock

namespace Instant

/-! ## Reading -/

/-- One character that must stand next. -/
def expect (c : Char) : List Char → Option (List Char)
  | d :: rest => if c = d then some rest else none
  | [] => none

/-- A number of at least one and at most `most` digits. -/
def upTo (most : Nat) (cs : List Char) : Option (Nat × List Char) :=
  let digits := (cs.take most).takeWhile Identifier.isAsciiDigit
  if digits.isEmpty then none else some (Number.natOfDigits digits, cs.drop digits.length)

/-- A number of exactly `count` digits. -/
def exactly (count : Nat) (cs : List Char) : Option (Nat × List Char) :=
  let digits := cs.take count
  if digits.length = count && digits.all Identifier.isAsciiDigit
  then some (Number.natOfDigits digits, cs.drop count) else none

/-- A number of any length. -/
def unbounded (cs : List Char) : Option (Nat × List Char) := upTo cs.length cs

/-- The nanoseconds of the digits of a fraction; digits beyond the ninth are cut off. -/
def nanosOfDigits (digits : List Char) : Nat :=
  let kept := digits.take 9
  Number.natOfDigits kept * Nat.pow 10 (9 - kept.length)

/-- A fraction of a second after its point, or none at all. -/
def fraction (cs : List Char) : Option (Nat × List Char) :=
  match cs with
  | '.' :: rest =>
    let digits := rest.takeWhile Identifier.isAsciiDigit
    if digits.isEmpty then none else some (nanosOfDigits digits, rest.drop digits.length)
  | rest => some (0, rest)

/-- Hours and minutes of an offset after its sign. -/
def offsetParts (cs : List Char) : Option (Nat × List Char) := do
  let (hours, cs) ← exactly 2 cs
  let cs ← expect ':' cs
  let (minutes, cs) ← exactly 2 cs
  if minutes < 60 then some (hours * 3600 + minutes * 60, cs) else none

/-- An offset from universal time: `Z`, or hours and minutes with a sign. -/
def offset (cs : List Char) : Option (Int × List Char) :=
  match cs with
  | 'Z' :: rest | 'z' :: rest => some (0, rest)
  | '+' :: rest => (offsetParts rest).map fun p => ((p.1 : Int), p.2)
  | '-' :: rest | '\u2212' :: rest => (offsetParts rest).map fun p => (-(p.1 : Int), p.2)
  | _ => none

/-- What may stand between date and time. -/
def isSeparator (c : Char) : Bool := c == 'T' || c == 't' || c == ' '

/-- What a text of RFC 3339 shows: four digits for the year and two for each other number. -/
def strictClock (cs : List Char) : Option Clock := do
  let (year, cs) ← exactly 4 cs
  let cs ← expect '-' cs
  let (month, cs) ← exactly 2 cs
  let cs ← expect '-' cs
  let (day, cs) ← exactly 2 cs
  match cs with
  | c :: cs =>
    if isSeparator c then
      let (hour, cs) ← exactly 2 cs
      let cs ← expect ':' cs
      let (minute, cs) ← exactly 2 cs
      let cs ← expect ':' cs
      let (second, cs) ← exactly 2 cs
      let (nanos, cs) ← fraction cs
      let (offset, cs) ← offset cs
      if cs.isEmpty then some ⟨⟨year, month, day⟩, hour, minute, second, nanos, offset⟩ else none
    else none
  | [] => none

/-- A year: four digits at most, or a sign and any number of digits. -/
def looseYear (cs : List Char) : Option (Int × List Char) :=
  match Blank.trimStart cs with
  | '-' :: rest => (unbounded rest).map fun p => (-(p.1 : Int), p.2)
  | '+' :: rest => (unbounded rest).map fun p => ((p.1 : Int), p.2)
  | cs => (upTo 4 cs).map fun p => ((p.1 : Int), p.2)

/-- A number of one or two digits, after white space. -/
def looseNumber (cs : List Char) : Option (Nat × List Char) := upTo 2 (Blank.trimStart cs)

/-- What a text of the store shows: numbers may be short and follow white space, which also
separates date and time, or does not. -/
def looseClock (cs : List Char) : Option Clock := do
  let (year, cs) ← looseYear cs
  let cs ← expect '-' cs
  let (month, cs) ← looseNumber cs
  let cs ← expect '-' cs
  let (day, cs) ← looseNumber cs
  let (hour, cs) ← looseNumber cs
  let cs ← expect ':' cs
  let (minute, cs) ← looseNumber cs
  let cs ← expect ':' cs
  let (second, cs) ← looseNumber cs
  let (nanos, cs) ← fraction cs
  let cs ← expect 'Z' cs
  if cs.isEmpty then some ⟨⟨year, month, day⟩, hour, minute, second, nanos, 0⟩ else none

def ofStrict? (cs : List Char) : Option Instant := (strictClock cs).bind Clock.instant?

def ofLoose? (cs : List Char) : Option Instant := (looseClock cs).bind Clock.instant?

/-- The instant of a text in either layout. -/
def ofChars? (cs : List Char) : Option Instant := (ofStrict? cs).or (ofLoose? cs)

/-! ## Writing -/

/-- A number with zeros before it up to a width. -/
def padded (width n : Nat) : List Char :=
  let digits := Number.natChars n
  List.replicate (width - digits.length) '0' ++ digits

/-- A year with at least four digits; outside the years 0 to 9999 it has a sign. -/
def yearChars (year : Int) : List Char :=
  if 0 ≤ year ∧ year ≤ 9999 then padded 4 year.toNat
  else (if year < 0 then '-' else '+') :: padded 4 year.natAbs

/-- The text of an instant: universal time, cut to milliseconds. -/
def chars (t : Instant) : List Char :=
  let date := Date.ofDayNumber (t.seconds / 86400)
  let ofDay := (t.seconds % 86400).toNat
  let second := ofDay % 60 + t.nanos / Nat.pow 10 9
  yearChars date.year ++ '-' :: (padded 2 date.month ++ '-' :: (padded 2 date.day ++
    'T' :: (padded 2 (ofDay / 3600) ++ ':' :: (padded 2 (ofDay / 60 % 60) ++
    ':' :: (padded 2 second ++ '.' ::
      (padded 3 (t.nanos % Nat.pow 10 9 / Nat.pow 10 6) ++ ['Z']))))))

def text (t : Instant) : String := String.ofList t.chars

end Instant

end StoreClient
