-- Numbers of data: whole numbers of 64 bits are kept exactly, and every other number is
-- a double. A whole number and a double of the same value are different numbers.
import StoreClient.Number.Shortest

namespace StoreClient

/-- A number of a JSON value. -/
inductive Number where
  | int (value : Int)
  | double (value : Double)
deriving DecidableEq, Repr, Inhabited

namespace Number

/-! ## The text of a number -/

/-- The decimal digits of a natural number. -/
def natChars (n : Nat) : List Char := Nat.toDigits 10 n

/-- Decimal digits, with a minus sign for a number below zero. -/
def intChars : Int → List Char
  | .ofNat n => natChars n
  | .negSucc n => '-' :: natChars (n + 1)

def chars : Number → List Char
  | .int value => intChars value
  | .double value => value.chars

def text (n : Number) : String := String.ofList n.chars

/-- Whether the number is at most the natural number `n`. -/
def leNat : Number → Nat → Bool
  | .int value, n => value ≤ n
  | .double value, n => value.leNat n

/-! ## Reading the parts of a literal

A literal that is no whole number of 64 bits is read in two roundings: its digits as a whole
number, as many of them as 64 bits hold, and then that number times or over a power of ten. -/

/-- `significand · 10 ^ scale`, with a significand below `2 ^ 64`. -/
structure Decimal where
  significand : Nat
  scale : Int
deriving DecidableEq, Repr

def digitValue (c : Char) : Nat := c.toNat - '0'.toNat

/-- The digits before the point. The first digit that no longer fits is dropped with all that
follow it, and each dropped one counts as a power of ten. -/
def Decimal.ofWhole : Nat → List Char → Decimal
  | significand, [] => ⟨significand, 0⟩
  | significand, c :: rest =>
    let next := significand * 10 + digitValue c
    if next < Nat.pow 2 64 then ofWhole next rest else ⟨significand, rest.length + 1⟩

/-- The digits after the point, up to the first one that no longer fits. -/
def Decimal.withFraction : Decimal → List Char → Decimal
  | d, [] => d
  | d, c :: rest =>
    let next := d.significand * 10 + digitValue c
    if next < Nat.pow 2 64 then withFraction ⟨next, d.scale - 1⟩ rest else d

/-- The value of a run of digits. -/
def natOfDigits (digits : List Char) : Nat :=
  digits.foldl (fun n c => n * 10 + digitValue c) 0

/-- The double nearest to a decimal number, unless it lies beyond the largest one. An exponent far
beyond all doubles gives zero or nothing at once. -/
def nearestDouble? (negative : Bool) (digits : List Char) (exponent : Int) : Option Double :=
  let n := natOfDigits digits
  if n = 0 then some ⟨negative, 0, -1074⟩
  else if exponent + digits.length < -400 then some ⟨negative, 0, -1074⟩
  else if 400 < exponent then none
  else Double.ofDecimal? negative n exponent

/-- A double times a power of ten, where the power is itself rounded to a double. A power beyond
the largest double is only divided by, in steps of `10 ^ 308`, as long as the value is not zero:
the first number bounds these steps. -/
def scaled : Nat → Double → Int → Option Double
  | steps, x, scale =>
    if scale.natAbs ≤ 308 then
      match Double.ofDecimal? false 1 scale.natAbs with
      | some power => if 0 ≤ scale then x.mul power else x.div power
      | none => none
    else if x.isZero then some x
    else if 0 ≤ scale then none
    else
      match steps with
      | 0 => some x
      | steps + 1 =>
        match Double.ofDecimal? false 1 308 with
        | some power => (x.div power).bind fun y => scaled steps y (scale + 308)
        | none => none

/-- The double of a decimal, or nothing if it lies beyond the largest double. -/
def Decimal.toDouble? (d : Decimal) (negative : Bool) : Option Double :=
  (Double.ofNat? d.significand).bind fun x =>
    (scaled 4 x d.scale).map fun y => if negative then y.neg else y

/-- The parts of a number literal, all digits. -/
structure Literal where
  negative : Bool
  whole : List Char
  fraction : List Char
  /-- The sign of the exponent (true for a minus) and its digits. -/
  exponent : Option (Bool × List Char)
deriving DecidableEq, Repr

/-- A whole literal that fits 64 bits is a whole number, except minus zero. -/
def ofLiteral? (l : Literal) : Option Number :=
  let whole := Decimal.ofWhole 0 l.whole
  match l.fraction, l.exponent with
  | [], none =>
    if whole.scale ≠ 0 then (whole.toDouble? l.negative).map .double
    else if !l.negative then some (.int whole.significand)
    else if whole.significand ≠ 0 ∧ whole.significand ≤ Nat.pow 2 63 then
      some (.int (-(whole.significand : Int)))
    else (whole.toDouble? true).map .double
  | fraction, exponent =>
    let d := whole.withFraction fraction
    let shift : Int := match exponent with
      | none => 0
      | some (true, digits) => -(natOfDigits digits : Int)
      | some (false, digits) => natOfDigits digits
    (Decimal.toDouble? ⟨d.significand, d.scale + shift⟩ l.negative).map .double

end Number

end StoreClient
