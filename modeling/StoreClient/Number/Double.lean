-- Doubles as exact numbers: a sign, a significand and a power of two. Every
-- operation rounds to the nearest double, and a tie goes to the even significand.

namespace StoreClient

/-- A finite double, `significand · 2 ^ exponent` with a sign. In the doubles made below the
exponent is at least -1074, the significand is below `2 ^ 53`, and it is at least `2 ^ 52`
unless the exponent is -1074; so each double has one form, and the two zeros differ by sign. -/
structure Double where
  negative : Bool
  significand : Nat
  exponent : Int
deriving DecidableEq, Repr, Inhabited

namespace Double

/-! ## Rounding a quotient -/

/-- The natural number nearest to `num / den`; of two nearest ones the even one. -/
def nearest (num den : Nat) : Nat :=
  let q := num / den
  let r := num % den
  if 2 * r < den then q
  else if den < 2 * r then q + 1
  else q + q % 2

/-- `num / den` counted in units of `2 ^ exponent`, again as a fraction. -/
def inUnits (num den : Nat) (exponent : Int) : Nat × Nat :=
  if exponent < 0 then (num * Nat.pow 2 (-exponent).toNat, den)
  else (num, den * Nat.pow 2 exponent.toNat)

/-- The unit in which `num / den` has a significand of 53 bits, or the smallest unit. -/
def unitOf (num den : Nat) : Int :=
  let low := max (-1074) ((Nat.log2 num : Int) - Nat.log2 den - 53)
  let (n, d) := inUnits num den low
  if n / d < Nat.pow 2 53 then low else low + 1

/-- The double nearest to `num / den`, or nothing if it lies beyond the largest double. -/
def ofRatio (negative : Bool) (num den : Nat) : Option Double :=
  if num = 0 then some ⟨negative, 0, -1074⟩
  else
    let e := unitOf num den
    let (n, d) := inUnits num den e
    let m := nearest n d
    let (m, e) := if m = Nat.pow 2 53 then (Nat.pow 2 52, e + 1) else (m, e)
    if 971 < e then none else some ⟨negative, m, e⟩

/-- The absolute value as a fraction. -/
def ratio (x : Double) : Nat × Nat :=
  if x.exponent < 0 then (x.significand, Nat.pow 2 (-x.exponent).toNat)
  else (x.significand * Nat.pow 2 x.exponent.toNat, 1)

/-! ## Arithmetic -/

def isZero (x : Double) : Bool := x.significand = 0

def mul (x y : Double) : Option Double :=
  let (xn, xd) := x.ratio
  let (yn, yd) := y.ratio
  ofRatio (x.negative != y.negative) (xn * yn) (xd * yd)

/-- The quotient; the divisor is not zero. -/
def div (x y : Double) : Option Double :=
  let (xn, xd) := x.ratio
  let (yn, yd) := y.ratio
  ofRatio (x.negative != y.negative) (xn * yd) (xd * yn)

def neg (x : Double) : Double := { x with negative := !x.negative }

/-- The double nearest to a natural number. -/
def ofNat? (n : Nat) : Option Double := ofRatio false n 1

/-- The double nearest to `digits · 10 ^ exponent`. -/
def ofDecimal? (negative : Bool) (digits : Nat) (exponent : Int) : Option Double :=
  if exponent < 0 then ofRatio negative digits (Nat.pow 10 (-exponent).toNat)
  else ofRatio negative (digits * Nat.pow 10 exponent.toNat) 1

/-- Whether the double is at most the natural number `n`. -/
def leNat (x : Double) (n : Nat) : Bool :=
  let (num, den) := x.ratio
  x.negative || num ≤ n * den

end Double

end StoreClient
