-- The text of a double: the fewest digits that read back as the same double, and of
-- those the nearest to it.
import StoreClient.Number.Double

namespace StoreClient

namespace Double

/-! ## The interval of a double -/

/-- The numbers that round to a double, as fractions over one denominator: the double itself,
the middle between it and each neighbour, and whether the middles round to it as well. -/
structure Interval where
  value : Nat
  low : Nat
  high : Nat
  denominator : Nat
  closed : Bool

/-- The lower neighbour of a power of two is only half a unit away. -/
def interval (x : Double) : Interval :=
  let half := if x.significand = Nat.pow 2 52 ∧ -1074 < x.exponent then 1 else 2
  let e := x.exponent - 2
  let (scale, den) := if e < 0 then (1, Nat.pow 2 (-e).toNat) else (Nat.pow 2 e.toNat, 1)
  { value := 4 * x.significand * scale
    low := (4 * x.significand - half) * scale
    high := (4 * x.significand + 2) * scale
    denominator := den
    closed := x.significand % 2 = 0 }

/-- Whether `count · 10 ^ place` rounds to the double of the interval. -/
def Interval.holds (i : Interval) (count : Nat) (place : Int) : Bool :=
  let (n, d) :=
    if place < 0 then (count, Nat.pow 10 (-place).toNat) else (count * Nat.pow 10 place.toNat, 1)
  let m := n * i.denominator
  if i.closed then i.low * d ≤ m ∧ m ≤ i.high * d else i.low * d < m ∧ m < i.high * d

/-- `value / 10 ^ place` as a fraction. -/
def Interval.inPlaces (i : Interval) (place : Int) : Nat × Nat :=
  if place < 0 then (i.value * Nat.pow 10 (-place).toNat, i.denominator)
  else (i.value, i.denominator * Nat.pow 10 place.toNat)

/-- The neighbour of the double on the grid of multiples of `10 ^ place` that rounds to it:
the nearer one if both do, and the even one if both are as near. -/
def Interval.onGrid (i : Interval) (place : Int) : Option Nat :=
  let (n, d) := i.inPlaces place
  let below := n / d
  let hit := i.holds below place
  let hit' := i.holds (below + 1) place
  if hit && hit' then some (nearest n d)
  else if hit then some below
  else if hit' then some (below + 1)
  else none

/-- The first grid with a hit, from `place` on to finer ones. -/
def Interval.search (i : Interval) : Nat → Int → Nat × Int
  | 0, place => (nearest (i.inPlaces place).1 (i.inPlaces place).2, place)
  | grids + 1, place =>
    match i.onGrid place with
    | some count => (count, place)
    | none => i.search grids (place - 1)

/-- A place at which, or above which, no digit of the double stands: the binary digits before
the point, times the decimal logarithm of two, rounded up. -/
def topPlace (x : Double) : Int := (Nat.log2 x.significand + x.exponent + 1) * 30103 / 100000 + 1

/-- The shortest digits of a double that is not zero, and the place of the last of them. -/
def shortest (x : Double) : Nat × Int := x.interval.search 20 x.topPlace

/-! ## The text -/

/-- How a double is laid out: positional notation holds for exponents in a range. -/
structure Layout where
  leastPositional : Int
  firstScientific : Int

/-- Doubles are positional from `1e-5` on and below `1e16`. -/
def layout : Layout := ⟨-5, 16⟩

/-- Trailing zeros of the digits move into the place. -/
def trimZeros : Nat → Nat → Int → Nat × Int
  | 0, count, place => (count, place)
  | fuel + 1, count, place =>
    if count % 10 = 0 ∧ count ≠ 0 then trimZeros fuel (count / 10) (place + 1) else (count, place)

/-- The digits before and after the point, at least one on each side. -/
def positional (digits : List Char) (exponent : Int) : List Char :=
  if exponent < 0 then
    '0' :: '.' :: (List.replicate (-exponent - 1).toNat '0' ++ digits)
  else
    let whole := exponent.toNat + 1
    let front := (digits ++ List.replicate (whole - digits.length) '0').take whole
    let back := digits.drop whole
    front ++ '.' :: (if back.isEmpty then ['0'] else back)

/-- One digit before the point, and the sign of the exponent always written. -/
def scientific (digits : List Char) (exponent : Int) : List Char :=
  let mantissa := match digits with
    | d :: [] => [d]
    | d :: rest => d :: '.' :: rest
    | [] => []
  let sign := if exponent < 0 then '-' else '+'
  mantissa ++ 'e' :: sign :: (Nat.toDigits 10 exponent.natAbs)

/-- The text of a double: always with a point or an exponent, so it never reads as an integer. -/
def chars (x : Double) : List Char :=
  let sign := if x.negative then ['-'] else []
  if x.isZero then sign ++ ['0', '.', '0']
  else
    let (count, place) := x.shortest
    let (count, place) := trimZeros 25 count place
    let digits := Nat.toDigits 10 count
    let exponent := place + digits.length - 1
    sign ++ (if layout.leastPositional ≤ exponent ∧ exponent < layout.firstScientific
      then positional digits exponent else scientific digits exponent)

def text (x : Double) : String := String.ofList x.chars

end Double

end StoreClient
