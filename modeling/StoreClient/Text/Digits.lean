-- Numbers in the digits of a base up to sixteen, as several formats write them.

namespace StoreClient

namespace Digits

/-- The value of a digit; the letters count from ten on. -/
def digit? (base : Nat) (c : Char) : Option Nat :=
  let n? : Option Nat :=
    if '0' ≤ c ∧ c ≤ '9' then some (c.toNat - '0'.toNat)
    else if 'a' ≤ c ∧ c ≤ 'f' then some (c.toNat - 'a'.toNat + 10)
    else if 'A' ≤ c ∧ c ≤ 'F' then some (c.toNat - 'A'.toNat + 10)
    else none
  n?.filter fun n => n < base

/-- The number that more digits make of a number. -/
def numberAfter? (base : Nat) : Nat → List Char → Option Nat
  | n, [] => some n
  | n, c :: rest =>
    match digit? base c with
    | some d => numberAfter? base (n * base + d) rest
    | none => none

/-- The number of at least one digit. -/
def number? (base : Nat) : List Char → Option Nat
  | [] => none
  | cs => numberAfter? base 0 cs

/-- The character whose number some digits of base sixteen write. No character has the number of
a surrogate. -/
def char? (cs : List Char) : Option Char :=
  match number? 16 cs with
  | none => none
  | some n => if (0xD800 ≤ n ∧ n ≤ 0xDFFF) ∨ 0x10FFFF < n then none else some (Char.ofNat n)

end Digits

end StoreClient
