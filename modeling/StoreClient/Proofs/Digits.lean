-- Numbers and their decimal digits: the digits of a number are ASCII digits that give the
-- number back, zeros before them change nothing, and so many digits bound the number.
import Mathlib.Algebra.Group.Nat.Defs
import StoreClient.Number.Basic
import StoreClient.Proofs.Compilation

namespace StoreClient

namespace Number

theorem isAsciiDigit_of_mem_natChars {n : Nat} {c : Char} (h : c ∈ natChars n) :
    Identifier.isAsciiDigit c = true := by
  rw [Identifier.isAsciiDigit_eq]
  exact Nat.isDigit_of_mem_toDigits (by decide) (by decide) h

theorem natOfDigits_natChars (n : Nat) : natOfDigits (natChars n) = n := by
  have hfold : natOfDigits (natChars n) = Nat.ofDigitChars 10 (Nat.toDigits 10 n) 0 := by
    simp only [natOfDigits, natChars, Nat.ofDigitChars_eq_foldl, digitValue, Nat.mul_comm]
  rw [hfold, Nat.ofDigitChars_toDigits (by decide) (by decide)]

theorem natOfDigits_zeros (count : Nat) (digits : List Char) :
    natOfDigits (List.replicate count '0' ++ digits) = natOfDigits digits := by
  induction count with
  | zero => rfl
  | succ count ih =>
    rw [List.replicate_succ, List.cons_append, ← ih]
    rfl

theorem foldl_digits_lt {digits : List Char} (n : Nat)
    (h : ∀ c ∈ digits, Identifier.isAsciiDigit c = true) :
    digits.foldl (fun n c => n * 10 + digitValue c) n < (n + 1) * 10 ^ digits.length := by
  induction digits generalizing n with
  | nil => simp
  | cons c rest ih =>
    rw [List.forall_mem_cons] at h
    have hdigit : digitValue c ≤ 9 := by
      have hc := h.1
      simp only [Identifier.isAsciiDigit, Bool.and_eq_true, decide_eq_true_eq, Char.le_def,
        UInt32.le_iff_toNat_le] at hc
      have hhigh : c.toNat ≤ 57 := hc.2
      have hzero : '0'.toNat = 48 := rfl
      simp only [digitValue, hzero]
      omega
    calc (c :: rest).foldl (fun n c => n * 10 + digitValue c) n
        < (n * 10 + digitValue c + 1) * 10 ^ rest.length := ih _ h.2
      _ ≤ ((n + 1) * 10) * 10 ^ rest.length := Nat.mul_le_mul_right _ (by omega)
      _ = (n + 1) * 10 ^ (c :: rest).length := by
        rw [List.length_cons, Nat.pow_succ, Nat.mul_assoc, Nat.mul_comm 10]

theorem natOfDigits_lt {digits : List Char}
    (h : ∀ c ∈ digits, Identifier.isAsciiDigit c = true) :
    natOfDigits digits < 10 ^ digits.length := by
  have hlt := foldl_digits_lt 0 h
  rwa [Nat.zero_add, Nat.one_mul] at hlt

end Number

end StoreClient
