-- How the inside of a literal is made: of characters that are seen and of escapes. No quote stands
-- in it as it is, and each backslash begins an escape, so that the literal ends at its last quote.
import StoreClient.Proofs.JsonText

namespace StoreClient

namespace Literal

/-! ## The inside of a literal -/

/-- The characters that make an escape with a backslash before them. -/
def shortEscapes : List Char := ['"', '\\', '/', 'b', 'f', 'n', 'r', 't']

/-- The inside of a literal, from its first character on. -/
inductive Inside : List Char → Prop
  | empty : Inside []
  | plain {c : Char} {rest : List Char} (visible : 32 ≤ c.toNat) (not_quote : c ≠ '"')
      (not_slash : c ≠ '\\') (h : Inside rest) : Inside (c :: rest)
  | short {c : Char} {rest : List Char} (escape : c ∈ shortEscapes) (h : Inside rest) :
      Inside ('\\' :: c :: rest)
  | number {digits rest : List Char} (four : digits.length = 4)
      (hex : ∀ d ∈ digits, (Digits.digit? 16 d).isSome) (h : Inside rest) :
      Inside ('\\' :: 'u' :: (digits ++ rest))

theorem isSome_digit?_hexDigit {n : Nat} (h : n < 16) :
    (Digits.digit? 16 (hexDigit n)).isSome = true := by
  rw [Scan.digit?_hexDigit n h]
  rfl

theorem inside_escape (c : Char) {rest : List Char} (h : Inside rest) :
    Inside (escape c ++ rest) := by
  unfold escape
  split
  case h_8 hquote hslash _ _ _ _ _ =>
    split
    · have hhigh := isSome_digit?_hexDigit (n := c.toNat / 16) (by omega)
      have hlow := isSome_digit?_hexDigit (n := c.toNat % 16) (by omega)
      have hzero : (Digits.digit? 16 '0').isSome = true := rfl
      have hdigits : ∀ d ∈ ['0', '0', hexDigit (c.toNat / 16), hexDigit (c.toNat % 16)],
          (Digits.digit? 16 d).isSome = true := by
        simp only [List.forall_mem_cons, List.not_mem_nil, false_implies, implies_true, and_true]
        exact ⟨hzero, hzero, hhigh, hlow⟩
      exact .number rfl hdigits h
    · rename_i hcontrol
      exact .plain (Nat.le_of_not_lt hcontrol) hquote hslash h
  all_goals exact .short (by decide) h

theorem inside_encode (cs : List Char) : Inside (encode cs) := by
  induction cs with
  | nil => exact .empty
  | cons c cs ih => exact inside_escape c ih

/-! ## Characters that are seen -/

theorem visible_of_digit? {base : Nat} {c : Char} (h : (Digits.digit? base c).isSome) :
    32 ≤ c.toNat := by
  refine Nat.le_of_not_lt fun hcontrol => ?_
  have hless : ∀ d : Char, 32 ≤ d.toNat → ¬ d ≤ c := by
    intro d hd hle
    rw [Char.le_def, UInt32.le_iff_toNat_le] at hle
    exact Nat.not_le_of_lt hcontrol (Nat.le_trans hd hle)
  -- No range of digits begins with a control character.
  have hdigit := hless '0' (by decide)
  have hlower := hless 'a' (by decide)
  have hupper := hless 'A' (by decide)
  simp [Digits.digit?, hdigit, hlower, hupper] at h

theorem Inside.visible {cs : List Char} (h : Inside cs) : ∀ c ∈ cs, 32 ≤ c.toNat := by
  induction h with
  | empty => exact fun c hc => absurd hc List.not_mem_nil
  | plain visible _ _ _ ih =>
    rw [List.forall_mem_cons]
    exact ⟨visible, ih⟩
  | short escape _ ih =>
    have hescapes : ∀ c ∈ shortEscapes, 32 ≤ c.toNat := by simp [shortEscapes]
    rw [List.forall_mem_cons, List.forall_mem_cons]
    exact ⟨by decide, hescapes _ escape, ih⟩
  | number _ hex _ ih =>
    rw [List.forall_mem_cons, List.forall_mem_cons, List.forall_mem_append]
    exact ⟨by decide, by decide, fun d hd => visible_of_digit? (hex d hd), ih⟩

theorem visible_quote (cs : List Char) : ∀ c ∈ quote cs, 32 ≤ c.toNat := by
  have hmark : ∀ c ∈ ['"'], 32 ≤ c.toNat := by simp
  rw [quote, List.forall_mem_cons, List.forall_mem_append]
  exact ⟨hmark _ List.mem_cons_self, (inside_encode cs).visible, hmark⟩

end Literal

end StoreClient
