-- What a text in the strict layout is made of: five numbers of two digits and one of four, a
-- fraction and an offset, with fixed characters between them. Each part is a type of its own, and
-- for each reader there is what it makes of its part and what it must have read for a result.
import Mathlib.Data.List.TakeWhile
import StoreClient.Proofs.Digits
import StoreClient.Time.Instant

namespace StoreClient

namespace Instant

/-! ## Parts -/

/-- A number written with so many digits. -/
structure Figures (count : Nat) where
  digits : List Char
  length_digits : digits.length = count
  all_digits : ∀ c ∈ digits, Identifier.isAsciiDigit c = true

def Figures.value {count : Nat} (f : Figures count) : Nat := Number.natOfDigits f.digits

/-- The digits of a fraction of a second, as many as one likes. -/
structure Fraction where
  digits : List Char
  all_digits : ∀ c ∈ digits, Identifier.isAsciiDigit c = true

/-- The point is there only before digits. -/
def Fraction.chars (f : Fraction) : List Char :=
  if f.digits = [] then [] else '.' :: f.digits

def Fraction.nanos (f : Fraction) : Nat := nanosOfDigits f.digits

/-- A date and a time of day as a strict text shows them. -/
structure Stamp where
  year : Figures 4
  month : Figures 2
  day : Figures 2
  hour : Figures 2
  minute : Figures 2
  second : Figures 2
  fraction : Fraction

namespace Stamp

def dateChars (s : Stamp) : List Char :=
  s.year.digits ++ '-' :: (s.month.digits ++ '-' :: s.day.digits)

def timeChars (s : Stamp) : List Char :=
  s.hour.digits ++ ':' :: (s.minute.digits ++ ':' :: (s.second.digits ++ s.fraction.chars))

/-- The text, with what separates date and time and with the offset after them. -/
def chars (s : Stamp) (separator : Char) (zone : List Char) : List Char :=
  s.dateChars ++ separator :: (s.timeChars ++ zone)

def clock (s : Stamp) (offset : Int) : Clock where
  date := ⟨s.year.value, s.month.value, s.day.value⟩
  hour := s.hour.value
  minute := s.minute.value
  second := s.second.value
  nanos := s.fraction.nanos
  offset := offset

end Stamp

/-- The texts of an offset of so many seconds. -/
inductive IsZone : List Char → Int → Prop where
  | universal (c : Char) (h : c = 'Z' ∨ c = 'z') : IsZone [c] 0
  | shifted (sign : Char) (h : sign = '+' ∨ sign = '-' ∨ sign = '\u2212')
      (hours minutes : Figures 2) (n : Int)
      (hn : n.natAbs = hours.value * 3600 + minutes.value * 60) :
      IsZone (sign :: (hours.digits ++ ':' :: minutes.digits)) n

/-! ## Numbers -/

/-- A number ends before a character that is no digit, or at its greatest length. -/
theorem upTo_append {most : Nat} {digits rest : List Char} (hne : digits ≠ [])
    (hdigits : ∀ c ∈ digits, Identifier.isAsciiDigit c = true) (hlength : digits.length ≤ most)
    (hstop : digits.length = most ∨ ∀ c ∈ rest.head?, Identifier.isAsciiDigit c = false) :
    upTo most (digits ++ rest) = some (Number.natOfDigits digits, rest) := by
  have hkept : ((digits ++ rest).take most).takeWhile Identifier.isAsciiDigit = digits := by
    rw [List.take_append, List.take_of_length_le hlength, List.takeWhile_append_of_pos hdigits]
    rcases hstop with hfull | hstop
    · simp [hfull]
    · cases rest with
      | nil => simp
      | cons c rest =>
        have hc := hstop c rfl
        cases most - digits.length <;> simp [hc]
  have hempty : digits.isEmpty = false := by simpa using hne
  simp only [upTo, hkept, hempty, Bool.false_eq_true, if_false, List.drop_left]

theorem exactly_figures {count : Nat} (f : Figures count) (rest : List Char) :
    exactly count (f.digits ++ rest) = some (f.value, rest) := by
  have hall : f.digits.all Identifier.isAsciiDigit = true := List.all_eq_true.mpr f.all_digits
  simp only [exactly, List.take_left' f.length_digits, List.drop_left' f.length_digits,
    f.length_digits, hall, decide_true, Bool.and_self, if_true, Figures.value]

/-- What a reader has read is told with what is done with it, so that a chain of readers is taken
apart one by one. -/
theorem exists_figures {α : Type} {count : Nat} {cs : List Char} {f : Nat × List Char → Option α}
    {a : α} (h : (exactly count cs).bind f = some a) :
    ∃ (v : Figures count) (rest : List Char), cs = v.digits ++ rest ∧
      f (v.value, rest) = some a := by
  obtain ⟨read, hread, hf⟩ := Option.bind_eq_some_iff.mp h
  unfold exactly at hread
  dsimp only at hread
  split at hread
  · rename_i hdigits
    rw [Bool.and_eq_true, decide_eq_true_eq, List.all_eq_true] at hdigits
    cases hread
    exact ⟨⟨cs.take count, hdigits.1, hdigits.2⟩, cs.drop count,
      (List.take_append_drop count cs).symm, hf⟩
  · cases hread

theorem expect_self (c : Char) (rest : List Char) : expect c (c :: rest) = some rest := if_pos rfl

theorem bind_of_eq_some {α β : Type} {x : Option α} {a : α} (h : x = some a) (f : α → Option β) :
    (x >>= f) = f a := by
  rw [h]
  rfl

theorem exists_of_expect {α : Type} {c : Char} {cs : List Char} {f : List Char → Option α} {a : α}
    (h : (expect c cs).bind f = some a) : ∃ rest, cs = c :: rest ∧ f rest = some a := by
  obtain ⟨rest, hrest, hf⟩ := Option.bind_eq_some_iff.mp h
  cases cs with
  | nil => cases hrest
  | cons d cs =>
    simp only [expect] at hrest
    split at hrest
    · rename_i hcd
      cases hrest
      exact ⟨rest, by rw [hcd], hf⟩
    · cases hrest

theorem Figures.exists_cons {count : Nat} (f : Figures (count + 1)) :
    ∃ c cs, f.digits = c :: cs ∧ Identifier.isAsciiDigit c = true := by
  have hne : f.digits ≠ [] := by
    intro hnil
    have hlength := f.length_digits
    simp [hnil] at hlength
  obtain ⟨c, cs, hcs⟩ := List.exists_cons_of_ne_nil hne
  exact ⟨c, cs, hcs, f.all_digits c (hcs ▸ List.mem_cons_self)⟩

theorem trimStart_of_digit {c : Char} (h : Identifier.isAsciiDigit c = true) (cs : List Char) :
    Blank.trimStart (c :: cs) = c :: cs := by
  have hspace : Blank.isSpace c = false := by
    simp only [Identifier.isAsciiDigit, Bool.and_eq_true, decide_eq_true_eq, Char.le_def,
      UInt32.le_iff_toNat_le] at h
    have hlow : 48 ≤ c.toNat := h.1
    have hhigh : c.toNat ≤ 57 := h.2
    simp only [Blank.isSpace, Blank.ranges, CaseTable.within, List.any_eq_false,
      List.forall_mem_cons, Bool.and_eq_true, decide_eq_true_eq, List.not_mem_nil,
      false_implies, implies_true, and_true]
    omega
  simp [Blank.trimStart, hspace]

/-- The white space that a number may follow is not taken from its digits. -/
theorem trimStart_figures {count : Nat} (f : Figures (count + 1)) (rest : List Char) :
    Blank.trimStart (f.digits ++ rest) = f.digits ++ rest := by
  obtain ⟨c, cs, hcs, hc⟩ := f.exists_cons
  rw [hcs, List.cons_append, trimStart_of_digit hc]

theorem upTo_figures {count : Nat} (f : Figures (count + 1)) (rest : List Char) :
    upTo (count + 1) (f.digits ++ rest) = some (f.value, rest) := by
  obtain ⟨c, cs, hcs, -⟩ := f.exists_cons
  exact upTo_append (by simp [hcs]) f.all_digits (Nat.le_of_eq f.length_digits)
    (.inl f.length_digits)

theorem looseNumber_figures (f : Figures 2) (rest : List Char) :
    looseNumber (f.digits ++ rest) = some (f.value, rest) := by
  rw [looseNumber, trimStart_figures, upTo_figures]

/-- The letters that may stand before the time are no white space, and no number begins with one. -/
theorem looseNumber_letter {letter : Char} (h : letter = 'T' ∨ letter = 't') (rest : List Char) :
    looseNumber (letter :: rest) = none := by
  rcases h with rfl | rfl
  · rfl
  · rfl

/-- A digit is no sign, so that the year ends after its four digits. -/
theorem looseYear_figures (f : Figures 4) (rest : List Char) :
    looseYear (f.digits ++ rest) = some ((f.value : Int), rest) := by
  have hread := upTo_figures f rest
  obtain ⟨c, cs, hcs, hc⟩ := f.exists_cons
  unfold looseYear
  rw [trimStart_figures]
  rw [hcs, List.cons_append] at hread ⊢
  split
  · rename_i hsign
    cases hsign
    exact absurd hc (by decide)
  · rename_i hsign
    cases hsign
    exact absurd hc (by decide)
  · rw [hread]
    rfl

/-! ## Fractions -/

theorem takeWhile_digits {digits rest : List Char}
    (hdigits : ∀ c ∈ digits, Identifier.isAsciiDigit c = true)
    (hstop : ∀ c ∈ rest.head?, Identifier.isAsciiDigit c = false) :
    (digits ++ rest).takeWhile Identifier.isAsciiDigit = digits := by
  rw [List.takeWhile_append_of_pos hdigits]
  cases rest with
  | nil => simp
  | cons c rest => simp [hstop c rfl]

/-- What may follow a fraction, so that it ends there. -/
def EndsFraction (rest : List Char) : Prop :=
  ∀ c ∈ rest.head?, Identifier.isAsciiDigit c = false ∧ c ≠ '.'

theorem nanosOfDigits_nil : nanosOfDigits [] = 0 := Nat.zero_mul _

theorem Fraction.nanos_lt (f : Fraction) : f.nanos < 10 ^ 9 := by
  have hdigits : ∀ c ∈ f.digits.take 9, Identifier.isAsciiDigit c = true :=
    fun c hc => f.all_digits c (List.mem_of_mem_take hc)
  have hlt := Number.natOfDigits_lt hdigits
  have hlength := List.length_take_le 9 f.digits
  calc f.nanos
      < 10 ^ (f.digits.take 9).length * 10 ^ (9 - (f.digits.take 9).length) :=
        Nat.mul_lt_mul_of_pos_right hlt (Nat.pow_pos (by decide))
    _ = 10 ^ 9 := by rw [← Nat.pow_add, Nat.add_sub_cancel' hlength]

theorem fraction_chars (f : Fraction) {rest : List Char} (h : EndsFraction rest) :
    fraction (f.chars ++ rest) = some (f.nanos, rest) := by
  by_cases hnil : f.digits = []
  · simp only [Fraction.chars, hnil, if_true, List.nil_append]
    unfold fraction
    split
    · exact absurd rfl (h '.' rfl).2
    · rw [Fraction.nanos, hnil, nanosOfDigits_nil]
  · have hdigits := takeWhile_digits f.all_digits fun c hc => (h c hc).1
    have hempty : f.digits.isEmpty = false := by simpa using hnil
    simp only [Fraction.chars, hnil, if_false, List.cons_append, fraction, hdigits, hempty,
      Bool.false_eq_true, List.drop_left, Fraction.nanos]

theorem exists_fraction {α : Type} {cs : List Char} {f : Nat × List Char → Option α} {a : α}
    (h : (fraction cs).bind f = some a) :
    ∃ (v : Fraction) (rest : List Char), cs = v.chars ++ rest ∧ f (v.nanos, rest) = some a := by
  obtain ⟨read, hread, hf⟩ := Option.bind_eq_some_iff.mp h
  unfold fraction at hread
  split at hread
  · rename_i after
    dsimp only at hread
    split at hread
    · cases hread
    · rename_i hempty
      have hne : after.takeWhile Identifier.isAsciiDigit ≠ [] := by
        simpa only [List.isEmpty_iff] using hempty
      have hsplit := List.prefix_iff_eq_append.mp
        (List.takeWhile_prefix (l := after) Identifier.isAsciiDigit)
      cases hread
      refine ⟨⟨_, fun c hc => List.mem_takeWhile_imp hc⟩, _, ?_, hf⟩
      rw [Fraction.chars, if_neg hne, List.cons_append, hsplit]
  · cases hread
    refine ⟨⟨[], by simp⟩, cs, rfl, ?_⟩
    rw [Fraction.nanos, nanosOfDigits_nil]
    exact hf

/-! ## Offsets -/

theorem exists_of_offsetParts {cs : List Char} {n : Nat} (h : offsetParts cs = some (n, [])) :
    ∃ hours minutes : Figures 2, cs = hours.digits ++ ':' :: minutes.digits ∧
      n = hours.value * 3600 + minutes.value * 60 := by
  obtain ⟨hours, _, hhours, h⟩ := exists_figures h
  obtain ⟨_, hcolon, h⟩ := exists_of_expect h
  obtain ⟨minutes, _, hminutes, h⟩ := exists_figures h
  dsimp only at h
  split at h
  · cases h
    exact ⟨hours, minutes, by rw [hhours, hcolon, hminutes, List.append_nil], rfl⟩
  · cases h

theorem isZone_of_offset {zone : List Char} {n : Int} (h : offset zone = some (n, [])) :
    IsZone zone n := by
  have hshifted {sign : Char} (hsign : sign = '+' ∨ sign = '-' ∨ sign = '\u2212')
      {cs : List Char} {f : Nat → Int} (hf : ∀ m, (f m).natAbs = m)
      (hp : (offsetParts cs).map (fun p => (f p.1, p.2)) = some (n, [])) :
      IsZone (sign :: cs) n := by
    obtain ⟨⟨m, rest⟩, hparts, he⟩ := Option.map_eq_some_iff.mp hp
    cases he
    obtain ⟨hours, minutes, rfl, rfl⟩ := exists_of_offsetParts hparts
    exact .shifted sign hsign hours minutes _ (hf _)
  unfold offset at h
  split at h
  · cases h
    exact .universal 'Z' (.inl rfl)
  · cases h
    exact .universal 'z' (.inr rfl)
  · exact hshifted (f := fun m => m) (.inl rfl) (by omega) h
  · exact hshifted (f := fun m => -m) (.inr (.inl rfl)) (by omega) h
  · exact hshifted (f := fun m => -m) (.inr (.inr rfl)) (by omega) h
  · cases h

variable {zone : List Char} {n : Int}

theorem IsZone.whole_minutes (h : IsZone zone n) : n % 60 = 0 := by
  cases h with
  | universal => rfl
  | shifted sign hsign hours minutes n hn => omega

theorem IsZone.endsFraction (h : IsZone zone n) : EndsFraction zone := by
  intro c hc
  cases h with
  | universal z hz =>
    cases hc
    rcases hz with rfl | rfl
    · decide
    · decide
  | shifted sign hsign hours minutes n hn =>
    cases hc
    rcases hsign with rfl | rfl | rfl
    · decide
    · decide
    · decide

/-! ## The strict layout -/

theorem strictClock_chars_stamp (s : Stamp) {separator : Char} (hseparator : isSeparator separator)
    (hzone : offset zone = some (n, [])) :
    strictClock (s.chars separator zone) = some (s.clock n) := by
  have hfraction := fraction_chars s.fraction (isZone_of_offset hzone).endsFraction
  simp only [Stamp.chars, Stamp.dateChars, Stamp.timeChars, List.append_assoc, List.cons_append]
  unfold strictClock
  refine (bind_of_eq_some (exactly_figures s.year _) _).trans ?_
  refine (bind_of_eq_some (expect_self '-' _) _).trans ?_
  refine (bind_of_eq_some (exactly_figures s.month _) _).trans ?_
  refine (bind_of_eq_some (expect_self '-' _) _).trans ?_
  refine (bind_of_eq_some (exactly_figures s.day _) _).trans ?_
  refine (if_pos hseparator).trans ?_
  refine (bind_of_eq_some (exactly_figures s.hour _) _).trans ?_
  refine (bind_of_eq_some (expect_self ':' _) _).trans ?_
  refine (bind_of_eq_some (exactly_figures s.minute _) _).trans ?_
  refine (bind_of_eq_some (expect_self ':' _) _).trans ?_
  refine (bind_of_eq_some (exactly_figures s.second _) _).trans ?_
  refine (bind_of_eq_some hfraction _).trans ?_
  exact bind_of_eq_some hzone _

/-- What is read strictly is a date and a time of day, with a separator and an offset. -/
theorem exists_stamp {cs : List Char} {c : Clock} (h : strictClock cs = some c) :
    ∃ (s : Stamp) (separator : Char) (zone : List Char) (n : Int), isSeparator separator ∧
      offset zone = some (n, []) ∧ cs = s.chars separator zone ∧ c = s.clock n := by
  obtain ⟨year, _, hyear, h⟩ := exists_figures h
  obtain ⟨_, hdash, h⟩ := exists_of_expect h
  obtain ⟨month, _, hmonth, h⟩ := exists_figures h
  obtain ⟨_, hdash', h⟩ := exists_of_expect h
  obtain ⟨day, rest, hday, h⟩ := exists_figures h
  cases rest with
  | nil => cases h
  | cons separator rest =>
    dsimp only at h
    split at h
    · rename_i hseparator
      obtain ⟨hour, _, hhour, h⟩ := exists_figures h
      obtain ⟨_, hcolon, h⟩ := exists_of_expect h
      obtain ⟨minute, _, hminute, h⟩ := exists_figures h
      obtain ⟨_, hcolon', h⟩ := exists_of_expect h
      obtain ⟨second, _, hsecond, h⟩ := exists_figures h
      obtain ⟨fraction, zone, hfraction, h⟩ := exists_fraction h
      obtain ⟨⟨n, after⟩, hzone, h⟩ := Option.bind_eq_some_iff.mp h
      dsimp only at h
      split at h
      · rename_i hafter
        cases h
        rw [List.isEmpty_iff.mp hafter] at hzone
        refine ⟨⟨year, month, day, hour, minute, second, fraction⟩, separator, zone, n, hseparator,
          hzone, ?_, rfl⟩
        dsimp only at hcolon hcolon' hfraction
        simp only [hyear, hdash, hmonth, hdash', hday, hhour, hcolon, hminute, hcolon', hsecond,
          hfraction, Stamp.chars, Stamp.dateChars, Stamp.timeChars, List.append_assoc,
          List.cons_append]
      · cases h
    · cases h

end Instant

end StoreClient
