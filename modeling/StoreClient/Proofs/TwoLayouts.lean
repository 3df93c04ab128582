-- The law of the two layouts: what both of them read they read alike, so that neither has to be
-- tried first. A text in the strict layout shows five numbers of two digits and one of four, and
-- the loose layout reads all of them, but has its own ways with what stands between date and time
-- and after the fraction: of the strict texts it reads those with a space and a final `Z`.
import StoreClient.Proofs.Milliseconds

namespace StoreClient

namespace Instant

/-! ## The loose layout -/

theorem isSeparator_iff (c : Char) : isSeparator c = true ↔ c = 'T' ∨ c = 't' ∨ c = ' ' := by
  simp [isSeparator, or_assoc]

/-- After a space the loose layout reads all that the strict one does, up to the offset. -/
theorem looseClock_space (s : Stamp) {zone : List Char} (hzone : EndsFraction zone) :
    looseClock (s.chars ' ' zone) =
      (expect 'Z' zone).bind fun cs => if cs.isEmpty then some (s.clock 0) else none := by
  have hfraction := fraction_chars s.fraction hzone
  have hhour (rest : List Char) : looseNumber (' ' :: (s.hour.digits ++ rest)) =
      some (s.hour.value, rest) := looseNumber_figures s.hour rest
  simp only [Stamp.chars, Stamp.dateChars, Stamp.timeChars, List.append_assoc, List.cons_append]
  unfold looseClock
  refine (bind_of_eq_some (looseYear_figures s.year _) _).trans ?_
  refine (bind_of_eq_some (expect_self '-' _) _).trans ?_
  refine (bind_of_eq_some (looseNumber_figures s.month _) _).trans ?_
  refine (bind_of_eq_some (expect_self '-' _) _).trans ?_
  refine (bind_of_eq_some (looseNumber_figures s.day _) _).trans ?_
  refine (bind_of_eq_some (hhour _) _).trans ?_
  refine (bind_of_eq_some (expect_self ':' _) _).trans ?_
  refine (bind_of_eq_some (looseNumber_figures s.minute _) _).trans ?_
  refine (bind_of_eq_some (expect_self ':' _) _).trans ?_
  refine (bind_of_eq_some (looseNumber_figures s.second _) _).trans ?_
  exact bind_of_eq_some hfraction _

/-- After a letter it reads no hour. -/
theorem looseClock_letter (s : Stamp) {letter : Char} (h : letter = 'T' ∨ letter = 't')
    (zone : List Char) : looseClock (s.chars letter zone) = none := by
  simp only [Stamp.chars, Stamp.dateChars, List.append_assoc, List.cons_append]
  unfold looseClock
  refine (bind_of_eq_some (looseYear_figures s.year _) _).trans ?_
  refine (bind_of_eq_some (expect_self '-' _) _).trans ?_
  refine (bind_of_eq_some (looseNumber_figures s.month _) _).trans ?_
  refine (bind_of_eq_some (expect_self '-' _) _).trans ?_
  refine (bind_of_eq_some (looseNumber_figures s.day _) _).trans ?_
  exact congrArg (Option.bind · _) (looseNumber_letter h _)

/-! ## Both layouts -/

/-- The texts in both layouts are those with a space and with a final `Z`. -/
theorem both_clocks_iff {cs : List Char} {c d : Clock} :
    (strictClock cs = some c ∧ looseClock cs = some d) ↔
      ∃ s : Stamp, cs = s.chars ' ' ['Z'] ∧ c = s.clock 0 ∧ d = s.clock 0 := by
  constructor
  · rintro ⟨hstrict, hloose⟩
    obtain ⟨s, separator, zone, n, hseparator, hzone, rfl, rfl⟩ := exists_stamp hstrict
    have hletter (h : separator = 'T' ∨ separator = 't') : False := by
      rw [looseClock_letter s h] at hloose
      cases hloose
    rcases (isSeparator_iff separator).mp hseparator with h | h | rfl
    · exact (hletter (.inl h)).elim
    · exact (hletter (.inr h)).elim
    · rw [looseClock_space s (isZone_of_offset hzone).endsFraction] at hloose
      obtain ⟨rest, rfl, hrest⟩ := exists_of_expect hloose
      split at hrest
      · rename_i hend
        cases List.isEmpty_iff.mp hend
        cases hrest
        cases hzone
        exact ⟨s, rfl, rfl, rfl⟩
      · cases hrest
  · rintro ⟨s, rfl, rfl, rfl⟩
    have hzone := IsZone.universal 'Z' (.inl rfl)
    exact ⟨strictClock_chars_stamp s rfl rfl, looseClock_space s hzone.endsFraction⟩

theorem both_read_iff {cs : List Char} {t u : Instant} :
    (ofStrict? cs = some t ∧ ofLoose? cs = some u) ↔
      ∃ s : Stamp, cs = s.chars ' ' ['Z'] ∧ (s.clock 0).instant? = some t ∧ t = u := by
  constructor
  · rintro ⟨hstrict, hloose⟩
    obtain ⟨c, hc, ht⟩ := Option.bind_eq_some_iff.mp hstrict
    obtain ⟨d, hd, hu⟩ := Option.bind_eq_some_iff.mp hloose
    obtain ⟨s, rfl, rfl, rfl⟩ := both_clocks_iff.mp ⟨hc, hd⟩
    exact ⟨s, rfl, ht, Option.some.inj (ht.symm.trans hu)⟩
  · rintro ⟨s, rfl, ht, rfl⟩
    obtain ⟨hc, hd⟩ := both_clocks_iff.mpr ⟨s, rfl, rfl, rfl⟩
    exact ⟨(bind_of_eq_some hc _).trans ht, (bind_of_eq_some hd _).trans ht⟩

/-- It makes no difference which layout is tried first. -/
theorem or_ofStrict? (cs : List Char) : (ofLoose? cs).or (ofStrict? cs) = ofChars? cs := by
  unfold ofChars?
  cases hstrict : ofStrict? cs with
  | none => exact Option.or_none
  | some t =>
    cases hloose : ofLoose? cs with
    | none => rfl
    | some u =>
      obtain ⟨-, -, -, rfl⟩ := both_read_iff.mp ⟨hstrict, hloose⟩
      rfl

/-! ## A space for the letter -/

theorem Figures.letter_notMem {count : Nat} (f : Figures count) : 'T' ∉ f.digits :=
  fun h => absurd (f.all_digits 'T' h) (by decide)

theorem Fraction.letter_notMem (f : Fraction) : 'T' ∉ f.chars := by
  have hdigits : 'T' ∉ f.digits := fun h => absurd (f.all_digits 'T' h) (by decide)
  by_cases hnil : f.digits = []
  · simp [Fraction.chars, hnil]
  · simp [Fraction.chars, hnil, hdigits]

theorem Stamp.letter_notMem_dateChars (s : Stamp) : 'T' ∉ s.dateChars := by
  simp [dateChars, Figures.letter_notMem]

theorem Stamp.letter_notMem_timeChars (s : Stamp) : 'T' ∉ s.timeChars := by
  simp [timeChars, Figures.letter_notMem, Fraction.letter_notMem]

theorem IsZone.letter_notMem {zone : List Char} {n : Int} (h : IsZone zone n) : 'T' ∉ zone := by
  cases h with
  | universal c hc => rcases hc with rfl | rfl <;> decide
  | shifted sign hsign hours minutes n hn =>
    have hne : 'T' ≠ sign := by rcases hsign with rfl | rfl | rfl <;> decide
    simp [hne, Figures.letter_notMem]

/-- The other offsets end in `z` or in a digit. -/
theorem IsZone.eq_of_append {zone before after : List Char} {n : Int} (h : IsZone zone n)
    (heq : before ++ zone = after ++ ['Z']) : zone = ['Z'] := by
  cases h with
  | universal c hc => exact (List.append_inj' heq rfl).2
  | shifted sign hsign hours minutes n hn =>
    obtain ⟨c, cs, hcs, -⟩ := minutes.exists_cons
    have hne : minutes.digits ≠ [] := by simp [hcs]
    have hlast : minutes.digits.getLast? = some 'Z' := by
      have hends := congrArg List.getLast? heq
      rw [← List.cons_append, ← List.append_assoc, List.append_cons,
        List.getLast?_append_of_ne_nil _ hne, List.getLast?_concat] at hends
      exact hends
    exact absurd (minutes.all_digits 'Z' (List.mem_of_getLast? hlast)) (by decide)

/-- A strict text has no other `T` than the one before the time. -/
theorem exists_stamp_of_letter {before after : List Char} {t : Instant}
    (h : ofStrict? (before ++ 'T' :: (after ++ ['Z'])) = some t) :
    ∃ s : Stamp, before = s.dateChars ∧ after = s.timeChars ∧ (s.clock 0).instant? = some t := by
  obtain ⟨c, hc, ht⟩ := Option.bind_eq_some_iff.mp h
  obtain ⟨s, separator, zone, n, -, hzone, hcs, rfl⟩ := exists_stamp hc
  have hisZone := isZone_of_offset hzone
  have hrest : 'T' ∉ s.timeChars ++ zone := by
    simp [s.letter_notMem_timeChars, hisZone.letter_notMem]
  obtain ⟨hbefore, -, hafter⟩ :=
    (List.append_cons_inj_of_notMem s.letter_notMem_dateChars hrest).mp hcs.symm
  cases hisZone.eq_of_append hafter
  cases hzone
  exact ⟨s, hbefore.symm, (List.append_cancel_right hafter).symm, ht⟩

end Instant

namespace Codec

open Instant

/-- What both layouts read they read as one instant, so that either may be tried first. A text with
a `T` and a final `Z` that is read strictly, be its year any of four digits, its fraction as long as
one likes and its second the 60th, stands for the same instant with a space for the `T`, and the
loose layout alone would do to read that. -/
theorem the_two_layouts_never_disagree :
    (∀ (cs : List Char) (t u : Instant), (ofStrict? cs = some t ∧ ofLoose? cs = some u) ↔
      ∃ s : Stamp, cs = s.chars ' ' ['Z'] ∧ (s.clock 0).instant? = some t ∧ t = u) ∧
    (∀ cs : List Char, (ofLoose? cs).or (ofStrict? cs) = ofChars? cs) ∧
    (∀ s : Stamp, ofStrict? (s.chars 'T' ['Z']) = (s.clock 0).instant?) ∧
    (∀ (before after : List Char) (t : Instant),
      ofStrict? (before ++ 'T' :: (after ++ ['Z'])) = some t →
      ofLoose? (before ++ ' ' :: (after ++ ['Z'])) = some t ∧
      ∀ rule ∈ instantRules,
        rule.toModel (.text (.ofList (before ++ 'T' :: (after ++ ['Z'])))) = .ok (.temporal t) ∧
        rule.toModel (.text (.ofList (before ++ ' ' :: (after ++ ['Z'])))) =
          .ok (.temporal t)) := by
  refine ⟨fun _ _ _ => both_read_iff, or_ofStrict?, ?_, ?_⟩
  · intro s
    exact bind_of_eq_some (strictClock_chars_stamp s rfl rfl) _
  · intro before after t h
    have hletter : ofChars? (before ++ 'T' :: (after ++ ['Z'])) = some t := by
      rw [ofChars?, h, Option.some_or]
    obtain ⟨s, rfl, rfl, ht⟩ := exists_stamp_of_letter h
    obtain ⟨hstrict, hloose⟩ := both_read_iff.mpr ⟨s, rfl, ht, rfl⟩
    have hspace : ofChars? (s.chars ' ' ['Z']) = some t := by
      rw [ofChars?, hstrict, Option.some_or]
    exact ⟨hloose, fun rule hrule =>
      ⟨toModel_of_ofChars? hrule hletter, toModel_of_ofChars? hrule hspace⟩⟩

/-- A leap second with thirteen digits in its fraction. -/
theorem the_end_of_2016_is_read_with_a_space :
    ofStrict? "2016-12-31T23:59:60.1234567890123Z".toList = some ⟨1483228799, 1123456789⟩ ∧
      ∀ rule ∈ instantRules, rule.toModel (.text "2016-12-31 23:59:60.1234567890123Z") =
        .ok (.temporal ⟨1483228799, 1123456789⟩) := by
  have h : ofStrict? "2016-12-31T23:59:60.1234567890123Z".toList =
      some ⟨1483228799, 1123456789⟩ := by decide
  obtain ⟨-, -, -, hspace⟩ := the_two_layouts_never_disagree
  refine ⟨h, fun rule hrule => ?_⟩
  exact ((hspace "2016-12-31".toList "23:59:60.1234567890123".toList _ h).2 rule hrule).2

end Codec

end StoreClient
