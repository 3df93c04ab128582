-- The law of rereading: the text that is written for an instant is one that can be read, as long
-- as the year needs no sign. The layout that is written is that of RFC 3339, which has four
-- digits for a year; the layout of the store has longer years, but a space before the time.
import StoreClient.Field.Codec
import StoreClient.Proofs.CalendarDays
import StoreClient.Proofs.Stamps

namespace StoreClient

/-! ## Numbers of a fixed width -/

namespace Instant

theorem isAsciiDigit_of_mem_padded {width n : Nat} {c : Char} (h : c ∈ padded width n) :
    Identifier.isAsciiDigit c = true := by
  rcases List.mem_append.mp h with hzero | hdigit
  · rw [(List.mem_replicate.mp hzero).2]
    rfl
  · exact Number.isAsciiDigit_of_mem_natChars hdigit

theorem natOfDigits_padded (width n : Nat) : Number.natOfDigits (padded width n) = n := by
  unfold padded
  rw [Number.natOfDigits_zeros, Number.natOfDigits_natChars]

theorem length_padded {n : Nat} (width : Nat) (hwidth : 0 < width) (h : n < 10 ^ width) :
    (padded width n).length = width := by
  have hle := (Nat.length_toDigits_le_iff (by decide) hwidth).mpr h
  simp only [padded, Number.natChars, List.length_append, List.length_replicate]
  omega

theorem padded_ne_nil (width n : Nat) : padded width n ≠ [] := by
  intro h
  have hdigits : (Nat.toDigits 10 n) = [] := (List.append_eq_nil_iff.mp h).2
  exact absurd hdigits (Nat.toDigits_ne_nil)

/-- The figures of a number that fits their width. -/
def figures (width n : Nat) (hwidth : 0 < width) (h : n < 10 ^ width) : Figures width where
  digits := padded width n
  length_digits := length_padded width hwidth h
  all_digits := fun _ hc => isAsciiDigit_of_mem_padded hc

theorem value_figures {width n : Nat} (hwidth : 0 < width) (h : n < 10 ^ width) :
    (figures width n hwidth h).value = n := natOfDigits_padded width n

theorem nanosOfDigits_padded {millis : Nat} (h : millis < 1000) :
    nanosOfDigits (padded 3 millis) = millis * 10 ^ 6 := by
  have hlength := length_padded 3 (by decide) h
  have htake : (padded 3 millis).take 9 = padded 3 millis := List.take_of_length_le (by omega)
  have hwidth : 9 - (padded 3 millis).length = 6 := by omega
  have hpower : millis * Nat.pow 10 6 = millis * 10 ^ 6 := rfl
  rw [nanosOfDigits, htake, natOfDigits_padded, hwidth, hpower]

/-! ## The written layout -/

/-- The layout that is written, after the text of the year. -/
def layout (month day hour minute second millis : Nat) : List Char :=
  '-' :: (padded 2 month ++ '-' :: (padded 2 day ++ 'T' :: (padded 2 hour ++
    ':' :: (padded 2 minute ++ ':' :: (padded 2 second ++ '.' :: (padded 3 millis ++ ['Z']))))))

/-- After four digits for the year the layout is read strictly. -/
theorem strictClock_layout {year month day hour minute second millis : Nat} (hyear : year < 10000)
    (hmonth : month < 100) (hday : day < 100) (hhour : hour < 100) (hminute : minute < 100)
    (hsecond : second < 100) (hmillis : millis < 1000) :
    strictClock (padded 4 year ++ layout month day hour minute second millis) =
      some ⟨⟨year, month, day⟩, hour, minute, second, millis * 10 ^ 6, 0⟩ := by
  let s : Stamp :=
    { year := figures 4 year (by decide) hyear, month := figures 2 month (by decide) hmonth,
      day := figures 2 day (by decide) hday, hour := figures 2 hour (by decide) hhour,
      minute := figures 2 minute (by decide) hminute,
      second := figures 2 second (by decide) hsecond,
      fraction := ⟨padded 3 millis, fun _ hc => isAsciiDigit_of_mem_padded hc⟩ }
  have hchars : s.chars 'T' ['Z'] =
      padded 4 year ++ layout month day hour minute second millis := by
    simp only [s, Stamp.chars, Stamp.dateChars, Stamp.timeChars, Fraction.chars, figures, layout,
      padded_ne_nil, if_false, List.append_assoc, List.cons_append]
  have hclock : s.clock 0 = ⟨⟨year, month, day⟩, hour, minute, second, millis * 10 ^ 6, 0⟩ := by
    simp only [s, Stamp.clock, Fraction.nanos, value_figures, nanosOfDigits_padded hmillis]
  rw [← hchars, strictClock_chars_stamp s rfl rfl, hclock]

/-- A year with a sign is not read strictly. -/
theorem strictClock_sign {sign : Char} (hsign : Identifier.isAsciiDigit sign = false)
    (rest : List Char) : strictClock (sign :: rest) = none := by
  have hyear : exactly 4 (sign :: rest) = none := by
    simp [exactly, hsign]
  exact congrArg (Option.bind · _) hyear

theorem looseNumber_padded {n : Nat} (h : n < 100) (rest : List Char) :
    looseNumber (padded 2 n ++ rest) = some (n, rest) := by
  have hread := looseNumber_figures (figures 2 n (by decide) h) rest
  rwa [value_figures] at hread

/-- After a year with a sign the layout is not read loosely either: a space would have to stand
before the time, or nothing at all. -/
theorem looseClock_sign {sign : Char} (hsign : sign = '-' ∨ sign = '+')
    {year month day hour minute second millis : Nat} (hmonth : month < 100) (hday : day < 100) :
    looseClock (sign :: (padded 4 year ++ layout month day hour minute second millis)) = none := by
  have hyear : unbounded (padded 4 year ++ layout month day hour minute second millis) =
      some (year, layout month day hour minute second millis) := by
    rw [unbounded, upTo_append (padded_ne_nil 4 year) (fun _ hc => isAsciiDigit_of_mem_padded hc)
      (by simp) (.inr (by simp [layout, Identifier.isAsciiDigit])), natOfDigits_padded]
  obtain ⟨y, hsigned⟩ : ∃ y : Int, looseYear (sign ::
      (padded 4 year ++ layout month day hour minute second millis)) =
        some (y, layout month day hour minute second millis) := by
    rcases hsign with rfl | rfl
    · refine ⟨-year, ?_⟩
      change Option.map _ (unbounded _) = _
      rw [hyear]
      rfl
    · refine ⟨year, ?_⟩
      change Option.map _ (unbounded _) = _
      rw [hyear]
      rfl
  unfold looseClock
  refine (bind_of_eq_some hsigned _).trans ?_
  refine (bind_of_eq_some (expect_self '-' _) _).trans ?_
  refine (bind_of_eq_some (looseNumber_padded hmonth _) _).trans ?_
  refine (bind_of_eq_some (expect_self '-' _) _).trans ?_
  refine (bind_of_eq_some (looseNumber_padded hday _) _).trans ?_
  exact congrArg (Option.bind · _) (looseNumber_letter (.inl rfl) _)

/-! ## Instants -/

/-- The year of an instant in universal time. -/
def year (t : Instant) : Int := (Date.ofDayNumber (t.seconds / 86400)).year

/-- What a clock shows at an instant, in universal time and cut to milliseconds. -/
def clock (t : Instant) : Clock where
  date := Date.ofDayNumber (t.seconds / 86400)
  hour := (t.seconds % 86400).toNat / 3600
  minute := (t.seconds % 86400).toNat / 60 % 60
  second := (t.seconds % 86400).toNat % 60 + t.nanos / 10 ^ 9
  nanos := t.nanos % 10 ^ 9 / 10 ^ 6 * 10 ^ 6
  offset := 0

/-- The nanoseconds lie within the second, or within a leap second at the end of a minute. -/
def Regular (t : Instant) : Prop :=
  t.nanos < 10 ^ 9 ∨ t.nanos < 2 * 10 ^ 9 ∧ t.seconds % 60 = 59

theorem chars_eq_layout (t : Instant) : t.chars = yearChars t.year ++
    layout t.clock.date.month t.clock.date.day t.clock.hour t.clock.minute t.clock.second
      (t.nanos % 10 ^ 9 / 10 ^ 6) := rfl

/-- What a clock shows has two digits for each number but the year. -/
theorem clock_bounds {t : Instant} (h : t.Regular) : t.clock.date.month < 100 ∧
    t.clock.date.day < 100 ∧ t.clock.hour ≤ 23 ∧ t.clock.minute ≤ 59 ∧ t.clock.second ≤ 60 := by
  obtain ⟨-, hmonth, -, hday⟩ := Date.ofDayNumber_inMonth (t.seconds / 86400)
  have hmonths := Date.daysInMonth_le t.year t.clock.date.month
  have hday' : t.clock.date.day ≤ 31 := Nat.le_trans hday hmonths
  have hmonth' : t.clock.date.month ≤ 12 := hmonth
  have hhour : t.clock.hour ≤ 23 := by
    simp only [clock]
    omega
  have hminute : t.clock.minute ≤ 59 := by
    simp only [clock]
    omega
  have hsecond : t.clock.second ≤ 60 := by
    simp only [Regular] at h
    simp only [clock]
    omega
  exact ⟨by omega, by omega, hhour, hminute, hsecond⟩

theorem strictClock_chars {t : Instant} (h : t.Regular) (hyear : 0 ≤ t.year ∧ t.year ≤ 9999) :
    strictClock t.chars = some t.clock := by
  obtain ⟨hmonth, hday, hhour, hminute, hsecond⟩ := clock_bounds h
  have hback : (t.year.toNat : Int) = t.clock.date.year := Int.toNat_of_nonneg hyear.1
  rw [chars_eq_layout, yearChars, if_pos hyear, strictClock_layout (by omega) hmonth hday
    (by omega) (by omega) (by omega) (by omega), hback]
  rfl

theorem clock_isValid {t : Instant} (h : t.Regular) (hyear : 0 ≤ t.year ∧ t.year ≤ 9999) :
    t.clock.isValid = true := by
  obtain ⟨-, -, hhour, hminute, hsecond⟩ := clock_bounds h
  obtain ⟨hmonth, hmonth', hday, hday'⟩ := Date.ofDayNumber_inMonth (t.seconds / 86400)
  have hfirst : Date.firstYear ≤ t.clock.date.year := Int.le_trans (by decide) hyear.1
  have hlast : t.clock.date.year ≤ Date.lastYear := Int.le_trans hyear.2 (by decide)
  have hdate : t.clock.date.isValid = true := by
    simp only [Date.isValid, Bool.and_eq_true, decide_eq_true_eq]
    exact ⟨⟨⟨⟨⟨hfirst, hlast⟩, hmonth⟩, hmonth'⟩, hday⟩, hday'⟩
  simp only [Clock.isValid, hdate, hhour, hminute, hsecond, decide_true, Bool.and_true,
    Bool.true_and]
  rfl

/-- Outside the years of four digits the text is in neither layout. -/
theorem ofChars?_chars_of_sign {t : Instant} (h : t.Regular)
    (hyear : ¬ (0 ≤ t.year ∧ t.year ≤ 9999)) : ofChars? t.chars = none := by
  obtain ⟨hmonth, hday, -, -, -⟩ := clock_bounds h
  obtain ⟨sign, hsign, hchars⟩ : ∃ sign, (sign = '-' ∨ sign = '+') ∧
      yearChars t.year = sign :: padded 4 t.year.natAbs := by
    rw [yearChars, if_neg hyear]
    split
    · exact ⟨'-', .inl rfl, rfl⟩
    · exact ⟨'+', .inr rfl, rfl⟩
  have hdigit : Identifier.isAsciiDigit sign = false := by
    rcases hsign with rfl | rfl
    · rfl
    · rfl
  rw [chars_eq_layout, hchars, List.cons_append, ofChars?, ofStrict?, ofLoose?,
    strictClock_sign hdigit, looseClock_sign hsign hmonth hday]
  rfl

/-- The text of an instant gives what a clock shows at it. -/
theorem ofChars?_chars {t : Instant} (h : t.Regular) (hyear : 0 ≤ t.year ∧ t.year ≤ 9999) :
    ofChars? t.chars = some t.clock.instant := by
  simp [ofChars?, ofStrict?, strictClock_chars h hyear, Clock.instant?, clock_isValid h hyear]

/-- The text of an instant can be read again exactly when its year has four digits. -/
theorem ofChars?_chars_iff {t : Instant} (h : t.Regular) :
    (∃ again, ofChars? t.chars = some again) ↔ 0 ≤ t.year ∧ t.year ≤ 9999 := by
  constructor
  · rintro ⟨again, hagain⟩
    by_contra hyear
    rw [ofChars?_chars_of_sign h hyear] at hagain
    cases hagain
  · exact fun hyear => ⟨t.clock.instant, ofChars?_chars h hyear⟩

end Instant

/-! ## What is read -/

/-- The nanoseconds lie within a second, and the offset is one of whole minutes. -/
structure Clock.Regular (c : Clock) : Prop where
  nanos_lt : c.nanos < 10 ^ 9
  offset_minutes : c.offset % 60 = 0

theorem Clock.Regular.instant {c : Clock} (h : c.Regular) : c.instant.Regular := by
  have hnanos := h.nanos_lt
  have hoffset := h.offset_minutes
  have hpow : Nat.pow 10 9 = 10 ^ 9 := rfl
  by_cases hleap : c.second = 60
  · refine .inr ⟨?_, ?_⟩
    · simp only [Clock.instant, hleap, if_true, hpow]
      omega
    · simp only [Clock.instant, hleap, if_true]
      omega
  · refine .inl ?_
    simp only [Clock.instant, hleap, if_false]
    exact hnanos

namespace Instant

theorem strictClock_regular {cs : List Char} {c : Clock} (h : strictClock cs = some c) :
    c.Regular := by
  obtain ⟨s, _, _, n, -, hzone, -, rfl⟩ := exists_stamp h
  exact ⟨s.fraction.nanos_lt, (isZone_of_offset hzone).whole_minutes⟩

theorem looseClock_regular {cs : List Char} {c : Clock} (h : looseClock cs = some c) :
    c.Regular := by
  obtain ⟨⟨year, _⟩, -, h⟩ := Option.bind_eq_some_iff.mp h
  obtain ⟨_, -, h⟩ := Option.bind_eq_some_iff.mp h
  obtain ⟨⟨month, _⟩, -, h⟩ := Option.bind_eq_some_iff.mp h
  obtain ⟨_, -, h⟩ := Option.bind_eq_some_iff.mp h
  obtain ⟨⟨day, _⟩, -, h⟩ := Option.bind_eq_some_iff.mp h
  obtain ⟨⟨hour, _⟩, -, h⟩ := Option.bind_eq_some_iff.mp h
  obtain ⟨_, -, h⟩ := Option.bind_eq_some_iff.mp h
  obtain ⟨⟨minute, _⟩, -, h⟩ := Option.bind_eq_some_iff.mp h
  obtain ⟨_, -, h⟩ := Option.bind_eq_some_iff.mp h
  obtain ⟨⟨second, _⟩, -, h⟩ := Option.bind_eq_some_iff.mp h
  obtain ⟨fraction, _, -, h⟩ := exists_fraction h
  obtain ⟨_, -, h⟩ := Option.bind_eq_some_iff.mp h
  split at h
  · cases h
    exact ⟨fraction.nanos_lt, rfl⟩
  · cases h

/-- Every instant that is read is regular. -/
theorem regular_of_ofChars? {cs : List Char} {t : Instant} (h : ofChars? cs = some t) :
    t.Regular := by
  have hinstant {c : Clock} (hc : c.Regular) (ht : c.instant? = some t) : t.Regular := by
    unfold Clock.instant? at ht
    split at ht
    · cases ht
      exact hc.instant
    · cases ht
  rcases Option.or_eq_some_iff.mp h with hstrict | ⟨-, hloose⟩
  · obtain ⟨c, hc, ht⟩ := Option.bind_eq_some_iff.mp hstrict
    exact hinstant (strictClock_regular hc) ht
  · obtain ⟨c, hc, ht⟩ := Option.bind_eq_some_iff.mp hloose
    exact hinstant (looseClock_regular hc) ht

end Instant

/-! ## Rules for instants -/

namespace Codec

theorem instantOf_regular {c : Codec} {wire : Json} {m : ModelValue}
    (h : c.instantOf wire = .ok m) : ∃ t : Instant, m = .temporal t ∧ t.Regular := by
  cases wire with
  | text s =>
    dsimp only [instantOf] at h
    split at h
    · rename_i t ht
      cases h
      exact ⟨t, rfl, Instant.regular_of_ofChars? ht⟩
    · cases h
  | _ => cases h

theorem instantOf_text_iff (c : Codec) {t : Instant} (h : t.Regular) :
    (∃ m, c.instantOf (.text t.text) = .ok m) ↔ 0 ≤ t.year ∧ t.year ≤ 9999 := by
  rw [← Instant.ofChars?_chars_iff h]
  simp only [instantOf, Instant.text, String.toList_ofList]
  cases Instant.ofChars? t.chars with
  | none => simp
  | some again => simp

/-- The text of an instant does not stand for nothing. -/
theorem emptyString_isMatch_text (t : Instant) :
    Sentinel.emptyString.isMatch (.text t.text) = false := by
  have hne : t.chars ≠ [] := by simp [Instant.chars_eq_layout, Instant.layout]
  simpa [Sentinel.isMatch, Instant.text] using hne

theorem toModel_nullableTemporal_text (t : Instant) :
    nullableTemporal.toModel (.text t.text) = nullableTemporal.instantOf (.text t.text) := by
  simp only [toModel, emptyString_isMatch_text, Bool.false_eq_true, if_false]

/-- What a rule reads it can write, and what it writes it reads again, unless it has read an
instant whose year does not have four digits: the text of such an instant is in no layout. -/
theorem a_rule_rereads_what_it_writes {rule : Option Codec} {wire : Json} {m : ModelValue}
    (h : toModel? rule wire = .ok m) :
    ∃ again, toWire? rule m = .ok again ∧
      ((∃ m', toModel? rule again = .ok m') ↔
        ∀ t : Instant, m = .temporal t → 0 ≤ t.year ∧ t.year ≤ 9999) := by
  -- Where the model is no instant both sides hold.
  have hreads {again : Json} {m m' : ModelValue} (hread : toModel? rule again = .ok m')
      (hm : ∀ t, m ≠ .temporal t) : (∃ m', toModel? rule again = .ok m') ↔
        ∀ t : Instant, m = .temporal t → 0 ≤ t.year ∧ t.year ≤ 9999 :=
    iff_of_true ⟨m', hread⟩ fun t ht => absurd ht (hm t)
  cases rule with
  | none =>
    cases h
    have hback : toWire? none (.ofWire wire) = .ok wire := by cases wire <;> rfl
    have hm : ∀ t, ModelValue.ofWire wire ≠ .temporal t := by
      intro t ht
      cases wire <;> cases ht
    exact ⟨wire, hback, hreads rfl hm⟩
  | some c =>
    cases c with
    | temporal =>
      obtain ⟨t, rfl, ht⟩ := instantOf_regular h
      refine ⟨.text t.text, rfl, (instantOf_text_iff temporal ht).trans ?_⟩
      simp
    | nullableTemporal =>
      simp only [toModel?, toModel] at h
      split at h
      · cases h
        exact ⟨.text "", rfl, hreads rfl (by simp)⟩
      · obtain ⟨t, rfl, ht⟩ := instantOf_regular h
        refine ⟨.text t.text, rfl, ?_⟩
        rw [toModel?, toModel_nullableTemporal_text, instantOf_text_iff nullableTemporal ht]
        simp
    | emptyAsNull s =>
      simp only [toModel?, toModel] at h
      split at h
      · cases h
        have hread : toModel? (some (emptyAsNull s)) s.wireValue = .ok .null := by cases s <;> rfl
        exact ⟨s.wireValue, rfl, hreads hread (by simp)⟩
      · rename_i hmatch
        cases h
        have hread : toModel? (some (emptyAsNull s)) wire = .ok (.value wire) := if_neg hmatch
        exact ⟨wire, rfl, hreads hread (by simp)⟩
    | arrayPatch op =>
      cases h
      exact ⟨wire, rfl, hreads rfl (by simp)⟩

/-- The last second of 2023 in Greenwich, read with an offset, is reread. -/
theorem the_end_of_2023_is_reread :
    toModel? (some .temporal) (.text "2024-01-01T01:59:59.123456+02:00") =
        .ok (.temporal ⟨1704067199, 123456000⟩) ∧
      ∃ again, toWire? (some .temporal) (.temporal ⟨1704067199, 123456000⟩) = .ok again ∧
        ∃ m, toModel? (some .temporal) again = .ok m := by
  have hread : toModel? (some .temporal) (.text "2024-01-01T01:59:59.123456+02:00") =
      .ok (.temporal ⟨1704067199, 123456000⟩) := by
    have hchars : Instant.ofChars? "2024-01-01T01:59:59.123456+02:00".toList =
        some ⟨1704067199, 123456000⟩ := by decide
    simp only [toModel?, toModel, instantOf, hchars]
  obtain ⟨again, hagain, hiff⟩ := a_rule_rereads_what_it_writes hread
  refine ⟨hread, again, hagain, hiff.mpr ?_⟩
  rintro t ht
  cases ht
  decide

/-- The first second of the year 10000 is read in the layout of the store, and under an offset
that moves it there, but what is written for it cannot be read. -/
theorem the_year_10000_is_not_reread :
    (toModel? (some .temporal) (.text "+10000-01-01 00:00:00Z") =
        .ok (.temporal ⟨253402300800, 0⟩) ∧
      toModel? (some .temporal) (.text "9999-12-31T23:00:00-01:00") =
        .ok (.temporal ⟨253402300800, 0⟩)) ∧
    toWire? (some .temporal) (.temporal ⟨253402300800, 0⟩) =
      .ok (.text "+10000-01-01T00:00:00.000Z") ∧
    ¬ ∃ m, toModel? (some .temporal) (.text "+10000-01-01T00:00:00.000Z") = .ok m := by
  refine ⟨⟨rfl, rfl⟩, rfl, ?_⟩
  rintro ⟨m, h⟩
  have hread : Instant.ofChars? "+10000-01-01T00:00:00.000Z".toList = none := by decide
  simp only [toModel?, toModel, instantOf, hread] at h
  cases h

end Codec

end StoreClient
