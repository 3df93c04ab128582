-- The law of the milliseconds: between the years 0 and 9999 an instant comes back from its text as
-- it was, but for what it has below a millisecond. A leap second comes back as one, and what is
-- written for the instant that came back is the same text again.
import StoreClient.Proofs.Timestamps

namespace StoreClient

namespace Instant

/-- The instant without what it has below a millisecond. -/
def cut (t : Instant) : Instant := ⟨t.seconds, t.nanos / 10 ^ 6 * 10 ^ 6⟩

/-- Nothing of the instant lies below a millisecond. -/
def IsWhole (t : Instant) : Prop := 10 ^ 6 ∣ t.nanos

/-- An instant that can be there, in a year of four digits. -/
structure Writable (t : Instant) : Prop where
  regular : t.Regular
  four_digits : 0 ≤ t.year ∧ t.year ≤ 9999

theorem cut_of_isWhole {t : Instant} (h : t.IsWhole) : t.cut = t := by
  rw [cut, Nat.div_mul_cancel h]

/-- The nanoseconds go on from `10 ^ 9` inside a leap second, before and after the cut. -/
theorem leap_cut_iff (t : Instant) : 10 ^ 9 ≤ t.cut.nanos ↔ 10 ^ 9 ≤ t.nanos := by
  simp only [cut]
  omega

/-- The text shows nothing below a millisecond. -/
theorem chars_cut (t : Instant) : t.cut.chars = t.chars := by
  have hsecond : t.cut.nanos / Nat.pow 10 9 = t.nanos / Nat.pow 10 9 := by
    simp only [cut, Nat.pow_eq]
    omega
  have hmillis : t.cut.nanos % Nat.pow 10 9 / Nat.pow 10 6 =
      t.nanos % Nat.pow 10 9 / Nat.pow 10 6 := by
    simp only [cut, Nat.pow_eq]
    omega
  unfold chars
  rw [hsecond, hmillis]
  rfl

/-- A clock shows the second of the day; a leap second is shown as 60 and counted as 59. -/
theorem secondOfDay_clock {t : Instant} (h : t.Regular) :
    t.clock.hour * 3600 + t.clock.minute * 60 + min t.clock.second 59 =
      (t.seconds % 86400).toNat := by
  simp only [Regular] at h
  simp only [clock]
  omega

/-- A clock shows second 60 exactly inside a leap second. -/
theorem second_clock_eq_iff {t : Instant} (h : t.Regular) :
    t.clock.second = 60 ↔ 10 ^ 9 ≤ t.nanos := by
  simp only [Regular] at h
  simp only [clock]
  omega

/-- With the second that a leap second adds, the nanoseconds are those of the instant. -/
theorem nanos_clock {t : Instant} (h : t.Regular) :
    t.clock.nanos + (if t.clock.second = 60 then Nat.pow 10 9 else 0) = t.cut.nanos := by
  have hlt : t.nanos < 2 * 10 ^ 9 := by
    simp only [Regular] at h
    omega
  by_cases hleap : t.clock.second = 60
  · have hnanos := (second_clock_eq_iff h).mp hleap
    rw [if_pos hleap]
    simp only [clock, cut, Nat.pow_eq]
    omega
  · have hnanos := mt (second_clock_eq_iff h).mpr hleap
    rw [if_neg hleap]
    simp only [clock, cut]
    omega

theorem instant_clock {t : Instant} (h : t.Regular) : t.clock.instant = t.cut := by
  have hday : t.clock.date.dayNumber = t.seconds / 86400 := Date.dayNumber_ofDayNumber _
  have hsecond := secondOfDay_clock h
  have hnanos := nanos_clock h
  have hoffset : t.clock.offset = 0 := rfl
  simp only [Clock.instant, hday, hsecond, hnanos, hoffset, cut, mk.injEq, and_true]
  omega

end Instant

namespace Codec

/-- The rules under which a value in memory may be an instant. -/
def instantRules : List Codec := [temporal, nullableTemporal]

theorem toWire_instant {rule : Codec} (h : rule ∈ instantRules) (t : Instant) :
    rule.toWire (.temporal t) = .ok (.text t.text) := by
  simp only [instantRules, List.mem_cons, List.not_mem_nil, or_false] at h
  rcases h with rfl | rfl
  · rfl
  · rfl

/-- A text that can be read is not empty, so that it stands for its instant under either rule. -/
theorem toModel_of_ofChars? {rule : Codec} (h : rule ∈ instantRules) {cs : List Char} {t : Instant}
    (hread : Instant.ofChars? cs = some t) :
    rule.toModel (.text (.ofList cs)) = .ok (.temporal t) := by
  have hinstant (c : Codec) : c.instantOf (.text (.ofList cs)) = .ok (.temporal t) := by
    simp only [instantOf, String.toList_ofList, hread]
  simp only [instantRules, List.mem_cons, List.not_mem_nil, or_false] at h
  rcases h with rfl | rfl
  · exact hinstant temporal
  · have hne : cs ≠ [] := by
      rintro rfl
      cases hread
    have hmatch : Sentinel.emptyString.isMatch (.text (.ofList cs)) = false := by
      simpa [Sentinel.isMatch] using hne
    simp only [toModel, hmatch, Bool.false_eq_true, if_false, hinstant]

theorem toModel_text {rule : Codec} (h : rule ∈ instantRules) {t : Instant} (ht : t.Writable) :
    rule.toModel (.text t.text) = .ok (.temporal t.cut) := by
  refine toModel_of_ofChars? h ?_
  rw [Instant.ofChars?_chars ht.regular ht.four_digits, Instant.instant_clock ht.regular]

/-- What becomes of an instant in years of four digits: it is written as a text, from which it is
read again without what it has below a millisecond. -/
structure Survives (t : Instant) (text : String) : Prop where
  written : ∀ rule ∈ instantRules, rule.toWire (.temporal t) = .ok (.text text)
  read_back : ∀ rule ∈ instantRules, rule.toModel (.text text) = .ok (.temporal t.cut)
  rewritten : ∀ rule ∈ instantRules, rule.toWire (.temporal t.cut) = .ok (.text text)
  leap_kept : 10 ^ 9 ≤ t.cut.nanos ↔ 10 ^ 9 ≤ t.nanos
  whole_kept : t.IsWhole → ∀ rule ∈ instantRules, rule.toModel (.text text) = .ok (.temporal t)
  /-- No other instant of whole milliseconds has this text. -/
  whole_alone : t.IsWhole → ∀ u : Instant, u.Writable → u.IsWhole →
    ∀ rule ∈ instantRules, rule.toWire (.temporal u) = .ok (.text text) → u = t

/-- Every instant of the years 0 to 9999 survives in its text to the millisecond. -/
theorem an_instant_survives_to_the_millisecond {t : Instant} (h : t.Writable) :
    ∃ text, Survives t text := by
  have hwhole (hcut : t.IsWhole) (rule : Codec) (hrule : rule ∈ instantRules) :
      rule.toModel (.text t.text) = .ok (.temporal t) := by
    rw [toModel_text hrule h, Instant.cut_of_isWhole hcut]
  refine ⟨t.text, fun _ hrule => toWire_instant hrule t, fun _ hrule => toModel_text hrule h, ?_,
    t.leap_cut_iff, hwhole, ?_⟩
  · intro rule hrule
    rw [toWire_instant hrule, Instant.text, Instant.chars_cut]
    rfl
  · intro hcut u hu hucut rule hrule hwritten
    -- Both instants are read from the one text.
    have htext : u.text = t.text := by
      rw [toWire_instant hrule, Except.ok.injEq, Json.text.injEq] at hwritten
      exact hwritten
    have hread := hwhole hcut rule hrule
    rw [← htext, toModel_text hrule hu, Instant.cut_of_isWhole hucut] at hread
    cases hread
    rfl

/-- The last nanosecond of a leap second at the end of 1969. -/
theorem a_leap_second_before_1970_survives : Instant.Writable ⟨-1, 1999999999⟩ ∧
    ∃ text, Survives ⟨-1, 1999999999⟩ text := by
  have h : Instant.Writable ⟨-1, 1999999999⟩ := ⟨.inr (by decide), by decide⟩
  exact ⟨h, an_instant_survives_to_the_millisecond h⟩

/-- The leap second is written as second 60. -/
example : Instant.text ⟨-1, 1999999999⟩ = "1969-12-31T23:59:60.999Z" := by decide

end Codec

end StoreClient
