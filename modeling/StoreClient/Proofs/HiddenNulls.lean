-- The law of null: what stands for nothing in the store is told by `isNull` once it is in memory,
-- and is sent as the sentinel of its field. But a rule that passes values on as they are passes on
-- the null of the store too, which is then a value like any other and is sent back as null.
import StoreClient.Proofs.StandIns
import StoreClient.Proofs.Timestamps

namespace StoreClient

/-! ## What stands for nothing -/

/-- Null in memory, as itself or hidden in a value. -/
def ModelValue.SaysNull (m : ModelValue) : Prop := m = null ∨ m = value .null

namespace Codec

/-- The sentinel of a rule, if it has one. -/
def sentinel? : Option Codec → Option Sentinel
  | some nullableTemporal => some .emptyString
  | some (emptyAsNull s) => some s
  | _ => none

/-- In the store null stands for nothing under every rule, and so does the sentinel of the rule. -/
def StandsForNull (rule : Option Codec) (w : Json) : Prop :=
  w = .null ∨ ∃ s, sentinel? rule = some s ∧ w = s.wireValue

/-- A rule that passes on every value that it is not about. -/
def PassesOn : Option Codec → Prop
  | some (emptyAsNull _) | some (arrayPatch _) => True
  | _ => False

variable {rule : Option Codec} {w : Json} {m : ModelValue}

/-- Null is not the text of an instant, so that only rules that pass it on can read it. -/
theorem eq_none_or_passesOn (h : toModel? rule .null = .ok m) : rule = none ∨ PassesOn rule := by
  rcases rule with - | c
  · exact Or.inl rfl
  · cases c with
    | temporal => cases h
    | nullableTemporal => cases h
    | emptyAsNull s => exact Or.inr trivial
    | arrayPatch op => exact Or.inr trivial

theorem toModel?_eq_null_iff : toModel? rule w = .ok .null ↔
    (w = .null ∧ rule = none) ∨ ∃ s, sentinel? rule = some s ∧ w = s.wireValue := by
  rcases rule with - | c
  · cases w <;> simp [toModel?, ModelValue.ofWire, sentinel?]
  · cases c with
    | temporal => simp [toModel?, toModel, sentinel?, instantOf_ne_null]
    | nullableTemporal => simp [toModel?, nullableTemporal_eq_null_iff, sentinel?]
    | emptyAsNull s => simp [toModel?, emptyAsNull_eq_null_iff, sentinel?]
    | arrayPatch op => simp [toModel?, toModel, sentinel?]

theorem toModel?_eq_value_null_iff :
    toModel? rule w = .ok (.value .null) ↔ w = .null ∧ PassesOn rule := by
  have hinstant (c : Codec) : c.instantOf w ≠ .ok (.value .null) := by
    intro h
    obtain ⟨t, ht⟩ := instantOf_ok h
    cases ht
  rcases rule with - | c
  · cases w <;> simp [toModel?, ModelValue.ofWire, PassesOn]
  · cases c with
    | temporal => simp [toModel?, toModel, PassesOn, hinstant]
    | nullableTemporal =>
      simp only [toModel?, toModel, PassesOn, and_false, iff_false]
      split
      · simp
      · exact hinstant nullableTemporal
    | emptyAsNull s =>
      simp only [toModel?, toModel, PassesOn, and_true]
      split
      · rename_i hmatch
        -- A sentinel is not null.
        rw [Sentinel.isMatch_iff] at hmatch
        rw [hmatch]
        cases s <;> simp [Sentinel.wireValue]
      · simp
    | arrayPatch op => simp [toModel?, toModel, PassesOn]

/-- The sentinel is sent exactly for what is told to be null. -/
theorem toWire?_eq_sentinel_iff {s : Sentinel} (hs : sentinel? rule = some s)
    (h : toModel? rule w = .ok m) : toWire? rule m = .ok s.wireValue ↔ m.isNull = true := by
  rcases rule with - | c
  · cases hs
  · cases c with
    | temporal => cases hs
    | nullableTemporal =>
      cases hs
      simp only [toModel?, toModel] at h
      split at h
      · cases h
        exact iff_of_true rfl rfl
      · obtain ⟨t, rfl⟩ := instantOf_ok h
        have htext := emptyString_isMatch_text t
        refine iff_of_false ?_ Bool.false_ne_true
        intro hsent
        rw [(Sentinel.isMatch_iff .emptyString _).mpr (Except.ok.inj hsent)] at htext
        cases htext
    | emptyAsNull s =>
      cases hs
      simp only [toModel?, toModel] at h
      split at h
      · cases h
        exact iff_of_true rfl rfl
      · rename_i hmatch
        cases h
        refine iff_of_false ?_ Bool.false_ne_true
        intro hsent
        exact hmatch ((s.isMatch_iff w).mpr (Except.ok.inj hsent))
    | arrayPatch op => cases hs

/-- The rule of a nullable type has a sentinel, the empty value of the shape. -/
theorem Links.exists_sentinel {wire model : ValueType} (h : Links rule wire model)
    (hmodel : model.isNullable = true) :
    ∃ s, sentinel? rule = some s ∧ s.wireValue = wire.emptyValue := by
  obtain ⟨s, hs, -, hnull⟩ := h.sentinel_of_nullable hmodel
  have hread := (hnull s.wireValue).mpr rfl
  rcases toModel?_eq_null_iff.mp hread with ⟨hvalue, -⟩ | ⟨s', hs', hvalue⟩
  · cases s <;> cases hvalue
  · exact ⟨s', hs', hvalue ▸ hs⟩

end Codec

namespace Field

/-- The rules that a field is sent with: when a fetched record is sent back, when a record is
created, and when it is changed. -/
def sendingRules (policy : EmptyListPolicy) (f : Field) : List (Option Codec) :=
  (f.readField? policy).toList.map (·.serialize) ++
  (f.createField? policy).toList.map (·.serialize) ++ (f.updateFields policy).map (·.serialize)

/-- A field that may be missing has one rule, whichever way it goes. -/
theorem eq_codec?_of_mem_sendingRules {policy : EmptyListPolicy} {f : Field} {t : ValueType}
    (ht : f.readType? policy = some t) (hnull : t.isNullable = true) {rule : Option Codec}
    (h : rule ∈ f.sendingRules policy) : rule = f.codec? policy := by
  have hwritten (hcreate : f.createField? policy =
        some (f.written t f.wireType false (f.codec? policy)))
      (hupdate : f.updateFields policy = (f.createField? policy).toList) :
      rule = f.codec? policy := by
    simp only [sendingRules, readField?, hupdate, hcreate, ht, written] at h
    simpa using h
  obtain ⟨name, form⟩ := f
  cases form with
  | autoDateTime =>
    cases ht
    cases hnull
  | file c _ => cases c <;> cases ht <;> cases hnull
  | password => cases ht
  | _ => exact hwritten (by simp only [createField?, ht, Option.map_some]) rfl

end Field

/-! ## The law -/

namespace Codec

/-- What becomes of nothing when a rule has read a value of the store. -/
structure TellsNull (rule : Option Codec) (w : Json) (m : ModelValue) : Prop where
  says_iff : m.SaysNull ↔ StandsForNull rule w
  /-- Null is hidden in a value exactly when it was passed on. -/
  hidden_iff : m = .value .null ↔ w = .null ∧ PassesOn rule
  told_iff : (m.isNull = true ↔ m.SaysNull) ↔ ¬ (w = .null ∧ PassesOn rule)
  /-- Where the rule is that of a field that may be missing, the sentinel of the field is sent
  exactly for what is told to be null. -/
  sent_iff : ∀ (policy : EmptyListPolicy) (f : Field) (r : ReadField),
    f.readField? policy = some r → r.modelType.isNullable = true → r.parse = rule →
      ∃ s, sentinel? rule = some s ∧ s.wireValue = r.wireType.emptyValue ∧
        ∀ sending ∈ f.sendingRules policy,
          toWire? sending m = .ok s.wireValue ↔ m.isNull = true

/-- Null is told in memory unless a rule has passed it on. -/
theorem null_is_told_unless_passed_on {rule : Option Codec} {w : Json} {m : ModelValue}
    (h : toModel? rule w = .ok m) : TellsNull rule w m := by
  have hnull : toModel? rule w = .ok .null ↔ _ := toModel?_eq_null_iff
  have hhidden : toModel? rule w = .ok (.value .null) ↔ _ := toModel?_eq_value_null_iff
  rw [h, Except.ok.injEq] at hnull hhidden
  have hsaid : m.SaysNull ↔ StandsForNull rule w := by
    rw [ModelValue.SaysNull, StandsForNull, hnull, hhidden]
    constructor
    · rintro ((⟨hw, -⟩ | hs) | ⟨hw, -⟩)
      · exact Or.inl hw
      · exact Or.inr hs
      · exact Or.inl hw
    · rintro (rfl | hs)
      · rcases eq_none_or_passesOn h with hrule | hrule
        · exact Or.inl (Or.inl ⟨rfl, hrule⟩)
        · exact Or.inr ⟨rfl, hrule⟩
      · exact Or.inl (Or.inr hs)
  refine ⟨hsaid, hhidden, ?_, ?_⟩
  · rw [← hhidden]
    cases m <;> simp [ModelValue.isNull, ModelValue.SaysNull]
  · rintro policy f r hr hmodel rfl
    obtain ⟨t, ht, rfl⟩ := Option.map_eq_some_iff.mp hr
    obtain ⟨s, hs, hempty⟩ := (Field.links_of_readType ht).exists_sentinel hmodel
    refine ⟨s, hs, hempty, ?_⟩
    intro sending hsending
    rw [Field.eq_codec?_of_mem_sendingRules ht hmodel hsending]
    exact toWire?_eq_sentinel_iff hs h

end Codec

/-- The albums that a picture stands in, of which there may be none. -/
def Field.albums : Field := ⟨"albums", .relation "albums" .multiple false⟩

/-- A picture in no album: the empty list is told to be null, and is sent for it again. -/
theorem no_albums_are_told : ∃ r, Field.albums.readField? .null = some r ∧
    Codec.toModel? r.parse (.array []) = .ok .null ∧
      ∀ sending ∈ Field.albums.sendingRules .null,
        Codec.toWire? sending .null = .ok (.array []) := by
  have hread : Codec.toModel? (some (.emptyAsNull .emptyList)) (.array []) = .ok .null := rfl
  have htells := Codec.null_is_told_unless_passed_on hread
  obtain ⟨s, hs, -, hsent⟩ := htells.sent_iff .null Field.albums _ rfl rfl rfl
  cases hs
  exact ⟨_, rfl, hread, fun sending hsending => (hsent sending hsending).mpr rfl⟩

/-- A null in place of the albums is passed on: it is not told to be null, and the empty list, which
stands for null, is not sent for it. -/
theorem a_null_passed_on_is_not_told : ∃ r, Field.albums.readField? .null = some r ∧
    r.modelType.isNullable = true ∧ r.wireType.emptyValue = .array [] ∧
      Codec.toModel? r.parse .null = .ok (.value .null) ∧
      (ModelValue.value .null).isNull = false ∧
      Codec.toWire? r.serialize (.value .null) = .ok .null :=
  ⟨_, rfl, rfl, rfl, rfl, rfl, rfl⟩

end StoreClient
