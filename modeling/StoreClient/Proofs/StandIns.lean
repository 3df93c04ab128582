-- The law of nothing: where a value may be missing in memory, exactly one value of the
-- store stands for that, and it is sent back for it. Everywhere else nothing is missing that
-- the store did not leave out itself, and apart from dates every value of the store comes
-- back as it was, whether or not it has the type of its entry.
import StoreClient.Proofs.TypedRules

namespace StoreClient

/-! ## Rules and nothing -/

theorem ValueType.isNullable_of_isPlain {t : ValueType} (h : t.IsPlain) : t.isNullable = false := by
  cases t with
  | nullable inner => exact h.elim
  | _ => rfl

namespace Codec

variable {rule : Option Codec} {wire model : ValueType}

theorem instantOf_ne_null (c : Codec) (w : Json) : c.instantOf w ≠ .ok .null := by
  intro h
  obtain ⟨t, ht⟩ := instantOf_ok h
  cases ht

theorem nullableTemporal_eq_null_iff (w : Json) :
    nullableTemporal.toModel w = .ok .null ↔ w = Sentinel.emptyString.wireValue := by
  rw [← Sentinel.isMatch_iff]
  simp only [toModel]
  split
  · rename_i hmatch
    exact iff_of_true rfl hmatch
  · rename_i hmatch
    exact iff_of_false (instantOf_ne_null _ w) hmatch

theorem emptyAsNull_eq_null_iff (s : Sentinel) (w : Json) :
    (emptyAsNull s).toModel w = .ok .null ↔ w = s.wireValue := by
  rw [← Sentinel.isMatch_iff]
  simp only [toModel]
  split
  · rename_i hmatch
    exact iff_of_true rfl hmatch
  · rename_i hmatch
    refine iff_of_false ?_ hmatch
    intro h
    cases h

/-- The rule of a nullable type has a sentinel, which is the empty value of the shape. -/
theorem Links.sentinel_of_nullable (h : Links rule wire model) (hmodel : model.isNullable = true) :
    ∃ s : Sentinel, s.wireValue = wire.emptyValue ∧ toWire? rule .null = .ok s.wireValue ∧
      ∀ w, toModel? rule w = .ok .null ↔ w = s.wireValue := by
  cases h with
  | same plain _ =>
    rw [ValueType.isNullable_of_isPlain plain] at hmodel
    cases hmodel
  | anything => cases hmodel
  | temporal => cases hmodel
  | nullableTemporal => exact ⟨.emptyString, rfl, rfl, nullableTemporal_eq_null_iff⟩
  | @emptyAsNull s _ _ _ _ stands _ => exact ⟨s, stands, rfl, emptyAsNull_eq_null_iff s⟩
  | arrayPatch plain =>
    rw [ValueType.isNullable_of_isPlain plain] at hmodel
    cases hmodel

/-- In a type that is not nullable nothing only comes from nothing. -/
theorem Links.eq_null_of_toModel (h : Links rule wire model) (hmodel : model.isNullable = false)
    {w : Json} (hw : toModel? rule w = .ok .null) : w = .null := by
  have unruled (hw : toModel? none w = .ok .null) : w = .null := by
    cases w with
    | null => rfl
    | _ => cases hw
  cases h with
  | same _ _ => exact unruled hw
  | anything => exact unruled hw
  | temporal => exact absurd hw (instantOf_ne_null _ w)
  | nullableTemporal => cases hmodel
  | emptyAsNull _ _ _ _ => cases hmodel
  | arrayPatch _ => cases hw

end Codec

/-! ## The law -/

/-- What becomes of nothing, and of values that no rule is about. -/
structure ReadField.KeepsNothing (f : ReadField) : Prop where
  stands_in : f.modelType.isNullable = true →
    ∀ w, Codec.toModel? f.parse w = .ok .null ↔ w = f.wireType.emptyValue
  sent_back : f.modelType.isNullable = true →
    Codec.toWire? f.serialize .null = .ok f.wireType.emptyValue
  only_null : f.modelType.isNullable = false →
    ∀ w, Codec.toModel? f.parse w = .ok .null → w = .null
  comes_back : f.kind ≠ .dateTime → f.kind ≠ .autoDateTime →
    ∀ w, ∃ m, Codec.toModel? f.parse w = .ok m ∧ Codec.toWire? f.serialize m = .ok w

theorem Field.readField_keepsNothing {policy : EmptyListPolicy} {f : Field} {r : ReadField}
    (h : f.readField? policy = some r) : r.KeepsNothing := by
  obtain ⟨t, ht, rfl⟩ := Option.map_eq_some_iff.mp h
  have hlinks := links_of_readType ht
  refine ⟨?_, ?_, ?_, ?_⟩
  · intro hmodel w
    obtain ⟨s, hs, -, hnull⟩ := hlinks.sentinel_of_nullable hmodel
    rw [← hs]
    exact hnull w
  · intro hmodel
    obtain ⟨s, hs, hsent, -⟩ := hlinks.sentinel_of_nullable hmodel
    rw [← hs]
    exact hsent
  · exact fun hmodel w hw => hlinks.eq_null_of_toModel hmodel hw
  · intro hdate hauto w
    have hrule (c : Codec) (hc : c = .temporal ∨ c = .nullableTemporal) :
        f.codec? policy ≠ some c := by
      intro hcodec
      rcases date_of_codec (hc.imp (· ▸ hcodec) (· ▸ hcodec)) with hkind | hkind
      · exact hdate hkind
      · exact hauto hkind
    exact Codec.toWire_toModel (hrule _ (Or.inl rfl)) (hrule _ (Or.inr rfl)) w

/-- A missing value has one stand-in, and nothing else is altered. -/
theorem a_missing_value_has_one_stand_in (policy : EmptyListPolicy) (d : Document) (s : Schema)
    (h : d.compile policy = .ok s) : ∀ b ∈ s.bundles, ∀ f ∈ b.read, f.KeepsNothing := by
  obtain ⟨cs, -, -, -, -, rfl⟩ := (Document.compile_ok_iff policy d s).mp h
  intro b hb r hr
  obtain ⟨c, -, rfl⟩ := List.mem_map.mp hb
  obtain ⟨f, -, hf⟩ := List.mem_filterMap.mp hr
  exact Field.readField_keepsNothing hf

/-- In the gallery the empty id alone stands for a picture without an album. -/
theorem the_gallery_has_one_empty_album : ∃ s, gallery.compile .null = .ok s ∧
    ∃ b ∈ s.bundles, ∃ f ∈ b.read, f.name = "album" ∧ f.modelType.isNullable = true ∧
      ∀ w, Codec.toModel? f.parse w = .ok .null ↔ w = .text "" := by
  refine ⟨_, rfl, _, List.mem_cons_of_mem _ List.mem_cons_self, _,
    List.mem_cons_of_mem _ List.mem_cons_self, rfl, rfl, ?_⟩
  have hall := a_missing_value_has_one_stand_in .null gallery _ rfl
  have halbum := hall _ (List.mem_cons_of_mem _ List.mem_cons_self) _
    (List.mem_cons_of_mem _ List.mem_cons_self)
  exact halbum.stands_in rfl

end StoreClient
