-- The law of types: the types that an entry declares are those of the values that its rule
-- gives and takes. A rule links the type of what the store sends to the type in memory;
-- each entry of each shape has such a rule, and a rule that links two types keeps to them
-- in both directions.
import StoreClient.Proofs.Compilation

namespace StoreClient

/-! ## Values of a type -/

namespace ValueType

/-- The value that stands for nothing in the shape of a type. -/
def emptyValue (t : ValueType) : Json := if t.isList then .array [] else .text ""

/-- The JSON values of a type. Which of them stand for the bytes of a file is left open. -/
def Admits (file : Json → Prop) : ValueType → Json → Prop
  | string, j => ∃ s, j = .text s
  | number, j => ∃ n, j = .number n
  | boolean, j => ∃ b, j = .bool b
  | unknown, _ => True
  | temporal, _ => False
  | flavored _, j => ∃ s, j = .text s
  | recordId, j => ∃ s, j = .text s
  | fileRef, j => ∃ s, j = .text s
  | binary, j => file j
  | geoPoint, j =>
    (∃ n, j.get? "lat" = some (.number n)) ∧ ∃ n, j.get? "lon" = some (.number n)
  | literals values, j => ∃ s ∈ values, j = .text s
  | list item, j => ∃ items, j = .array items ∧ ∀ x ∈ items, item.Admits file x
  | nullable inner, j => j = .null ∨ inner.Admits file j
  | clearable inner, j => inner.Admits file j ∨ j = inner.emptyValue

/-- The values in memory of a type. -/
def AdmitsModel (file : Json → Prop) : ValueType → ModelValue → Prop
  | temporal, m => ∃ t, m = .temporal t
  | nullable inner, m => m = .null ∨ inner.AdmitsModel file m
  | unknown, m => m = .null ∨ ∃ j, m = .value j
  | t, m => ∃ j, m = .value j ∧ t.Admits file j

/-- A type whose values in memory are its JSON values. -/
def IsPlain : ValueType → Prop
  | temporal | nullable _ | unknown => False
  | _ => True

variable {file : Json → Prop}

theorem admitsModel_iff {t : ValueType} (h : t.IsPlain) (m : ModelValue) :
    t.AdmitsModel file m ↔ ∃ j, m = .value j ∧ t.Admits file j := by
  cases t with
  | temporal => exact h.elim
  | nullable inner => exact h.elim
  | unknown => exact h.elim
  | _ => exact Iff.rfl

/-- Two types with the same JSON values. -/
def SameValues (t u : ValueType) : Prop := ∀ file j, t.Admits file j ↔ u.Admits file j

theorem SameValues.refl (t : ValueType) : t.SameValues t := fun _ _ => Iff.rfl

end ValueType

/-! ## Rules between two types -/

theorem Sentinel.isMatch_iff (s : Sentinel) (w : Json) : s.isMatch w = true ↔ w = s.wireValue := by
  cases s <;> cases w <;> simp [isMatch, wireValue]

namespace Codec

/-- A rule links the type of what the store sends to the type in memory. -/
inductive Links : Option Codec → ValueType → ValueType → Prop
  | same {wire model : ValueType} (plain : model.IsPlain) (values : model.SameValues wire) :
      Links none wire model
  | anything : Links none .unknown .unknown
  | temporal : Links (some .temporal) .string .temporal
  | nullableTemporal : Links (some .nullableTemporal) .string (.nullable .temporal)
  | emptyAsNull {s : Sentinel} {wire inner : ValueType} (plain : inner.IsPlain)
      (values : inner.SameValues wire) (stands : s.wireValue = wire.emptyValue)
      (admits : ∀ file, wire.Admits file wire.emptyValue) :
      Links (some (.emptyAsNull s)) wire (.nullable inner)
  | arrayPatch {op : Patch} {t : ValueType} (plain : t.IsPlain) :
      Links (some (.arrayPatch op)) t t

variable {file : Json → Prop} {rule : Option Codec} {wire model : ValueType}

theorem instantOf_ok {c : Codec} {w : Json} {m : ModelValue} (h : c.instantOf w = .ok m) :
    ∃ t, m = .temporal t := by
  unfold instantOf at h
  split at h
  · split at h
    · rename_i t _
      cases h
      exact ⟨t, rfl⟩
    · cases h
  · cases h

/-- What a value of the store becomes has the type in memory. Null stays null without a rule, so
it must not be sent unless memory takes anything. -/
theorem Links.toModel_admits (h : Links rule wire model)
    (hnull : model = .unknown ∨ ¬ wire.Admits file .null) {w : Json} {m : ModelValue}
    (hw : wire.Admits file w) (hm : toModel? rule w = .ok m) : model.AdmitsModel file m := by
  cases h with
  | same plain values =>
    have hsent : ¬ wire.Admits file .null := by
      rcases hnull with rfl | hsent
      · exact plain.elim
      · exact hsent
    have hvalue : ModelValue.ofWire w = .value w := by
      cases w with
      | null => exact absurd hw hsent
      | _ => rfl
    cases hm
    rw [hvalue]
    exact (ValueType.admitsModel_iff plain _).mpr ⟨w, rfl, (values file w).mpr hw⟩
  | anything =>
    cases hm
    cases w with
    | null => exact Or.inl rfl
    | _ => exact Or.inr ⟨_, rfl⟩
  | temporal => exact instantOf_ok hm
  | nullableTemporal =>
    simp only [toModel?, toModel] at hm
    split at hm
    · cases hm
      exact Or.inl rfl
    · exact Or.inr (instantOf_ok hm)
  | emptyAsNull plain values _ _ =>
    simp only [toModel?, toModel] at hm
    split at hm
    · cases hm
      exact Or.inl rfl
    · cases hm
      exact Or.inr ((ValueType.admitsModel_iff plain _).mpr ⟨w, rfl, (values file w).mpr hw⟩)
  | arrayPatch plain =>
    cases hm
    exact (ValueType.admitsModel_iff plain _).mpr ⟨w, rfl, hw⟩

/-- A value of the type in memory can be sent, and what is sent has the type of the store. -/
theorem Links.toWire_admits (h : Links rule wire model) {m : ModelValue}
    (hm : model.AdmitsModel file m) : ∃ w, toWire? rule m = .ok w ∧ wire.Admits file w := by
  cases h with
  | same plain values =>
    obtain ⟨j, rfl, hj⟩ := (ValueType.admitsModel_iff plain m).mp hm
    exact ⟨j, rfl, (values file j).mp hj⟩
  | anything =>
    rcases hm with rfl | ⟨j, rfl⟩
    · exact ⟨.null, rfl, trivial⟩
    · exact ⟨j, rfl, trivial⟩
  | temporal =>
    obtain ⟨t, rfl⟩ := hm
    exact ⟨_, rfl, _, rfl⟩
  | nullableTemporal =>
    rcases hm with rfl | ⟨t, rfl⟩
    · exact ⟨_, rfl, _, rfl⟩
    · exact ⟨_, rfl, _, rfl⟩
  | @emptyAsNull s _ _ plain values stands admits =>
    rcases hm with rfl | hm
    · exact ⟨s.wireValue, rfl, stands ▸ admits file⟩
    · obtain ⟨j, rfl, hj⟩ := (ValueType.admitsModel_iff plain m).mp hm
      exact ⟨j, rfl, (values file j).mp hj⟩
  | arrayPatch plain =>
    obtain ⟨j, rfl, hj⟩ := (ValueType.admitsModel_iff plain m).mp hm
    exact ⟨j, rfl, hj⟩

/-- Only texts of instants can be refused, and every other value comes back as it was. -/
theorem toWire_toModel (h₁ : rule ≠ some .temporal) (h₂ : rule ≠ some .nullableTemporal)
    (w : Json) : ∃ m, toModel? rule w = .ok m ∧ toWire? rule m = .ok w := by
  rcases rule with - | c
  · refine ⟨_, rfl, ?_⟩
    cases w <;> rfl
  · cases c with
    | temporal => exact absurd rfl h₁
    | nullableTemporal => exact absurd rfl h₂
    | emptyAsNull s =>
      simp only [toModel?, toModel]
      split
      · rename_i hmatch
        refine ⟨_, rfl, ?_⟩
        rw [(s.isMatch_iff w).mp hmatch]
        rfl
      · exact ⟨_, rfl, rfl⟩
    | arrayPatch op => exact ⟨_, rfl, rfl⟩

end Codec

/-! ## The rules of a field -/

namespace Field

variable {policy : EmptyListPolicy} {f : Field} {t : ValueType}

/-- A field whose texts stand for instants is a date. -/
theorem date_of_codec
    (h : f.codec? policy = some .temporal ∨ f.codec? policy = some .nullableTemporal) :
    f.kind = .dateTime ∨ f.kind = .autoDateTime := by
  unfold codec? at h
  unfold kind
  split at h <;> try simp at h
  · rename_i hform
    exact Or.inl (by rw [hform]; rfl)
  · rename_i hform
    exact Or.inr (by rw [hform]; rfl)
  · rename_i hform
    exact Or.inl (by rw [hform]; rfl)

/-- The rule of a field links its two types. -/
theorem links_of_readType (h : f.readType? policy = some t) :
    Codec.Links (f.codec? policy) f.wireType t := by
  have empty (inner : ValueType) (plain : inner.IsPlain) (values : inner.SameValues .string) :
      Codec.Links (some (.emptyAsNull .emptyString)) .string (.nullable inner) :=
    .emptyAsNull plain values rfl fun _ => ⟨"", rfl⟩
  obtain ⟨name, form⟩ := f
  cases form with
  | plainText _ | number _ | boolean | geoPoint =>
    cases h
    exact .same trivial (.refl _)
  | richText required | email required | url required =>
    cases required <;> cases h
    · exact empty _ trivial fun _ _ => Iff.rfl
    · exact .same trivial fun _ _ => Iff.rfl
  | relation target c required =>
    cases c with
    | single =>
      cases required <;> cases h
      · exact empty _ trivial fun _ _ => Iff.rfl
      · exact .same trivial fun _ _ => Iff.rfl
    | multiple =>
      have values : ValueType.SameValues (.list .recordId) (.list .string) :=
        fun _ _ => Iff.rfl
      cases required with
      | true =>
        cases h
        exact .same trivial values
      | false =>
        cases policy with
        | null =>
          cases h
          refine .emptyAsNull trivial values rfl fun _ => ⟨[], rfl, ?_⟩
          intro _ hx
          cases hx
        | emptyList =>
          cases h
          exact .same trivial values
  | dateTime required =>
    cases required <;> cases h
    · exact .nullableTemporal
    · exact .temporal
  | autoDateTime =>
    cases h
    exact .temporal
  | json =>
    cases h
    exact .anything
  | select _ c | file c _ => cases c <;> cases h <;> exact .same trivial (.refl _)
  | password => cases h

/-- The store sends no null, unless the field may hold anything. -/
theorem unknown_or_never_null (h : f.readType? policy = some t) (file : Json → Prop) :
    t = .unknown ∨ ¬ f.wireType.Admits file .null := by
  obtain ⟨name, form⟩ := f
  cases form with
  | json =>
    cases h
    exact Or.inl rfl
  | geoPoint =>
    refine Or.inr ?_
    rintro ⟨⟨_, hlat⟩, -⟩
    cases hlat
  | relation _ c _ | select _ c | file c _ =>
    refine Or.inr ?_
    cases c <;> rintro ⟨_, h⟩ <;> simp at h
  | password => cases h
  | _ =>
    refine Or.inr ?_
    rintro ⟨_, h⟩
    cases h

/-! ## The rules of the entries -/

theorem links_of_createField {e : WriteField} (h : f.createField? policy = some e) :
    Codec.Links e.serialize e.wireType e.modelType := by
  unfold createField? at h
  split at h
  · cases h
  · rename_i c _ _
    cases h
    cases c <;> exact .same trivial (.refl _)
  · cases h
    exact .same trivial (.refl _)
  · obtain ⟨t, ht, rfl⟩ := Option.map_eq_some_iff.mp h
    exact links_of_readType ht

theorem links_of_updateFields {e : WriteField} (h : e ∈ f.updateFields policy) :
    Codec.Links e.serialize e.wireType e.modelType := by
  unfold updateFields at h
  split at h
  · cases h
  · rename_i c _ _
    rcases List.mem_cons.mp h with rfl | h
    · exact .same trivial (.refl _)
    · cases c with
      | single => cases h
      | multiple =>
        obtain ⟨op, -, rfl⟩ := List.mem_map.mp h
        cases op <;> exact .arrayPatch trivial
  · exact links_of_createField (Option.mem_toList.mp h)

end Field

/-- What the types of a read entry promise of its rules. -/
structure ReadField.KeepsTypes (file : Json → Prop) (f : ReadField) : Prop where
  decodes : ∀ w m, f.wireType.Admits file w → Codec.toModel? f.parse w = .ok m →
    f.modelType.AdmitsModel file m
  refuses_dates_only : ∀ w e, f.wireType.Admits file w → Codec.toModel? f.parse w = .error e →
    f.kind = .dateTime ∨ f.kind = .autoDateTime
  encodes : ∀ m, f.modelType.AdmitsModel file m →
    ∃ w, Codec.toWire? f.serialize m = .ok w ∧ f.wireType.Admits file w

/-- What the types of an entry to be written promise of its rule. -/
def WriteField.KeepsTypes (file : Json → Prop) (f : WriteField) : Prop :=
  ∀ m, f.modelType.AdmitsModel file m →
    ∃ w, Codec.toWire? f.serialize m = .ok w ∧ f.wireType.Admits file w

theorem Field.readField_keepsTypes {policy : EmptyListPolicy} {f : Field} {r : ReadField}
    (h : f.readField? policy = some r) (file : Json → Prop) : r.KeepsTypes file := by
  obtain ⟨t, ht, rfl⟩ := Option.map_eq_some_iff.mp h
  have hlinks := links_of_readType ht
  refine ⟨?_, ?_, ?_⟩
  · intro w m hw hm
    exact hlinks.toModel_admits (unknown_or_never_null ht file) hw hm
  · intro w e _ he
    by_contra hdate
    have hrule : ¬ (f.codec? policy = some .temporal ∨ f.codec? policy = some .nullableTemporal) :=
      fun hc => hdate (date_of_codec hc)
    rw [not_or] at hrule
    obtain ⟨m, hm, -⟩ := Codec.toWire_toModel hrule.1 hrule.2 w
    rw [hm] at he
    cases he
  · intro m hm
    exact hlinks.toWire_admits hm

/-- The entries of every shape keep to their types, whatever stands for the bytes of a file. -/
theorem types_and_rules_agree (policy : EmptyListPolicy) (d : Document) (s : Schema)
    (h : d.compile policy = .ok s) (file : Json → Prop) : ∀ b ∈ s.bundles,
      (∀ f ∈ b.read, f.KeepsTypes file) ∧ (∀ f ∈ b.create, f.KeepsTypes file) ∧
      ∀ f ∈ b.update, f.KeepsTypes file := by
  obtain ⟨cs, -, -, -, -, rfl⟩ := (Document.compile_ok_iff policy d s).mp h
  intro b hb
  obtain ⟨c, -, rfl⟩ := List.mem_map.mp hb
  refine ⟨?_, ?_, ?_⟩
  · intro r hr
    obtain ⟨f, -, hf⟩ := List.mem_filterMap.mp hr
    exact Field.readField_keepsTypes hf file
  · intro e he m hm
    obtain ⟨f, -, hf⟩ := List.mem_filterMap.mp he
    exact (Field.links_of_createField hf).toWire_admits hm
  · intro e he m hm
    obtain ⟨f, -, hf⟩ := List.mem_flatMap.mp he
    exact (Field.links_of_updateFields hf).toWire_admits hm

/-- A picture without an album: the empty id is sent, and the type of the album takes what it
becomes. -/
theorem the_gallery_keeps_the_type_of_the_album : ∃ s, gallery.compile .null = .ok s ∧
    ∃ b ∈ s.bundles, ∃ f ∈ b.read, f.name = "album" ∧ f.modelType = .nullable .recordId ∧
      ∃ m, Codec.toModel? f.parse (.text "") = .ok m ∧
        f.modelType.AdmitsModel (fun _ => True) m := by
  refine ⟨_, rfl, _, List.mem_cons_of_mem _ List.mem_cons_self, _,
    List.mem_cons_of_mem _ List.mem_cons_self, rfl, rfl, _, rfl, ?_⟩
  have hall := types_and_rules_agree .null gallery _ rfl (fun _ => True)
  obtain ⟨hread, -, -⟩ := hall _ (List.mem_cons_of_mem _ List.mem_cons_self)
  have halbum := hread _ (List.mem_cons_of_mem _ List.mem_cons_self)
  exact halbum.decodes _ _ ⟨"", rfl⟩ rfl

end StoreClient
