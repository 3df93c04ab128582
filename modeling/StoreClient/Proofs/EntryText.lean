-- The texts of types and entries: whatever is written is read back, as long as the types go
-- no deeper than the text may; and types that were read from a text go no deeper than that.
import StoreClient.Bundle.Decoding
import StoreClient.Bundle.Encoding
import StoreClient.Proofs.Decoders

namespace StoreClient

open Decode

/-! ## Choices and rules -/

theorem Kind.decode_toJson (o : Origin) (k : Kind) :
    Kind.decode o (Draft.ofJson k.toJson) = .ok k := by
  cases o <;> cases k <;> rfl

theorem Cardinality.decode_toJson (o : Origin) (c : Cardinality) :
    Cardinality.decode o (Draft.ofJson c.toJson) = .ok c := by
  cases o <;> cases c <;> rfl

theorem Codec.decode_toJson (levels : Nat) (c : Codec) :
    Codec.decode (.text (levels + 1)) (Draft.ofJson c.toJson) = .ok c := by
  cases c with
  | temporal => rfl
  | nullableTemporal => rfl
  | emptyAsNull s => cases s <;> rfl
  | arrayPatch op => cases op <;> rfl

theorem Codec.optional_decode_toJson (levels : Nat) (c : Option Codec) :
    optional Codec.decode (.text (levels + 1)) (Draft.ofJson (orNull Codec.toJson c)) = .ok c := by
  cases c with
  | none => rfl
  | some c =>
    have hc := Codec.decode_toJson levels c
    cases c <;> exact map_ok_iff.mpr ⟨_, hc, rfl⟩

theorem optional_text (o : Origin) (s : Option String) :
    optional text o (Draft.ofJson (orNull .text s)) = .ok s := by
  cases s <;> rfl

/-! ## Types -/

namespace ValueType

/-- How many objects and arrays the JSON form of a type has inside one another. -/
def levels : ValueType → Nat
  | literals _ => 2
  | list inner | nullable inner | clearable inner => inner.levels + 1
  | _ => 1

theorem texts_ok (values : List String) :
    Decode.list Decode.text .buffered (Draft.ofJson (.array (values.map .text))) = .ok values :=
  Decode.list_ok Json.text rfl fun _ _ => rfl

/-- A form with the form of another type in its one field. -/
theorem map_field_ok {inner : ValueType} {d : Draft} (owner field : String)
    (f : ValueType → ValueType) (h : ofDraft d = .ok inner) :
    (Content.field owner field (fun p : Part => p.2) (.members [(field, d, ofDraft d)])).map f =
      .ok (f inner) := by
  rw [Content.field_of_single]
  exact map_ok_iff.mpr ⟨inner, h, rfl⟩

theorem ofDraft_toJson (t : ValueType) : ofDraft (Draft.ofJson t.toJson) = .ok t := by
  induction t with
  | flavored f => cases f <;> rfl
  | literals values =>
    change (Content.field _ "values" _ (.members [("values", _)])).map literals = _
    rw [Content.field_of_single, texts_ok]
    rfl
  | list item ih => exact map_field_ok "TypeRef::List" "item" list ih
  | nullable inner ih => exact map_field_ok "TypeRef::Nullable" "inner" nullable ih
  | clearable inner ih => exact map_field_ok "TypeRef::Clearable" "inner" clearable ih
  | _ => rfl

/-! ### Depth -/

theorem readItems_texts (depth : Nat) (values : List String) :
    ∃ js, Draft.readItems depth (Draft.ofJson.ofItems (values.map .text)) = .ok js := by
  induction values with
  | nil => exact ⟨[], rfl⟩
  | cons s values ih =>
    obtain ⟨js, hjs⟩ := ih
    refine ⟨.text s :: js, ?_⟩
    simp only [List.map_cons, Draft.ofJson.ofItems, Draft.ofJson, Draft.readItems, Draft.read, hjs]

/-- An object of a text and one other member reads if the other member does. -/
theorem read_pair {depth : Nat} {d : Draft} {j : Json} (tag v field : String)
    (h : d.read depth = .ok j) : ∃ j,
      (Draft.object [(.text tag, .text v), (.text field, d)] none).read (depth + 1) = .ok j := by
  simp [Draft.read, Draft.readMembers, h]

/-- Within its levels the form of a type reads as a JSON value. -/
theorem read_toJson {t : ValueType} {depth : Nat} (h : t.levels ≤ depth) :
    ∃ j, (Draft.ofJson t.toJson).read depth = .ok j := by
  have nested {inner : ValueType} {depth : Nat} (field : String)
      (ih : ∀ {depth}, inner.levels ≤ depth → ∃ j, (Draft.ofJson inner.toJson).read depth = .ok j)
      (h : inner.levels + 1 ≤ depth) (v : String) : ∃ j, (Draft.object
        [(.text "kind", .text v), (.text field, Draft.ofJson inner.toJson)] none).read depth =
          .ok j := by
    obtain ⟨depth, rfl⟩ : ∃ n, depth = n + 1 := ⟨depth - 1, by omega⟩
    obtain ⟨j, hj⟩ := ih (Nat.le_of_succ_le_succ h)
    exact read_pair _ _ _ hj
  induction t generalizing depth with
  | literals values =>
    simp only [levels] at h
    obtain ⟨depth, rfl⟩ : ∃ n, depth = n + 2 := ⟨depth - 2, by omega⟩
    obtain ⟨js, hjs⟩ := readItems_texts depth values
    refine read_pair _ _ _ (j := .array js) ?_
    simp only [Draft.ofJson, Draft.read, hjs]
  | list item ih => exact nested "item" ih h _
  | nullable inner ih => exact nested "inner" ih h _
  | clearable inner ih => exact nested "inner" ih h _
  | _ =>
    simp only [levels] at h
    obtain ⟨depth, rfl⟩ : ∃ n, depth = n + 1 := ⟨depth - 1, by omega⟩
    exact ⟨_, rfl⟩

/-- The variant of a form with one field is found wherever the form reads. -/
theorem variantIn_pair {depth : Nat} {d : Draft} {v field : String}
    (hv : ∀ o, tagged.variantOf o (.text v) = .ok v) (hfield : field ≠ "kind")
    (h : ∃ j, (Draft.object [(.text "kind", .text v), (.text field, d)] none).read depth = .ok j) :
    ∃ v', tagged.variantIn (.text depth)
      (.object [(.text "kind", .text v), (.text field, d)] none) = .ok v' := by
  obtain ⟨j, hj⟩ := h
  cases depth with
  | zero => cases hj
  | succ depth =>
    have hd : Tagged.readable (.text depth) d = .ok () := by
      cases hread : d.read depth with
      | ok _ => simp only [Tagged.readable, hread]
      | error _ => simp [Draft.read, Draft.readMembers, hread] at hj
    exact ⟨v, Tagged.variantIn_object rfl (hv _) hfield hd⟩

/-- A type is read back within its levels. -/
theorem decode_toJson {t : ValueType} {depth : Nat} (h : t.levels ≤ depth) :
    decode (.text depth) (Draft.ofJson t.toJson) = .ok t := by
  -- The outermost tag is looked for while the text is read, so the rest must be readable.
  have hread := read_toJson h
  have hvariant : ∃ v, tagged.variantIn (.text depth) (Draft.ofJson t.toJson) = .ok v := by
    cases t with
    | flavored f => exact variantIn_pair (fun _ => rfl) (by decide) hread
    | literals values => exact variantIn_pair (fun _ => rfl) (by decide) hread
    | list item => exact variantIn_pair (fun _ => rfl) (by decide) hread
    | nullable inner => exact variantIn_pair (fun _ => rfl) (by decide) hread
    | clearable inner => exact variantIn_pair (fun _ => rfl) (by decide) hread
    | _ =>
      cases depth with
      | zero => cases h
      | succ depth => exact ⟨_, rfl⟩
  obtain ⟨v, hv⟩ := hvariant
  exact bind_ok_iff.mpr ⟨v, hv, ofDraft_toJson t⟩

/-- The depth of a part of a form: the type, if it is one, goes no deeper than the draft. -/
def Part.Deep (depth : Nat) (p : Part) : Prop :=
  p.1.levels ≤ depth ∧ ∀ t, p.2 = .ok t → t.levels ≤ p.1.levels

theorem levels_of_ofVariant {v : String} {content : Content Part} {depth : Nat} {t : ValueType}
    (hparts : ∀ p ∈ content.parts, Part.Deep depth p) (h : ofVariant v content = .ok t) :
    t.levels ≤ depth + 1 := by
  have nested {owner field : String} {f : ValueType → ValueType}
      (hf : ∀ t, (f t).levels = t.levels + 1)
      (h : (content.field owner field fun p => p.2).map f = .ok t) : t.levels ≤ depth + 1 := by
    obtain ⟨inner, hinner, rfl⟩ := map_ok_iff.mp h
    obtain ⟨p, hp, hpt⟩ := Content.mem_of_field hinner
    obtain ⟨hle, hdeep⟩ := hparts p hp
    have := hdeep inner hpt
    rw [hf]
    omega
  unfold ofVariant at h
  dsimp only at h
  split at h
  case h_10 =>
    obtain ⟨flavor, -, rfl⟩ := map_ok_iff.mp h
    exact Nat.succ_le_succ (Nat.zero_le depth)
  case h_11 =>
    obtain ⟨values, hvalues, rfl⟩ := map_ok_iff.mp h
    obtain ⟨p, hp, hlist⟩ := Content.mem_of_field hvalues
    have hle := (hparts p hp).1
    have := levels_of_list hlist
    simp only [levels]
    omega
  case h_12 | h_13 | h_14 => exact nested (fun _ => rfl) h
  all_goals
    split at h
    · cases h
      exact Nat.succ_le_succ (Nat.zero_le depth)
    · cases h

mutual

/-- The type of a draft goes no deeper than the draft. -/
theorem levels_of_ofDraft : ∀ (d : Draft) (t : ValueType), ofDraft d = .ok t → t.levels ≤ d.levels
  | .object members ending, t, h => by
    obtain ⟨v, -, h⟩ := bind_ok_iff.mp h
    refine levels_of_ofVariant ?_ h
    intro p hp
    obtain ⟨k, hm⟩ := Content.mem_of_parts_beside hp
    exact deep_of_partsOfMembers members (k, p) hm
  | .array items ending, t, h => by
    obtain ⟨v, -, h⟩ := bind_ok_iff.mp h
    refine levels_of_ofVariant ?_ h
    intro p hp
    exact deep_of_partsOfItems items p (List.mem_of_mem_drop hp)
  | .null, _, h | .bool _, _, h | .number _, _, h | .text _, _, h
  | .flawedText _ _, _, h | .flawedWord _ _, _, h | .absent _, _, h => by cases h

theorem deep_of_partsOfItems : ∀ (items : List Draft),
    ∀ p ∈ partsOfItems items, Part.Deep (Draft.levelsItems items) p
  | [], p, hp => by cases hp
  | d :: rest, p, hp => by
    rcases List.mem_cons.mp hp with rfl | hp
    · exact ⟨Nat.le_max_left _ _, levels_of_ofDraft d⟩
    · obtain ⟨hle, hdeep⟩ := deep_of_partsOfItems rest p hp
      exact ⟨Nat.le_trans hle (Nat.le_max_right _ _), hdeep⟩

theorem deep_of_partsOfMembers : ∀ (members : List (Draft × Draft)),
    ∀ m ∈ partsOfMembers members, Part.Deep (Draft.levelsMembers members) m.2
  | [], m, hm => by cases hm
  | (k, d) :: rest, m, hm => by
    rcases List.mem_cons.mp hm with rfl | hm
    · exact ⟨Nat.le_max_left _ _, levels_of_ofDraft d⟩
    · obtain ⟨hle, hdeep⟩ := deep_of_partsOfMembers rest m hm
      exact ⟨Nat.le_trans hle (Nat.le_max_right _ _), hdeep⟩

end

/-- A type that some text reads as goes no deeper than the text may. -/
theorem levels_of_decode {d : Draft} {depth : Nat} {t : ValueType}
    (h : decode (.text depth) d = .ok t) : t.levels ≤ depth := by
  obtain ⟨v, hv, h⟩ := bind_ok_iff.mp h
  exact Nat.le_trans (levels_of_ofDraft d t h) (Tagged.levels_of_variantIn hv)

end ValueType

/-! ## Entries -/

/-- The types of an entry go no deeper than some levels. -/
def ReadField.Within (depth : Nat) (f : ReadField) : Prop :=
  f.modelType.levels ≤ depth ∧ f.wireType.levels ≤ depth

def WriteField.Within (depth : Nat) (f : WriteField) : Prop :=
  f.modelType.levels ≤ depth ∧ f.wireType.levels ≤ depth

/-- Every part of a field read. -/
def ReadField.whole (f : ReadField) : ReadField.Partial :=
  ⟨some f.name, some f.kind, some f.modelType, some f.wireType, some f.parse, some f.serialize,
    some f.doc⟩

def WriteField.whole (f : WriteField) : WriteField.Partial :=
  ⟨some f.name, some f.wireKey, some f.kind, some f.modelType, some f.wireType, some f.isOptional,
    some f.serialize, some f.doc⟩

def Expansion.whole (e : Expansion) : Expansion.Partial :=
  ⟨some e.field, some e.collection, some e.typeName, some e.cardinality⟩

theorem ReadField.decode_toJson {f : ReadField} {depth : Nat} (h : f.Within (depth + 1)) :
    ReadField.decode (.text (depth + 2)) (Draft.ofJson f.toJson) = .ok f := by
  have hnamed : Record.Named ReadField.record.slots :=
    ⟨by decide, by simp [ReadField.record, slot]⟩
  refine Record.decode_of_fills _ hnamed (s := f.whole) ?_ rfl
  refine .cons rfl (slot_fill_iff.mpr ⟨f.name, rfl, rfl⟩) ?_
  refine .cons rfl (slot_fill_iff.mpr ⟨f.kind, Kind.decode_toJson _ _, rfl⟩) ?_
  refine .cons rfl (slot_fill_iff.mpr ⟨f.modelType, ValueType.decode_toJson h.1, rfl⟩) ?_
  refine .cons rfl (slot_fill_iff.mpr ⟨f.wireType, ValueType.decode_toJson h.2, rfl⟩) ?_
  refine .cons rfl (slot_fill_iff.mpr ⟨f.parse, Codec.optional_decode_toJson _ _, rfl⟩) ?_
  refine .cons rfl (slot_fill_iff.mpr ⟨f.serialize, Codec.optional_decode_toJson _ _, rfl⟩) ?_
  refine .cons rfl (slot_fill_iff.mpr ⟨f.doc, optional_text _ _, rfl⟩) ?_
  exact .nil f.whole

theorem WriteField.decode_toJson {f : WriteField} {depth : Nat} (h : f.Within (depth + 1)) :
    WriteField.decode (.text (depth + 2)) (Draft.ofJson f.toJson) = .ok f := by
  have hnamed : Record.Named WriteField.record.slots :=
    ⟨by decide, by simp [WriteField.record, slot]⟩
  refine Record.decode_of_fills _ hnamed (s := f.whole) ?_ rfl
  refine .cons rfl (slot_fill_iff.mpr ⟨f.name, rfl, rfl⟩) ?_
  refine .cons rfl (slot_fill_iff.mpr ⟨f.wireKey, rfl, rfl⟩) ?_
  refine .cons rfl (slot_fill_iff.mpr ⟨f.kind, Kind.decode_toJson _ _, rfl⟩) ?_
  refine .cons rfl (slot_fill_iff.mpr ⟨f.modelType, ValueType.decode_toJson h.1, rfl⟩) ?_
  refine .cons rfl (slot_fill_iff.mpr ⟨f.wireType, ValueType.decode_toJson h.2, rfl⟩) ?_
  refine .cons rfl (slot_fill_iff.mpr ⟨f.isOptional, rfl, rfl⟩) ?_
  refine .cons rfl (slot_fill_iff.mpr ⟨f.serialize, Codec.optional_decode_toJson _ _, rfl⟩) ?_
  refine .cons rfl (slot_fill_iff.mpr ⟨f.doc, optional_text _ _, rfl⟩) ?_
  exact .nil f.whole

theorem Expansion.decode_toJson (depth : Nat) (e : Expansion) :
    Expansion.decode (.text (depth + 1)) (Draft.ofJson e.toJson) = .ok e := by
  have hnamed : Record.Named Expansion.record.slots :=
    ⟨by decide, by simp [Expansion.record, slot]⟩
  refine Record.decode_of_fills _ hnamed (s := e.whole) ?_ rfl
  refine .cons rfl (slot_fill_iff.mpr ⟨e.field, rfl, rfl⟩) ?_
  refine .cons rfl (slot_fill_iff.mpr ⟨e.collection, rfl, rfl⟩) ?_
  refine .cons rfl (slot_fill_iff.mpr ⟨e.typeName, rfl, rfl⟩) ?_
  refine .cons rfl (slot_fill_iff.mpr ⟨e.cardinality, Cardinality.decode_toJson _ _, rfl⟩) ?_
  exact .nil e.whole

/-- What holds of a value holds of the value of the slot it fills. -/
theorem forall_mem_some {α : Type} {P : α → Prop} {a : α} (h : P a) : ∀ b ∈ some a, P b := by
  rintro b ⟨⟩
  exact h

def ReadField.Partial.Within (depth : Nat) (s : ReadField.Partial) : Prop :=
  (∀ t ∈ s.modelType, t.levels ≤ depth) ∧ ∀ t ∈ s.wireType, t.levels ≤ depth

def WriteField.Partial.Within (depth : Nat) (s : WriteField.Partial) : Prop :=
  (∀ t ∈ s.modelType, t.levels ≤ depth) ∧ ∀ t ∈ s.wireType, t.levels ≤ depth

theorem ReadField.Partial.within_of_reaches {depth : Nat} {s : ReadField.Partial}
    (h : ReadField.record.Reaches (.text depth) s) : s.Within depth := by
  induction h with
  | start => exact ⟨by simp [ReadField.record], by simp [ReadField.record]⟩
  | fill _ mem fill ih =>
    simp only [ReadField.record, List.mem_cons, List.not_mem_nil, or_false] at mem
    rcases mem with rfl | rfl | rfl | rfl | rfl | rfl | rfl
    all_goals obtain ⟨b, hb, rfl⟩ := slot_fill_iff.mp fill
    -- Only the slots of the two types change what is asked.
    case inr.inr.inl => exact ⟨forall_mem_some (ValueType.levels_of_decode hb), ih.2⟩
    case inr.inr.inr.inl => exact ⟨ih.1, forall_mem_some (ValueType.levels_of_decode hb)⟩
    all_goals exact ih

theorem WriteField.Partial.within_of_reaches {depth : Nat} {s : WriteField.Partial}
    (h : WriteField.record.Reaches (.text depth) s) : s.Within depth := by
  induction h with
  | start => exact ⟨by simp [WriteField.record], by simp [WriteField.record]⟩
  | fill _ mem fill ih =>
    simp only [WriteField.record, List.mem_cons, List.not_mem_nil, or_false] at mem
    rcases mem with rfl | rfl | rfl | rfl | rfl | rfl | rfl | rfl
    all_goals obtain ⟨b, hb, rfl⟩ := slot_fill_iff.mp fill
    case inr.inr.inr.inl => exact ⟨forall_mem_some (ValueType.levels_of_decode hb), ih.2⟩
    case inr.inr.inr.inr.inl => exact ⟨ih.1, forall_mem_some (ValueType.levels_of_decode hb)⟩
    all_goals exact ih

/-- The types of a field read from some text are as deep as the rest of the text may be. -/
theorem ReadField.within_of_decode {d : Draft} {depth : Nat} {f : ReadField}
    (h : ReadField.decode (.text (depth + 1)) d = .ok f) : f.Within depth := by
  obtain ⟨o, s, ho, hs, hf⟩ := Record.reaches_of_decode h
  cases ho
  obtain ⟨hmodel, hwire⟩ := ReadField.Partial.within_of_reaches hs
  simp only [ReadField.record, bind, Option.bind_eq_some_iff] at hf
  obtain ⟨_, -, _, -, t, ht, u, hu, hf⟩ := hf
  cases hf
  exact ⟨hmodel t ht, hwire u hu⟩

theorem WriteField.within_of_decode {d : Draft} {depth : Nat} {f : WriteField}
    (h : WriteField.decode (.text (depth + 1)) d = .ok f) : f.Within depth := by
  obtain ⟨o, s, ho, hs, hf⟩ := Record.reaches_of_decode h
  cases ho
  obtain ⟨hmodel, hwire⟩ := WriteField.Partial.within_of_reaches hs
  simp only [WriteField.record, bind, Option.bind_eq_some_iff] at hf
  obtain ⟨_, -, _, -, _, -, t, ht, u, hu, _, -, hf⟩ := hf
  cases hf
  exact ⟨hmodel t ht, hwire u hu⟩

end StoreClient
