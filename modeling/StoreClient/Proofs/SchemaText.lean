-- The law of the kept text: a schema that a document compiles to, or that some text reads
-- as, is read back from its own text. Only types can go deep, and they go as deep in the
-- text of a schema as in any text that it was read from.
import StoreClient.Proofs.Compilation
import StoreClient.Proofs.EntryText
import StoreClient.Proofs.JsonText

namespace StoreClient

open Decode

/-! ## Bundles -/

namespace Bundle

/-- All types of a bundle go no deeper than some levels. -/
structure Within (depth : Nat) (b : Bundle) : Prop where
  read_within : ∀ f ∈ b.read, f.Within depth
  create_within : ∀ f ∈ b.create, f.Within depth
  update_within : ∀ f ∈ b.update, f.Within depth

def whole (b : Bundle) : Bundle.Partial :=
  ⟨some b.name, some b.id, some b.typeName, some b.pluralTypeName, some b.read, some b.create,
    some b.update, some b.expand⟩

theorem decode_toJson {b : Bundle} {depth : Nat} (h : b.Within (depth + 1)) :
    Bundle.decode (.text (depth + 4)) (Draft.ofJson b.toJson) = .ok b := by
  have hnamed : Record.Named Bundle.record.slots := ⟨by decide, by simp [Bundle.record, slot]⟩
  have hread := list_ok ReadField.toJson (o := .text (depth + 3)) rfl
    fun f hf => ReadField.decode_toJson (h.read_within f hf)
  have hcreate := list_ok WriteField.toJson (o := .text (depth + 3)) rfl
    fun f hf => WriteField.decode_toJson (h.create_within f hf)
  have hupdate := list_ok WriteField.toJson (o := .text (depth + 3)) rfl
    fun f hf => WriteField.decode_toJson (h.update_within f hf)
  have hexpand := list_ok Expansion.toJson (o := .text (depth + 3)) rfl
    fun e (_ : e ∈ b.expand) => Expansion.decode_toJson (depth + 1) e
  refine Record.decode_of_fills _ hnamed (s := b.whole) ?_ rfl
  refine .cons rfl (slot_fill_iff.mpr ⟨b.name, rfl, rfl⟩) ?_
  refine .cons rfl (slot_fill_iff.mpr ⟨b.id, optional_text _ _, rfl⟩) ?_
  refine .cons rfl (slot_fill_iff.mpr ⟨b.typeName, rfl, rfl⟩) ?_
  refine .cons rfl (slot_fill_iff.mpr ⟨b.pluralTypeName, rfl, rfl⟩) ?_
  refine .cons rfl (slot_fill_iff.mpr ⟨b.read, hread, rfl⟩) ?_
  refine .cons rfl (slot_fill_iff.mpr ⟨b.create, hcreate, rfl⟩) ?_
  refine .cons rfl (slot_fill_iff.mpr ⟨b.update, hupdate, rfl⟩) ?_
  refine .cons rfl (slot_fill_iff.mpr ⟨b.expand, hexpand, rfl⟩) ?_
  exact .nil b.whole

structure Partial.Within (depth : Nat) (s : Bundle.Partial) : Prop where
  read_within : ∀ fs ∈ s.read, ∀ f ∈ fs, f.Within depth
  create_within : ∀ fs ∈ s.create, ∀ f ∈ fs, f.Within depth
  update_within : ∀ fs ∈ s.update, ∀ f ∈ fs, f.Within depth

theorem reads_within {d : Draft} {depth : Nat} {fs : List ReadField}
    (h : list ReadField.decode (.text (depth + 2)) d = .ok fs) : ∀ f ∈ fs, f.Within depth := by
  obtain ⟨inner, ho, hall⟩ := mem_of_list h
  cases ho
  intro f hf
  obtain ⟨_, hd⟩ := hall f hf
  exact ReadField.within_of_decode hd

theorem writes_within {d : Draft} {depth : Nat} {fs : List WriteField}
    (h : list WriteField.decode (.text (depth + 2)) d = .ok fs) : ∀ f ∈ fs, f.Within depth := by
  obtain ⟨inner, ho, hall⟩ := mem_of_list h
  cases ho
  intro f hf
  obtain ⟨_, hd⟩ := hall f hf
  exact WriteField.within_of_decode hd

theorem Partial.within_of_reaches {depth : Nat} {s : Bundle.Partial}
    (h : Bundle.record.Reaches (.text (depth + 2)) s) : s.Within depth := by
  induction h with
  | start => exact ⟨by simp [Bundle.record], by simp [Bundle.record], by simp [Bundle.record]⟩
  | fill _ mem fill ih =>
    obtain ⟨hread, hcreate, hupdate⟩ := ih
    simp only [Bundle.record, List.mem_cons, List.not_mem_nil, or_false] at mem
    rcases mem with rfl | rfl | rfl | rfl | rfl | rfl | rfl | rfl
    all_goals obtain ⟨b, hb, rfl⟩ := slot_fill_iff.mp fill
    case inr.inr.inr.inr.inl => exact ⟨forall_mem_some (reads_within hb), hcreate, hupdate⟩
    case inr.inr.inr.inr.inr.inl => exact ⟨hread, forall_mem_some (writes_within hb), hupdate⟩
    case inr.inr.inr.inr.inr.inr.inl =>
      exact ⟨hread, hcreate, forall_mem_some (writes_within hb)⟩
    all_goals exact ⟨hread, hcreate, hupdate⟩

theorem within_of_decode {d : Draft} {depth : Nat} {b : Bundle}
    (h : Bundle.decode (.text (depth + 3)) d = .ok b) : b.Within depth := by
  obtain ⟨o, s, ho, hs, hb⟩ := Record.reaches_of_decode h
  cases ho
  obtain ⟨hread, hcreate, hupdate⟩ := Partial.within_of_reaches hs
  simp only [Bundle.record, bind, Option.bind_eq_some_iff] at hb
  obtain ⟨_, -, _, -, _, -, _, hr, _, hc, _, hu, _, -, hb⟩ := hb
  cases hb
  exact ⟨hread _ hr, hcreate _ hc, hupdate _ hu⟩

end Bundle

/-! ## Schemas -/

namespace Schema

/-- The types of a schema fit into a text: five levels of it hold what stands around a type. -/
def Fits (s : Schema) : Prop := ∀ b ∈ s.bundles, b.Within (Json.deepest - 5)

theorem decode_toJson {s : Schema} (h : s.Fits) :
    Schema.decode (.text Json.deepest) (Draft.ofJson s.toJson) = .ok s := by
  have hnamed : Record.Named Schema.record.slots := ⟨by decide, by simp [Schema.record, slot]⟩
  have hbundles := list_ok Bundle.toJson (o := .text (Json.deepest - 1)) rfl
    fun b hb => Bundle.decode_toJson (h b hb)
  refine Record.decode_of_fills _ hnamed (s := some s.bundles) ?_ rfl
  refine .cons rfl (slot_fill_iff.mpr ⟨s.bundles, hbundles, rfl⟩) ?_
  exact .nil _

theorem fits_of_decode {d : Draft} {s : Schema}
    (h : Schema.decode (.text Json.deepest) d = .ok s) : s.Fits := by
  obtain ⟨o, bundles?, ho, hs, hs'⟩ := Record.reaches_of_decode h
  cases ho
  have hfits : ∀ bs ∈ bundles?, ∀ b ∈ bs, b.Within (Json.deepest - 5) := by
    clear hs'
    induction hs with
    | start => simp [Schema.record]
    | fill _ mem fill ih =>
      obtain rfl := List.mem_singleton.mp mem
      obtain ⟨bs, hbs, rfl⟩ := slot_fill_iff.mp fill
      refine forall_mem_some ?_
      obtain ⟨inner, ho, hall⟩ := mem_of_list hbs
      cases ho
      intro b hb
      obtain ⟨_, hd⟩ := hall b hb
      exact Bundle.within_of_decode hd
  obtain ⟨bs, hbs, rfl⟩ := Option.map_eq_some_iff.mp hs'
  exact hfits bs hbs

theorem fits_of_ofText {text : String} {s : Schema} (h : Schema.ofText text = .ok s) :
    s.Fits := by
  obtain ⟨a, ha, h⟩ := bind_ok_iff.mp h
  split at h
  · cases h
    exact fits_of_decode ha
  · cases h

end Schema

/-! ### Compiled schemas -/

theorem ValueType.levels_nullableIf_le {t : ValueType} {n : Nat} (flag : Bool)
    (h : t.levels ≤ n) : (t.nullableIf flag).levels ≤ n + 1 := by
  cases flag
  · exact Nat.le_succ_of_le h
  · exact Nat.succ_le_succ h

theorem Cardinality.levels_apply_le {t : ValueType} {n : Nat} (c : Cardinality)
    (h : t.levels ≤ n) : (c.apply t).levels ≤ n + 1 := by
  cases c
  · exact Nat.le_succ_of_le h
  · exact Nat.succ_le_succ h

namespace Field

variable {policy : EmptyListPolicy} {f : Field}

/-- The deepest types of fields are lists of literals, and lists of files to be cleared. -/
theorem levels_le_of_readType? {t : ValueType} (h : f.readType? policy = some t) :
    t.levels ≤ 3 := by
  unfold readType? at h
  split at h
  all_goals cases h
  case h_2 | h_3 | h_4 | h_6 | h_7 | h_8 =>
    exact ValueType.levels_nullableIf_le _ (by simp [ValueType.levels])
  case h_12 | h_13 => exact Cardinality.levels_apply_le _ (by simp [ValueType.levels])
  all_goals simp [ValueType.levels]

theorem levels_wireType_le (f : Field) : f.wireType.levels ≤ 3 := by
  unfold wireType
  split
  case h_9 | h_12 | h_13 => exact Cardinality.levels_apply_le _ (by simp [ValueType.levels])
  all_goals simp [ValueType.levels]

theorem within_of_readField? {r : ReadField} (h : f.readField? policy = some r) :
    r.Within 3 := by
  obtain ⟨t, ht, rfl⟩ := Option.map_eq_some_iff.mp h
  exact ⟨levels_le_of_readType? ht, f.levels_wireType_le⟩

theorem within_of_createField? {w : WriteField} (h : f.createField? policy = some w) :
    w.Within 3 := by
  unfold createField? at h
  split at h
  · cases h
  · rename_i c _ _
    cases h
    have hle : (c.apply .binary).levels ≤ 3 := c.levels_apply_le (by simp [ValueType.levels])
    exact ⟨hle, hle⟩
  · cases h
    simp [WriteField.Within, written, ValueType.levels]
  · obtain ⟨t, ht, rfl⟩ := Option.map_eq_some_iff.mp h
    exact ⟨levels_le_of_readType? ht, f.levels_wireType_le⟩

theorem within_of_mem_updateFields {w : WriteField} (h : w ∈ f.updateFields policy) :
    w.Within 3 := by
  unfold updateFields at h
  split at h
  · cases h
  · rename_i c _ _
    have hle : (ValueType.clearable (c.apply .binary)).levels ≤ 3 :=
      Nat.succ_le_succ (c.levels_apply_le (Nat.le_refl 1))
    rcases List.mem_cons.mp h with rfl | hpatch
    · exact ⟨hle, hle⟩
    · cases c with
      | single => cases hpatch
      | multiple =>
        obtain ⟨op, -, rfl⟩ := List.mem_map.mp hpatch
        cases op <;> simp [WriteField.Within, companion, ValueType.levels]
  · exact within_of_createField? (Option.mem_toList.mp h)

end Field

theorem Collection.within_shapes (policy : EmptyListPolicy) (all : List Collection)
    (c : Collection) : (c.shapes policy all).Within 3 where
  read_within r hr := by
    obtain ⟨f, -, hf⟩ := List.mem_filterMap.mp hr
    exact Field.within_of_readField? hf
  create_within w hw := by
    obtain ⟨f, -, hf⟩ := List.mem_filterMap.mp hw
    exact Field.within_of_createField? hf
  update_within w hw := by
    obtain ⟨f, -, hf⟩ := List.mem_flatMap.mp hw
    exact Field.within_of_mem_updateFields hf

theorem ReadField.Within.mono {f : ReadField} {n m : Nat} (h : f.Within n) (hle : n ≤ m) :
    f.Within m :=
  ⟨Nat.le_trans h.1 hle, Nat.le_trans h.2 hle⟩

theorem WriteField.Within.mono {f : WriteField} {n m : Nat} (h : f.Within n) (hle : n ≤ m) :
    f.Within m :=
  ⟨Nat.le_trans h.1 hle, Nat.le_trans h.2 hle⟩

theorem Bundle.Within.mono {b : Bundle} {n m : Nat} (h : b.Within n) (hle : n ≤ m) :
    b.Within m where
  read_within f hf := (h.read_within f hf).mono hle
  create_within f hf := (h.create_within f hf).mono hle
  update_within f hf := (h.update_within f hf).mono hle

theorem Schema.fits_of_compile {policy : EmptyListPolicy} {d : Document} {s : Schema}
    (h : d.compile policy = .ok s) : s.Fits := by
  obtain ⟨cs, -, -, -, -, rfl⟩ := (d.compile_ok_iff policy s).mp h
  intro b hb
  obtain ⟨c, -, rfl⟩ := List.mem_map.mp hb
  exact (c.within_shapes policy cs).mono (by decide)

/-! ### No numbers -/

open Json (Numberless)

@[simp]
theorem orNull_numberless {α : Type} {toJson : α → Json} (h : ∀ a, (toJson a).Numberless)
    (a : Option α) : (orNull toJson a).Numberless := by
  cases a
  · exact .null
  · exact h _

@[simp]
theorem Json.Numberless.of_map {α : Type} {toJson : α → Json}
    (h : ∀ a, (toJson a).Numberless) (as : List α) : (Json.array (as.map toJson)).Numberless := by
  refine .array fun j hj => ?_
  obtain ⟨a, -, rfl⟩ := List.mem_map.mp hj
  exact h a

@[simp]
theorem Codec.toJson_numberless (c : Codec) : c.toJson.Numberless := by
  cases c with
  | emptyAsNull s => exact .object (by simp [Sentinel.toJson])
  | arrayPatch p => exact .object (by simp [Patch.toJson])
  | _ => exact .object (by simp)

@[simp]
theorem ValueType.toJson_numberless (t : ValueType) : t.toJson.Numberless := by
  induction t with
  | flavored f => exact .object (by simp [Flavor.toJson])
  | literals values => exact .object (by simp)
  | list _ ih | nullable _ ih | clearable _ ih => exact .object (by simp [ih])
  | _ => exact .object (by simp)

@[simp]
theorem ReadField.toJson_numberless (f : ReadField) : f.toJson.Numberless :=
  .object (by simp [Kind.toJson])

@[simp]
theorem WriteField.toJson_numberless (f : WriteField) : f.toJson.Numberless :=
  .object (by simp [Kind.toJson])

@[simp]
theorem Expansion.toJson_numberless (e : Expansion) : e.toJson.Numberless :=
  .object (by simp [Cardinality.toJson])

@[simp]
theorem Bundle.toJson_numberless (b : Bundle) : b.toJson.Numberless :=
  .object (by simp)

theorem Schema.toJson_numberless (s : Schema) : s.toJson.Numberless :=
  .object (by simp)

/-! ## The law of the text of a schema -/

theorem Schema.ofText_text {s : Schema} (h : s.Fits) : Schema.ofText s.text = .ok s := by
  have hdraft : Scan.draft s.text.toList = (Draft.ofJson s.toJson, some []) :=
    s.toJson_numberless.draft_prettyText
  have hdecode := decode_toJson h
  simp only [Schema.ofText, Decode.ofText, hdraft, hdecode, bind, Except.bind]
  rfl

/-- A schema that a document compiles to, or that some text reads as, is read back from its
text; so printing it, reading it and printing it again gives the same text. -/
theorem a_schema_reads_back_from_its_text (s : Schema)
    (h : (∃ policy d, Document.compile policy d = .ok s) ∨ ∃ text, Schema.ofText text = .ok s) :
    Schema.ofText s.text = .ok s ∧ (Schema.ofText s.text).map Schema.text = .ok s.text := by
  -- Either history bounds the depth of the types, and nothing else can fail to read.
  have hfits : s.Fits := by
    rcases h with ⟨policy, d, hcompile⟩ | ⟨text, htext⟩
    · exact Schema.fits_of_compile hcompile
    · exact Schema.fits_of_ofText htext
  have hback := Schema.ofText_text hfits
  refine ⟨hback, ?_⟩
  rw [hback]
  rfl

/-- Signs with quotes, backslashes, control characters and characters of other scripts. -/
def signs : Document where
  collections := [
    { id := some "\\\"\x01", name := "the \"signs\"\n", singular := some "sign",
      plural := some "signs", fields := [
      .object [("name", .text "shape"), ("type", .text "select"), ("mode", .text "multiple"),
        ("options", .array [.text "\"", .text "\\u0041", .text "\t\x7f", .text "λ𝄞"])],
      .object [("name", .text "text"), ("type", .text "richText")]] }]

theorem the_signs_read_back : ∃ s, signs.compile .null = .ok s ∧
    Schema.ofText s.text = .ok s ∧ (Schema.ofText s.text).map Schema.text = .ok s.text :=
  ⟨_, rfl, a_schema_reads_back_from_its_text _ (.inl ⟨.null, signs, rfl⟩)⟩

end StoreClient
