-- The law of published documents: a value that is valid against the published schema of documents
-- is read, unless a collection has properties. The schema does not know that properties go for
-- fields, so it says neither that they are a list nor that there are no fields beside them.
import Mathlib.Data.List.Pairwise
import StoreClient.Collection.Document
import StoreClient.JsonSchema.Document
import StoreClient.Proofs.AcceptedValues
import StoreClient.Proofs.KeyedValues
import StoreClient.Proofs.Members
import StoreClient.Proofs.PublishedBundles

namespace StoreClient

/-! ## Members -/

/-- A member that must be there, and that must be of some form if it is. -/
theorem isSome_and_iff {β γ : Type} {o : Option γ} {form : β → γ} {p : β → Prop} :
    o.isSome = true ∧ (∀ w, o = some w → ∃ b, w = form b ∧ p b) ↔ ∃ b, o = some (form b) ∧ p b := by
  constructor
  · rintro ⟨hthere, hform⟩
    obtain ⟨w, hw⟩ := Option.isSome_iff_exists.mp hthere
    obtain ⟨b, rfl, hb⟩ := hform w hw
    exact ⟨b, hw, hb⟩
  · rintro ⟨b, rfl, hb⟩
    exact ⟨rfl, fun w hw => ⟨b, (Option.some.inj hw).symm, hb⟩⟩

theorem isSome_and_text_iff {o : Option Json} :
    o.isSome = true ∧ (∀ w, o = some w → ∃ s, w = .text s) ↔ ∃ s, o = some (.text s) := by
  have h := @isSome_and_iff _ _ o Json.text fun _ => True
  simpa only [and_true] using h

/-! ## What is read -/

open Decode (Record)

namespace CollectionDeclaration

theorem independent_record : record.Independent where
  names_differ := by decide
  start_empty := by simp [record, Decode.slot]
  fill_ok_iff := by
    simp [record, Decode.slot_fill_ok_iff]
  filled_of_fill := by
    simp only [record, List.forall_mem_cons, Decode.slot_fill_iff]
    refine ⟨?_, ?_, ?_, ?_, ?_, nofun⟩
    all_goals
      rintro d s _ ⟨b, -, rfl⟩
      simp [Decode.slot]
  finish_of_filled := by
    simp [record, Decode.slot, Option.isSome_iff_exists]

theorem takes_iff {key : String} {value : Json} : record.Takes (key, value) ↔
    (key = "name" → ∃ s, value = .text s) ∧
    (key ∈ ["fields", "properties"] → ∃ items, value = .array items) ∧
      (key ∈ ["id", "singular", "plural"] → value = .null ∨ ∃ s, value = .text s) := by
  simp only [Record.Takes, record, List.forall_mem_cons, Decode.slot_fill_ok_iff,
    Decode.text_ok_iff, Decode.optional_text_ok_iff, Decode.list_ok_iff, Decode.any_ok]
  simp only [Decode.slot, Decode.Slot.names]
  grind

/-- Members of different keys are for one slot only if they are fields and properties. -/
theorem clash_iff {m m' : String × Json} (h : m.1 ≠ m'.1) : record.Clash m m' ↔
    m.1 = "fields" ∧ m'.1 = "properties" ∨ m.1 = "properties" ∧ m'.1 = "fields" := by
  simp [Record.Clash, record, Decode.slot, Decode.Slot.names]
  grind

variable {members : List (String × Json)}

theorem pairwise_clash_iff (h : (members.map (·.1)).Nodup) :
    members.Pairwise (fun m m' => ¬ record.Clash m m') ↔
      members.lookup "fields" = none ∨ members.lookup "properties" = none := by
  have hkeys : members.Pairwise fun m m' => m.1 ≠ m'.1 := List.pairwise_map.mp h
  rw [lookup_eq_none_iff_forall, lookup_eq_none_iff_forall]
  constructor
  · intro hpairs
    have hsymm : Std.Symm fun m m' => ¬ record.Clash m m' :=
      ⟨fun m m' hno ⟨slot, hslot, hm', hm⟩ => hno ⟨slot, hslot, hm, hm'⟩⟩
    by_contra hboth
    push Not at hboth
    obtain ⟨⟨m, hm, hfields⟩, m', hm', hproperties⟩ := hboth
    have hne : m.1 ≠ m'.1 := by simp [hfields, hproperties]
    exact hpairs.forall hm hm' (ne_of_apply_ne Prod.fst hne)
      ((clash_iff hne).mpr (Or.inl ⟨hfields, hproperties⟩))
  · intro hone
    refine hkeys.imp_of_mem fun {m m'} hm hm' hne hclash => ?_
    rcases (clash_iff hne).mp hclash with ⟨hfields, hproperties⟩ | ⟨hproperties, hfields⟩
    · exact hone.elim (fun hno => hno m hm hfields) fun hno => hno m' hm' hproperties
    · exact hone.elim (fun hno => hno m' hm' hfields) fun hno => hno m hm hproperties

/-- What a collection is read from. -/
theorem decode_object_ok_iff (h : (members.map (·.1)).Nodup) :
    (∃ c, decode .value (Draft.ofJson (.object members)) = .ok c) ↔
      (∃ s, members.lookup "name" = some (.text s)) ∧
      (∀ key ∈ ["fields", "properties"], ∀ w, members.lookup key = some w →
        ∃ items, w = .array items) ∧
      (∀ key ∈ ["id", "singular", "plural"], ∀ w, members.lookup key = some w →
        w = .null ∨ ∃ s, w = .text s) ∧
      (members.lookup "fields" = none ∨ members.lookup "properties" = none) := by
  rw [decode, Record.decode_object_ok_iff independent_record, pairwise_clash_iff h]
  have htakes : (∀ m ∈ members, record.Takes m) ↔
      (∀ w, members.lookup "name" = some w → ∃ s, w = .text s) ∧
      (∀ key ∈ ["fields", "properties"], ∀ w, members.lookup key = some w →
        ∃ items, w = .array items) ∧
      ∀ key ∈ ["id", "singular", "plural"], ∀ w, members.lookup key = some w →
        w = .null ∨ ∃ s, w = .text s := by
    simp only [Prod.forall, takes_iff, ← lookup_eq_some_iff_mem h]
    grind
  have hname : (∀ slot ∈ record.slots, slot.omission = .never →
      ∃ m ∈ members, m.1 ∈ slot.names) ↔ (members.lookup "name").isSome = true := by
    rw [Option.isSome_iff_ne_none, Ne, lookup_eq_none_iff_forall]
    simp [record, Decode.slot, Decode.Slot.names]
  rw [htakes, hname, ← isSome_and_text_iff]
  tauto

end CollectionDeclaration

namespace Document

theorem independent_record : record.Independent where
  names_differ := by decide
  start_empty := by simp [record, Decode.slot]
  fill_ok_iff := by simp [record, Decode.slot_fill_ok_iff]
  filled_of_fill := by
    simp only [record, List.forall_mem_singleton, Decode.slot_fill_iff]
    rintro d s _ ⟨cs, -, rfl⟩
    simp [Decode.slot]
  finish_of_filled := by simp [record, Decode.slot, Option.isSome_iff_exists]

/-- What a document is read from. -/
theorem decode_object_ok_iff {members : List (String × Json)} (h : (members.map (·.1)).Nodup) :
    (∃ d, decode .value (Draft.ofJson (.object members)) = .ok d) ↔
      ∃ cs, members.lookup "collections" = some (.array cs) ∧
        ∀ c ∈ cs, ∃ d, CollectionDeclaration.decode .value (Draft.ofJson c) = .ok d := by
  have hkeys : members.Pairwise fun m m' => m.1 ≠ m'.1 := List.pairwise_map.mp h
  have hclash : members.Pairwise fun m m' => ¬ record.Clash m m' := by
    refine hkeys.imp fun {m m'} hne hclash => hne ?_
    simp only [Record.Clash, record, Decode.slot, Decode.Slot.names, List.mem_singleton,
      exists_eq_left] at hclash
    exact hclash.1.trans hclash.2.symm
  have htakes : (∀ m ∈ members, record.Takes m) ↔
      ∀ w, members.lookup "collections" = some w → ∃ cs, w = .array cs ∧
        ∀ c ∈ cs, ∃ d, CollectionDeclaration.decode .value (Draft.ofJson c) = .ok d := by
    simp only [Prod.forall, Record.Takes, record, List.forall_mem_singleton,
      Decode.slot_fill_ok_iff, Decode.list_ok_iff, ← lookup_eq_some_iff_mem h]
    simp only [Decode.slot, Decode.Slot.names, List.mem_singleton]
    grind
  have hcollections : (∀ slot ∈ record.slots, slot.omission = .never →
      ∃ m ∈ members, m.1 ∈ slot.names) ↔ (members.lookup "collections").isSome = true := by
    rw [Option.isSome_iff_ne_none, Ne, lookup_eq_none_iff_forall]
    simp [record, Decode.slot, Decode.Slot.names]
  rw [decode, Record.decode_object_ok_iff independent_record, and_iff_right hclash, htakes,
    hcollections, and_comm, isSome_and_iff]

end Document

/-! ## What the schema says -/

section

open Draft7

variable {root v : Json} {members : List (String × Json)}

theorem holds_text_iff : Says root Rule.text.toJson v true ↔ ∃ s, v = .text s := by
  rw [Rule.text, holds_types_iff]
  cases v <;> simp [Json.type, ruleType]

theorem holds_textOrNull_iff :
    Says root Rule.textOrNull.toJson v true ↔ v = .null ∨ ∃ s, v = .text s := by
  rw [Rule.textOrNull, holds_types_iff]
  cases v <;> simp [Json.type, ruleType]

theorem holds_collectionRule_iff : Says root collectionRule.toJson v true ↔
    ∃ members, v = .object members ∧
      (∃ s, members.lookup "name" = some (.text s)) ∧
      (∀ w, members.lookup "fields" = some w → ∃ items, w = .array items) ∧
      ∀ key ∈ ["id", "singular", "plural"], ∀ w, members.lookup key = some w →
        w = .null ∨ ∃ s, w = .text s := by
  rw [collectionRule, says_described_iff, holds_record_iff]
  simp only [List.forall_mem_cons, says_described_iff, holds_text_iff, holds_textOrNull_iff,
    holds_listOf_iff, holds_anything, implies_true, and_true]
  simp only [← isSome_and_text_iff, Bool.false_eq_true, false_implies, true_implies, true_and]
  refine exists_congr fun members => and_congr_right fun _ => ?_
  grind

theorem valid_document_iff : Valid Document.published.toJson v ↔
    ∃ members, v = .object members ∧ ∃ cs, members.lookup "collections" = some (.array cs) ∧
      ∀ c ∈ cs, Says Document.published.toJson collectionRule.toJson c true := by
  have hcollection {c : Json} : Says Document.published.toJson (Rule.ref "CollectionSchema").toJson
      c true ↔ Says Document.published.toJson collectionRule.toJson c true :=
    says_definition_iff rfl
  have hrule : Document.published.rule = .described "Raw schema as handed over by a schema source."
      (.record [("collections", true, .listOf false (.ref "CollectionSchema"))]) := rfl
  rw [valid_published_iff, hrule, says_described_iff, holds_record_iff]
  simp only [List.forall_mem_singleton, holds_listOf_iff, hcollection, true_implies,
    isSome_and_iff]

/-! ## The law -/

/-- A valid collection is read unless its properties are in the way. -/
theorem decode_collection_iff (hkeyed : v.Keyed)
    (hvalid : Says root collectionRule.toJson v true) :
    (∃ c, CollectionDeclaration.decode .value (Draft.ofJson v) = .ok c) ↔
      ∀ p, v.get? "properties" = some p →
        v.get? "fields" = none ∧ ∃ items, p = .array items := by
  obtain ⟨members, rfl, hname, hfields, htexts⟩ := holds_collectionRule_iff.mp hvalid
  obtain ⟨hkeys, -⟩ := Json.keyed_object.mp hkeyed
  rw [CollectionDeclaration.decode_object_ok_iff hkeys, and_iff_right hname]
  simp only [Json.get?]
  constructor
  · rintro ⟨hlists, -, hone⟩ p hp
    exact ⟨hone.resolve_right (by simp [hp]), hlists "properties" (by simp) p hp⟩
  · intro hproperties
    refine ⟨fun key hkey w hw => ?_, htexts, ?_⟩
    · rcases List.mem_pair.mp hkey with rfl | rfl
      · exact hfields w hw
      · exact (hproperties w hw).2
    · cases hp : members.lookup "properties" with
      | none => exact Or.inr rfl
      | some p => exact Or.inl (hproperties p hp).1

/-- A value with each key once, as whatever is read from a text has it, that is valid against the
published schema is read as a document exactly if, of each collection that has properties, these
are a list and there are no fields beside them. -/
theorem a_valid_document_is_read_but_for_properties (hkeyed : v.Keyed)
    (hvalid : Valid Document.published.toJson v) :
    (∃ d, Decode.ofValue Document.decode v = .ok d) ↔
      ∀ cs, v.get? "collections" = some (.array cs) → ∀ c ∈ cs,
        ∀ p, c.get? "properties" = some p →
          c.get? "fields" = none ∧ ∃ items, p = .array items := by
  obtain ⟨members, rfl, cs, hcs, hvalids⟩ := valid_document_iff.mp hvalid
  obtain ⟨hkeys, hvalues⟩ := Json.keyed_object.mp hkeyed
  have hkeyeds : ∀ c ∈ cs, c.Keyed :=
    Json.keyed_array.mp (hvalues _ ((lookup_eq_some_iff_mem hkeys).mp hcs))
  rw [Decode.ofValue, Document.decode_object_ok_iff hkeys]
  simp only [Json.get?, hcs, Option.some.injEq, Json.array.injEq, exists_eq_left', forall_eq']
  exact forall₂_congr fun c hc => decode_collection_iff (hkeyeds c hc) (hvalids c hc)

end

open Draft7

/-- Drivers, with these members beside the name. -/
def driversWith (members : List (String × Json)) : Json :=
  .object [("collections", .array [.object (("name", .text "drivers") :: members)])]

theorem valid_driversWith {members : List (String × Json)}
    (hfields : ∀ w, members.lookup "fields" = some w → ∃ items, w = .array items)
    (htexts : ∀ key ∈ ["id", "singular", "plural"], members.lookup key = none) :
    Valid Document.published.toJson (driversWith members) := by
  refine valid_document_iff.mpr ⟨_, rfl, _, rfl, List.forall_mem_singleton.mpr ?_⟩
  refine holds_collectionRule_iff.mpr ⟨_, rfl, ⟨"drivers", rfl⟩, hfields, fun key hkey w hw => ?_⟩
  have hname : key ≠ "name" := by
    rintro rfl
    simp at hkey
  rw [lookup_cons_if, if_neg hname, htexts key hkey] at hw
  cases hw

theorem drivers_are_read_by_their_properties :
    Valid Document.published.toJson (driversWith [("properties", .array [.text "fullName"])]) ∧
    ∃ d, Decode.ofValue Document.decode
      (driversWith [("properties", .array [.text "fullName"])]) = .ok d := by
  have hkeyed : (driversWith [("properties", .array [.text "fullName"])]).Keyed := by
    simp [driversWith]
  have hvalid : Valid Document.published.toJson
      (driversWith [("properties", .array [.text "fullName"])]) :=
    valid_driversWith (by simp [List.lookup_cons]) (by decide)
  refine ⟨hvalid, (a_valid_document_is_read_but_for_properties hkeyed hvalid).mpr ?_⟩
  simp [driversWith, Json.get?, List.lookup_cons, eq_comm]

/-- Fields and properties are both allowed by the schema, but not read together. -/
theorem drivers_with_both_are_not_read :
    (driversWith [("fields", .array []), ("properties", .array [])]).Keyed ∧
    Valid Document.published.toJson
      (driversWith [("fields", .array []), ("properties", .array [])]) ∧
    Decode.ofValue Document.decode
        (driversWith [("fields", .array []), ("properties", .array [])]) =
      .error (.mismatch (.duplicateField "fields")) := by
  refine ⟨by simp [driversWith], valid_driversWith ?_ (by simp [List.lookup_cons]), rfl⟩
  simp [eq_comm]

end StoreClient
