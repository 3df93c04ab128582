-- The law of published bundles: the JSON form of every schema is valid against the schema that is
-- published for it. The types and the rules of fields are told apart by a tag, so of their
-- alternatives exactly one holds.
import Mathlib.Data.List.Nodup
import StoreClient.Bundle.Encoding
import StoreClient.JsonSchema.Bundle
import StoreClient.Proofs.Members
import StoreClient.Proofs.SchemaValidity

namespace StoreClient

namespace Rule

/-! ## Alternatives that are told apart -/

/-- The rules of which one must hold. -/
def alternatives : Rule → List Rule
  | described _ rule => rule.alternatives
  | oneOf rules => rules
  | _ => []

/-- The word that a rule demands under a key. -/
def tag? (key : String) : Rule → Option String
  | described _ rule => rule.tag? key
  | record properties =>
    match properties.lookup key with
    | some (_, words [w]) => some w
    | _ => none
  | _ => none

/-- Rules that are told apart: each demands a word of its own under a key. -/
structure ToldApart (key : String) (rules : List Rule) : Prop where
  tagged : ∀ r ∈ rules, (r.tag? key).isSome = true
  differ : (rules.map (tag? key)).Nodup

end Rule

namespace Draft7

open Rule

variable {root v : Json} {rule : Rule} {rules : List Rule}

/-- Exactly one of some schemas holds of a value; all others are refused. -/
def ExactlyOne (root : Json) (schemas : List Json) (v : Json) : Prop :=
  ∃ i < schemas.length, ∀ j schema, schemas[j]? = some schema →
    Says root schema v (decide (j = i))

theorem mem_of_lookup {α β : Type} [BEq α] [LawfulBEq α] {key : α} {value : β}
    {members : List (α × β)} (h : members.lookup key = some value) : (key, value) ∈ members := by
  obtain ⟨before, after, rfl, -⟩ := List.lookup_eq_some_iff.mp h
  simp

/-- An object under another word is refused. -/
theorem refuses_tag {rule : Rule} {key tag word : String} {members : List (String × Json)}
    (htag : rule.tag? key = some tag) (hword : members.lookup key = some (.text word))
    (hne : tag ≠ word) : Says root rule.toJson (.object members) false := by
  match rule, htag with
  | .described _ rule, htag => exact says_described_iff.mpr (refuses_tag htag hword hne)
  | .record properties, htag =>
    unfold tag? at htag
    split at htag
    · rename_i isRequired w hlookup
      cases htag
      refine refuses_record (mem_of_lookup hlookup) hword ?_
      have hwords : Says root (words [tag]).toJson (.text word) (decide (word ∈ [tag])) :=
        says_words [tag] word
      rwa [decide_eq_false (by simpa using Ne.symm hne)] at hwords
    · cases htag

section

variable {key word : String} {members : List (String × Json)} (hrules : ToldApart key rules)
  (hword : members.lookup key = some (.text word)) (hrule : rule ∈ rules)
  (htag : rule.tag? key = some word) (h : Says root rule.toJson (.object members) true)

include hrules hword hrule htag h

/-- Of rules that are told apart only the one whose word a value has can hold. -/
theorem says_of_tag :
    ∀ r ∈ rules, Says root r.toJson (.object members) (decide (r.tag? key = some word)) := by
  intro r hr
  by_cases hsame : r.tag? key = some word
  · have hrules_inj := List.inj_on_of_nodup_map hrules.differ hr hrule
    rw [decide_eq_true hsame, hrules_inj (hsame.trans htag.symm)]
    exact h
  · obtain ⟨tag, ht⟩ := Option.isSome_iff_exists.mp (hrules.tagged r hr)
    rw [decide_eq_false hsame]
    refine refuses_tag ht hword fun he => hsame ?_
    rw [ht, he]

theorem holds_oneOf_of_tag : Says root (oneOf rules).toJson (.object members) true := by
  have hone : rules.countP (fun r => decide (r.tag? key = some word)) = 1 := by
    have hmem : some word ∈ rules.map (tag? key) := List.mem_map.mpr ⟨rule, hrule, htag⟩
    have hcount := List.count_eq_one_of_mem hrules.differ hmem
    rw [List.count, List.countP_map] at hcount
    refine (List.countP_congr fun r _ => ?_).trans hcount
    simp
  have hsays := says_oneOf (says_of_tag hrules hword hrule htag h)
  rwa [hone] at hsays

theorem exactlyOne_of_tag : ExactlyOne root (rules.map Rule.toJson) (.object members) := by
  obtain ⟨i, hi, hget⟩ := List.mem_iff_getElem.mp hrule
  refine ⟨i, by rwa [List.length_map], fun j schema hj => ?_⟩
  rw [List.getElem?_map] at hj
  obtain ⟨r, hr, rfl⟩ := Option.map_eq_some_iff.mp hj
  have hsays := says_of_tag hrules hword hrule htag h r (List.mem_of_getElem? hr)
  obtain ⟨hj, rfl⟩ := List.getElem?_eq_some_iff.mp hr
  have hiff : rules[j].tag? key = some word ↔ j = i := by
    have hi' : i < (rules.map (tag? key)).length := by rwa [List.length_map]
    have hj' : j < (rules.map (tag? key)).length := by rwa [List.length_map]
    have hinj : (rules.map (tag? key))[j] = (rules.map (tag? key))[i] ↔ j = i :=
      hrules.differ.getElem_inj_iff
    rwa [List.getElem_map, List.getElem_map, hget, htag] at hinj
  rwa [decide_eq_decide.mpr hiff] at hsays

end

/-! ## Definitions -/

theorem lookup_definitions : ∀ rule : Rule, rule.keywords.lookup "definitions" = none
  | .described _ rule => by
    rw [Rule.keywords]
    exact lookup_definitions rule
  | .listOf hasDefault _ => by
    rw [Rule.keywords]
    cases hasDefault <;> rfl
  | .anything | .ref _ | .types _ | .words _ | .record _ | .oneOf _ | .anyOf _ | .allOf _ => by
    rw [Rule.keywords]
    rfl

/-- A reference inside a published schema leads to its definition. -/
theorem resolve?_published (p : PublishedSchema) (name : String) :
    resolve? p.toJson (.text ("#/definitions/" ++ name)) =
      (p.definitions.lookup name).map Rule.toJson := by
  have hdefinitions : p.toJson.get? "definitions" =
      some (.object (p.definitions.map fun d => (d.1, d.2.toJson))) := by
    rw [PublishedSchema.toJson, Json.get?, List.lookup_append, List.lookup_append,
      lookup_definitions]
    rfl
  rw [resolve?, hdefinitions]
  dsimp only
  induction p.definitions with
  | nil => rfl
  | cons d ds ih =>
    obtain ⟨name', rule⟩ := d
    rw [List.map_cons, lookup_cons_if]
    simp only [String.append_right_inj] at ih ⊢
    by_cases h : name = name'
    · simp [h]
    · rw [List.find?_cons_of_neg (by simpa using Ne.symm h), if_neg h, ih]

theorem says_definition_iff {p : PublishedSchema} {name : String} {verdict : Bool}
    (h : p.definitions.lookup name = some rule) :
    Says p.toJson (ref name).toJson v verdict ↔ Says p.toJson rule.toJson v verdict := by
  refine says_ref_iff ?_
  rw [resolve?_published, h]
  rfl

/-! ## Parts of a bundle -/

theorem holds_record {properties : List (String × Bool × Rule)} {members : List (String × Json)}
    (h : ∀ p ∈ properties, ∃ w, members.lookup p.1 = some w ∧ Says root p.2.2.toJson w true) :
    Says root (record properties).toJson (.object members) true := by
  refine holds_record_iff.mpr ⟨members, rfl, fun p hp _ => ?_, fun p hp w hw => ?_⟩
  · obtain ⟨w, hw, -⟩ := h p hp
    rw [hw]
    rfl
  · obtain ⟨w', hw', hsays⟩ := h p hp
    rw [hw', Option.some.injEq] at hw
    exact hw ▸ hsays

theorem holds_words {ws : List String} {s : String} (h : s ∈ ws) :
    Says root (words ws).toJson (.text s) true := by
  have hsays : Says root (words ws).toJson (.text s) (decide (s ∈ ws)) := says_words ws s
  rwa [decide_eq_true h] at hsays

theorem holds_text (s : String) : Says root Rule.text.toJson (.text s) true :=
  holds_types_iff.mpr ⟨.string, List.mem_singleton_self _, rfl⟩

theorem holds_flag (b : Bool) : Says root (types [.boolean]).toJson (.bool b) true :=
  holds_types_iff.mpr ⟨.boolean, List.mem_singleton_self _, rfl⟩

theorem holds_textOrNull (s : Option String) :
    Says root textOrNull.toJson (StoreClient.orNull .text s) true := by
  cases s with
  | none => exact holds_types_iff.mpr ⟨.null, by simp, rfl⟩
  | some s => exact holds_types_iff.mpr ⟨.string, by simp, rfl⟩

theorem holds_orNull {α : Type} {toJson : α → Json}
    (h : ∀ a, Says root rule.toJson (toJson a) true) (o : Option α) :
    Says root (Rule.orNull rule).toJson (StoreClient.orNull toJson o) true := by
  refine holds_anyOf_iff.mpr ?_
  cases o with
  | none => exact ⟨types [.null], by simp, holds_types_iff.mpr ⟨.null, by simp, rfl⟩⟩
  | some a => exact ⟨rule, by simp, h a⟩

theorem holds_listOf {α : Type} {toJson : α → Json} {hasDefault : Bool}
    (as : List α) (h : ∀ a ∈ as, Says root rule.toJson (toJson a) true) :
    Says root (listOf hasDefault rule).toJson (.array (as.map toJson)) true :=
  holds_listOf_iff.mpr ⟨_, rfl, List.forall_mem_map.mpr h⟩

end Draft7

open Draft7

/-! ## Words -/

section

variable {root : Json}

theorem Cardinality.holds (c : Cardinality) : Says root cardinalityRule.toJson c.toJson true :=
  says_described_iff.mpr (holds_words (by cases c <;> decide))

theorem Kind.holds (k : Kind) : Says root kindRule.toJson k.toJson true :=
  says_described_iff.mpr (holds_words (by cases k <;> decide))

theorem Flavor.holds (f : Flavor) : Says root flavorRule.toJson f.toJson true :=
  says_described_iff.mpr (holds_words (by cases f <;> decide))

theorem Patch.holds (p : Patch) : Says root patchRule.toJson p.toJson true :=
  says_described_iff.mpr (holds_words (by cases p <;> decide))

theorem Sentinel.holds (s : Sentinel) : Says root sentinelRule.toJson s.toJson true :=
  says_described_iff.mpr (holds_words (by cases s <;> decide))

theorem holds_plainVariant (key tag : String) :
    Says root (plainVariant key tag).toJson (.object [(key, .text tag)]) true := by
  refine holds_record (List.forall_mem_singleton.mpr ⟨.text tag, ?_, holds_words ?_⟩)
  · simp
  · simp

end

namespace Schema

/-- A rule of the published schema holds of a value. -/
def Meets (rule : Rule) (v : Json) : Prop := Says published.toJson rule.toJson v true

theorem meets_ref {name : String} {rule : Rule} {v : Json}
    (h : published.definitions.lookup name = some rule) (hv : Meets rule v) :
    Meets (.ref name) v :=
  (says_definition_iff h).mpr hv

end Schema

open Schema (Meets meets_ref)

/-! ## Types and rules -/

/-- The alternatives of a type have the tags by which it is read back. -/
theorem tags_of_types :
    typeRule.alternatives.map (·.tag? "kind") = ValueType.tagged.variants.map some := rfl

theorem tags_of_codecs :
    codecRule.alternatives.map (·.tag? "codec") = Codec.tagged.variants.map some := rfl

theorem Rule.ToldApart.of_tags {key : String} {rules : List Rule} {tags : List String}
    (h : rules.map (·.tag? key) = tags.map some) (htags : tags.Nodup) : ToldApart key rules := by
  refine ⟨fun r hr => ?_, ?_⟩
  · have hmem : r.tag? key ∈ tags.map some := h ▸ List.mem_map_of_mem hr
    obtain ⟨tag, -, htag⟩ := List.mem_map.mp hmem
    rw [← htag]
    rfl
  · have hnodup := htags.map fun _ _ => Option.some.inj
    rwa [← h] at hnodup

theorem meets_described {description : String} {rule : Rule} {v : Json} (h : Meets rule v) :
    Meets (.described description rule) v := says_described_iff.mpr h

theorem meets_allOf_ref {name : String} {rule : Rule} {v : Json}
    (h : Schema.published.definitions.lookup name = some rule) (hv : Meets rule v) :
    Meets (.allOf [.ref name]) v :=
  holds_allOf_iff.mpr (List.forall_mem_singleton.mpr (meets_ref h hv))

/-- A variant with one value beside its tag. -/
theorem meets_variant {key tag other : String} {rule : Rule} {v : Json}
    {properties : List (String × Bool × Rule)}
    (hperm : properties.Perm [(key, true, .words [tag]), (other, true, rule)]) (hne : other ≠ key)
    (h : Meets rule v) : Meets (.record properties) (.object [(key, .text tag), (other, v)]) := by
  refine holds_record fun p hp => ?_
  rcases List.mem_pair.mp (hperm.mem_iff.mp hp) with rfl | rfl
  · exact ⟨.text tag, by simp, holds_words (by simp)⟩
  · exact ⟨v, by simp [lookup_cons_if, hne], h⟩

namespace ValueType

theorem toldApart : Rule.ToldApart "kind" typeRule.alternatives :=
  .of_tags tags_of_types (by decide)

theorem lookup_kind (t : ValueType) :
    ∃ members, t.toJson = .object members ∧ members.lookup "kind" = some (.text t.kind) := by
  cases t <;> exact ⟨_, rfl, rfl⟩

theorem meets_of_own {t : ValueType} {r : Rule} (hr : r ∈ typeRule.alternatives)
    (htag : r.tag? "kind" = some t.kind) (h : Meets r t.toJson) : Meets typeRule t.toJson := by
  obtain ⟨members, heq, hkind⟩ := t.lookup_kind
  rw [heq] at h ⊢
  exact meets_described (holds_oneOf_of_tag toldApart hkind hr htag h)

/-- Every type has an alternative of its kind. -/
theorem meets_own (t : ValueType) : ∃ r ∈ typeRule.alternatives,
    r.tag? "kind" = some t.kind ∧ Meets r t.toJson := by
  induction t with
  | string => exact ⟨_, List.mem_of_getElem? (i := 0) rfl, rfl, holds_plainVariant "kind" "string"⟩
  | number => exact ⟨_, List.mem_of_getElem? (i := 1) rfl, rfl, holds_plainVariant "kind" "number"⟩
  | boolean =>
    exact ⟨_, List.mem_of_getElem? (i := 2) rfl, rfl, holds_plainVariant "kind" "boolean"⟩
  | unknown =>
    exact ⟨_, List.mem_of_getElem? (i := 3) rfl, rfl,
      meets_described (holds_plainVariant "kind" "unknown")⟩
  | temporal =>
    exact ⟨_, List.mem_of_getElem? (i := 4) rfl, rfl,
      meets_described (holds_plainVariant "kind" "temporal")⟩
  | flavored f =>
    exact ⟨_, List.mem_of_getElem? (i := 5) rfl, rfl,
      meets_variant (.swap _ _ _) (by decide) (meets_ref rfl f.holds)⟩
  | recordId =>
    exact ⟨_, List.mem_of_getElem? (i := 6) rfl, rfl,
      meets_described (holds_plainVariant "kind" "record_id")⟩
  | fileRef =>
    exact ⟨_, List.mem_of_getElem? (i := 7) rfl, rfl,
      meets_described (holds_plainVariant "kind" "file_ref")⟩
  | binary =>
    exact ⟨_, List.mem_of_getElem? (i := 8) rfl, rfl,
      meets_described (holds_plainVariant "kind" "binary")⟩
  | geoPoint =>
    exact ⟨_, List.mem_of_getElem? (i := 9) rfl, rfl,
      meets_described (holds_plainVariant "kind" "geo_point")⟩
  | literals values =>
    exact ⟨_, List.mem_of_getElem? (i := 10) rfl, rfl, meets_described
      (meets_variant (.refl _) (by decide) (holds_listOf values fun s _ => holds_text s))⟩
  | list item ih =>
    obtain ⟨r, hr, htag, h⟩ := ih
    exact ⟨_, List.mem_of_getElem? (i := 11) rfl, rfl,
      meets_variant (.swap _ _ _) (by decide) (meets_ref rfl (meets_of_own hr htag h))⟩
  | nullable inner ih =>
    obtain ⟨r, hr, htag, h⟩ := ih
    exact ⟨_, List.mem_of_getElem? (i := 12) rfl, rfl,
      meets_variant (.swap _ _ _) (by decide) (meets_ref rfl (meets_of_own hr htag h))⟩
  | clearable inner ih =>
    obtain ⟨r, hr, htag, h⟩ := ih
    exact ⟨_, List.mem_of_getElem? (i := 13) rfl, rfl, meets_described
      (meets_variant (.swap _ _ _) (by decide) (meets_ref rfl (meets_of_own hr htag h)))⟩

theorem meets (t : ValueType) : Meets typeRule t.toJson := by
  obtain ⟨r, hr, htag, h⟩ := t.meets_own
  exact meets_of_own hr htag h

theorem exactlyOne (t : ValueType) : ExactlyOne Schema.published.toJson
    (typeRule.alternatives.map Rule.toJson) t.toJson := by
  obtain ⟨r, hr, htag, h⟩ := t.meets_own
  obtain ⟨members, heq, hkind⟩ := t.lookup_kind
  rw [heq] at h ⊢
  exact exactlyOne_of_tag toldApart hkind hr htag h

end ValueType

namespace Codec

theorem toldApart : Rule.ToldApart "codec" codecRule.alternatives :=
  .of_tags tags_of_codecs (by decide)

theorem lookup_codec (c : Codec) :
    ∃ members, c.toJson = .object members ∧ members.lookup "codec" = some (.text c.name) := by
  cases c <;> exact ⟨_, rfl, rfl⟩

/-- Every rule has an alternative of its name. -/
theorem meets_own (c : Codec) : ∃ r ∈ codecRule.alternatives,
    r.tag? "codec" = some c.name ∧ Meets r c.toJson := by
  cases c with
  | temporal =>
    exact ⟨_, List.mem_of_getElem? (i := 0) rfl, rfl,
      meets_described (holds_plainVariant "codec" "temporal")⟩
  | nullableTemporal =>
    exact ⟨_, List.mem_of_getElem? (i := 1) rfl, rfl,
      meets_described (holds_plainVariant "codec" "nullable_temporal")⟩
  | emptyAsNull s =>
    exact ⟨_, List.mem_of_getElem? (i := 2) rfl, rfl,
      meets_described (meets_variant (.refl _) (by decide) (meets_ref rfl s.holds))⟩
  | arrayPatch op =>
    exact ⟨_, List.mem_of_getElem? (i := 3) rfl, rfl,
      meets_described (meets_variant (.refl _) (by decide) (meets_ref rfl op.holds))⟩

theorem meets (c : Codec) : Meets codecRule c.toJson := by
  obtain ⟨r, hr, htag, h⟩ := c.meets_own
  obtain ⟨members, heq, hname⟩ := c.lookup_codec
  rw [heq] at h ⊢
  exact meets_described (holds_oneOf_of_tag toldApart hname hr htag h)

theorem exactlyOne (c : Codec) : ExactlyOne Schema.published.toJson
    (codecRule.alternatives.map Rule.toJson) c.toJson := by
  obtain ⟨r, hr, htag, h⟩ := c.meets_own
  obtain ⟨members, heq, hname⟩ := c.lookup_codec
  rw [heq] at h ⊢
  exact exactlyOne_of_tag toldApart hname hr htag h

end Codec

/-! ## Fields and bundles -/

theorem meets_codec (o : Option Codec) :
    Meets (Rule.orNull (.ref "Codec")) (orNull Codec.toJson o) :=
  holds_orNull (fun c => meets_ref rfl c.meets) o

theorem ReadField.meets (f : ReadField) : Meets readFieldRule f.toJson := by
  refine meets_described (holds_record ?_)
  simp only [List.forall_mem_cons]
  exact ⟨⟨_, rfl, holds_textOrNull f.doc⟩, ⟨_, rfl, meets_ref rfl f.kind.holds⟩,
    ⟨_, rfl, meets_described (meets_allOf_ref rfl f.modelType.meets)⟩, ⟨_, rfl, holds_text f.name⟩,
    ⟨_, rfl, meets_described (meets_codec f.parse)⟩,
    ⟨_, rfl, meets_described (meets_codec f.serialize)⟩,
    ⟨_, rfl, meets_described (meets_allOf_ref rfl f.wireType.meets)⟩, nofun⟩

theorem WriteField.meets (f : WriteField) : Meets writeFieldRule f.toJson := by
  refine meets_described (holds_record ?_)
  simp only [List.forall_mem_cons]
  exact ⟨⟨_, rfl, holds_textOrNull f.doc⟩, ⟨_, rfl, meets_ref rfl f.kind.holds⟩,
    ⟨_, rfl, meets_ref rfl f.modelType.meets⟩, ⟨_, rfl, meets_described (holds_text f.name)⟩,
    ⟨_, rfl, meets_described (holds_flag f.isOptional)⟩, ⟨_, rfl, meets_codec f.serialize⟩,
    ⟨_, rfl, meets_described (holds_text f.wireKey)⟩, ⟨_, rfl, meets_ref rfl f.wireType.meets⟩,
    nofun⟩

theorem Expansion.meets (e : Expansion) : Meets expansionRule e.toJson := by
  refine meets_described (holds_record ?_)
  simp only [List.forall_mem_cons]
  exact ⟨⟨_, rfl, meets_ref rfl e.cardinality.holds⟩,
    ⟨_, rfl, meets_described (holds_text e.field)⟩,
    ⟨_, rfl, meets_described (holds_text e.collection)⟩,
    ⟨_, rfl, meets_described (holds_text e.typeName)⟩, nofun⟩

theorem meets_listOf_ref {α : Type} {toJson : α → Json} {name : String} {rule : Rule}
    (h : Schema.published.definitions.lookup name = some rule)
    (hrule : ∀ a, Meets rule (toJson a)) (as : List α) :
    Meets (.listOf false (.ref name)) (.array (as.map toJson)) :=
  holds_listOf as fun a _ => meets_ref h (hrule a)

theorem Bundle.meets (b : Bundle) : Meets bundleRule b.toJson := by
  refine meets_described (holds_record ?_)
  simp only [List.forall_mem_cons]
  exact ⟨⟨_, rfl, meets_described (meets_listOf_ref rfl WriteField.meets b.create)⟩,
    ⟨_, rfl, meets_described (meets_listOf_ref rfl Expansion.meets b.expand)⟩,
    ⟨_, rfl, meets_described (holds_textOrNull b.id)⟩,
    ⟨_, rfl, meets_described (holds_text b.name)⟩,
    ⟨_, rfl, meets_described (holds_text b.pluralTypeName)⟩,
    ⟨_, rfl, meets_described (meets_listOf_ref rfl ReadField.meets b.read)⟩,
    ⟨_, rfl, meets_described (holds_text b.typeName)⟩,
    ⟨_, rfl, meets_described (meets_listOf_ref rfl WriteField.meets b.update)⟩, nofun⟩

/-! ## The law -/

/-- The alternatives that a published schema has for a definition. -/
def PublishedSchema.alternatives? (p : PublishedSchema) (name : String) : Option Json :=
  (resolve? p.toJson (.text ("#/definitions/" ++ name))).bind (·.get? "oneOf")

theorem PublishedSchema.alternatives?_eq {p : PublishedSchema} {name description : String}
    {rules : List Rule}
    (h : p.definitions.lookup name = some (.described description (.oneOf rules))) :
    p.alternatives? name = some (.array (rules.map Rule.toJson)) := by
  rw [alternatives?, resolve?_published, h, Option.map_some, Option.bind_some, Rule.toJson,
    Rule.keywords, toJsons_eq]
  rfl

/-- Every schema is valid against the published one, whatever document it was compiled from. Of
the alternatives for a type exactly one holds, and likewise of those for the rule of a field. -/
theorem every_schema_is_as_published (s : Schema) :
    Valid Schema.published.toJson s.toJson ∧
    (∃ alternatives, Schema.published.alternatives? "TypeRef" = some (.array alternatives) ∧
      ∀ t : ValueType, ExactlyOne Schema.published.toJson alternatives t.toJson) ∧
    ∃ alternatives, Schema.published.alternatives? "Codec" = some (.array alternatives) ∧
      ∀ c : Codec, ExactlyOne Schema.published.toJson alternatives c.toJson := by
  refine ⟨?_, ⟨typeRule.alternatives.map Rule.toJson, ?_, ValueType.exactlyOne⟩,
    ⟨codecRule.alternatives.map Rule.toJson, ?_, Codec.exactlyOne⟩⟩
  · rw [valid_published_iff]
    refine meets_described (holds_record (List.forall_mem_singleton.mpr ?_))
    exact ⟨_, rfl, meets_listOf_ref rfl Bundle.meets s.bundles⟩
  · exact PublishedSchema.alternatives?_eq rfl
  · exact PublishedSchema.alternatives?_eq rfl

end StoreClient
