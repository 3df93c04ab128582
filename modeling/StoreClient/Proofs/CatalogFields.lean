-- The law of translation: a field that is declared well in the words of the catalog becomes the
-- field that it means, whatever else its declaration says. The translation moves members to the
-- keys of a document, so it is followed key by key; what it does not move it leaves alone.
import Mathlib.Algebra.Order.Field.Power
import Mathlib.Data.Rat.Cast.Order
import Mathlib.Tactic.NormNum
import Mathlib.Tactic.Positivity
import StoreClient.Catalog.Translation
import StoreClient.Proofs.DeclaredCollections
import StoreClient.Proofs.Members

namespace StoreClient

/-! ## The value of a number -/

def Double.value (x : Double) : ℚ :=
  (if x.negative then -1 else 1) * x.significand * 2 ^ x.exponent

/-- The exact value of a number, be it whole or not. -/
def Number.value : Number → ℚ
  | .int n => n
  | .double x => x.value

theorem Double.leNat_iff (x : Double) (n : Nat) : x.leNat n = true ↔ x.value ≤ n := by
  obtain ⟨negative, significand, exponent⟩ := x
  cases negative with
  | true =>
    have hvalue : (⟨true, significand, exponent⟩ : Double).value ≤ 0 := by
      have hpos : (0 : ℚ) ≤ significand * 2 ^ exponent := by positivity
      simpa [value] using hpos
    have hle := hvalue.trans (Nat.cast_nonneg n)
    simp [leNat, hle]
  | false =>
    have hvalue : (⟨false, significand, exponent⟩ : Double).value = significand * 2 ^ exponent := by
      simp [value]
    rw [hvalue]
    -- A double below its unit is a fraction, and any other one is whole.
    obtain ⟨k, rfl | rfl⟩ := Int.eq_nat_or_neg exponent
    · have hwhole : ¬ (k : Int) < 0 := by omega
      simp only [leNat, ratio, hwhole, if_false, Bool.false_or, decide_eq_true_eq, mul_one,
        Int.toNat_natCast, Nat.pow_eq, zpow_natCast]
      exact_mod_cast Iff.rfl
    · rcases Nat.eq_zero_or_pos k with rfl | hk
      · simp [leNat, ratio]
      · have hpower : (0 : ℚ) < 2 ^ k := by positivity
        have hfraction : -(k : Int) < 0 := by omega
        simp only [leNat, ratio, hfraction, if_true, neg_neg, Int.toNat_natCast, Nat.pow_eq,
          Bool.false_or, decide_eq_true_eq, zpow_neg, zpow_natCast]
        rw [← div_eq_mul_inv, div_le_iff₀ hpower]
        exact_mod_cast Iff.rfl

theorem Number.leNat_iff (x : Number) (n : Nat) : x.leNat n = true ↔ x.value ≤ n := by
  cases x with
  | int m =>
    simp only [leNat, value, decide_eq_true_eq]
    norm_cast
  | double x => exact x.leNat_iff n

namespace Catalog

/-! ## What the translation does to a key -/

section

variable (k : String) {before after tag : String} {members : List (String × Json)}

theorem lookup_rename_of_ne (hbefore : k ≠ before) (hafter : k ≠ after) :
    (rename before after members).lookup k = members.lookup k := by
  unfold rename
  split
  · rw [Json.lookup_insert, if_neg hafter, Json.lookup_erase, if_neg hbefore]
  · rfl

/-- A member goes over to a key that is free. -/
theorem lookup_rename_after : (rename before after members).lookup after =
    (members.lookup after).or (members.lookup before) := by
  unfold rename
  cases hafter : members.lookup after with
  | some j => simp [hafter]
  | none =>
    cases hbefore : members.lookup before with
    | none => simp [hafter]
    | some j => simp [Json.lookup_insert]

/-- It is gone from its old key only if it went over. -/
theorem lookup_rename_before (h : before ≠ after) : (rename before after members).lookup before =
    if members.lookup after = none then none else members.lookup before := by
  unfold rename
  cases hafter : members.lookup after with
  | some j => simp
  | none =>
    cases hbefore : members.lookup before with
    | none => simp [hbefore]
    | some j => simp [Json.lookup_insert, Json.lookup_erase, h]

theorem lookup_addMode_of_ne (h : k ≠ "mode") : (addMode members).lookup k = members.lookup k := by
  unfold addMode
  split
  · rw [Json.lookup_insert, if_neg h]
  · rfl

/-- The mode of a field that may hold at most so many values. -/
def modeFor (most : Number) : Cardinality := if most.leNat 1 then .single else .multiple

theorem modeFor_eq_multiple_iff (most : Number) : modeFor most = .multiple ↔ 1 < most.value := by
  have hle := most.leNat_iff 1
  rw [Nat.cast_one] at hle
  rw [← not_le, ← hle]
  unfold modeFor
  split <;> simp_all

/-- A mode that is given stays, and else the number gives one if it can. -/
theorem lookup_addMode_mode : (addMode members).lookup "mode" = (members.lookup "mode").or
    (((members.lookup "maxSelect").bind modeOf?).map fun mode => .text mode.name) := by
  unfold addMode
  cases hmode : members.lookup "mode" with
  | some j => simp [hmode]
  | none =>
    cases hmost : (members.lookup "maxSelect").bind modeOf? with
    | none => simp [hmode]
    | some mode => simp [Json.lookup_insert]

/-- The keys of the members that the translation of properties may put in or take out. -/
def propertyKeys : List String := ["mode", "to", "collectionId", "options", "values"]

theorem lookup_translateProperties_of_not_mem (h : k ∉ propertyKeys) :
    (translateProperties tag members).lookup k = members.lookup k := by
  simp only [propertyKeys, List.mem_cons, List.not_mem_nil, or_false, not_or] at h
  obtain ⟨hmode, hto, hid, hoptions, hvalues⟩ := h
  unfold translateProperties
  split
  · rw [lookup_addMode_of_ne k hmode, lookup_rename_of_ne k hid hto]
  · split
    · rw [lookup_addMode_of_ne k hmode, lookup_rename_of_ne k hvalues hoptions]
    · split
      · rw [lookup_addMode_of_ne k hmode]
      · rfl

end

/-! ## Declarations in the words of the catalog -/

/-- The kinds under the names that the catalog has for them. -/
def kindNames : List (String × Kind) :=
  [("text", .plainText), ("editor", .richText), ("bool", .boolean), ("date", .dateTime),
   ("email", .email), ("url", .url), ("number", .number), ("json", .json),
   ("autodate", .autoDateTime), ("geoPoint", .geoPoint), ("password", .password),
   ("relation", .relation), ("select", .select), ("file", .file)]

theorem canonicalTag_of_mem {name : String} {kind : Kind} (h : (name, kind) ∈ kindNames) :
    canonicalTag name = kind.tag := by
  simp only [kindNames, List.mem_cons, Prod.mk.injEq, List.not_mem_nil, or_false] at h
  rcases h with h | h | h | h | h | h | h | h | h | h | h | h | h | h
  all_goals
    obtain ⟨rfl, rfl⟩ := h
    decide

/-- A field of a kind, declared well in the words of the catalog. The keys under which a document
says the same are free, and any other member may stand beside. -/
structure WellDeclared (members : List (String × Json)) (kind : Kind) : Prop where
  name : ∃ name, name ≠ "" ∧ members.lookup "name" = some (.text name)
  type : ∃ name, (name, kind) ∈ kindNames ∧ members.lookup "type" = some (.text name)
  required : ∀ j, members.lookup "required" = some j → ∃ b, j = .bool b
  no_to : members.lookup "to" = none
  no_options : members.lookup "options" = none
  no_mode : members.lookup "mode" = none
  target : kind = .relation →
    ∃ target, target ≠ "" ∧ members.lookup "collectionId" = some (.text target)
  values : kind = .select → ∃ values, values ≠ [] ∧ (∀ v ∈ values, v ≠ "") ∧
    members.lookup "values" = some (.array (values.map .text))
  most : kind ∈ [.relation, .select, .file] →
    ∃ most, members.lookup "maxSelect" = some (.number most)

/-- Whether a value must be there, for the kinds of which this can be said. -/
def required? : FieldForm → Option Bool
  | .plainText r | .richText r | .email r | .url r | .number r | .relation _ _ r | .dateTime r
  | .file _ r => some r
  | .autoDateTime | .boolean | .json | .select _ _ | .geoPoint | .password => none

/-- The flag is the one that is given, and off if none is given. -/
def IsRequired (members : List (String × Json)) (r : Bool) : Prop :=
  members.lookup "required" = some (.bool r) ∨ members.lookup "required" = none ∧ r = false

/-- The mode is that of several values exactly if the field may hold more than one. -/
def IsMode (members : List (String × Json)) (mode : Cardinality) : Prop :=
  ∃ most, members.lookup "maxSelect" = some (.number most) ∧ (mode = .multiple ↔ 1 < most.value)

/-- The field is the one that the declaration means in the words of the catalog. -/
structure Means (members : List (String × Json)) (f : Field) : Prop where
  name_eq : members.lookup "name" = some (.text f.name)
  kind_eq : ∃ name, (name, f.kind) ∈ kindNames ∧ members.lookup "type" = some (.text name)
  required_eq : ∀ r, required? f.form = some r → IsRequired members r
  target_eq : ∀ target mode r, f.form = .relation target mode r →
    members.lookup "collectionId" = some (.text target)
  options_eq : ∀ options mode, f.form = .select options mode →
    members.lookup "values" = some (.array (options.map .text))
  mode_eq : ∀ mode, f.cardinality? = some mode → IsMode members mode

/-! ## Reading the translation -/

/-- The members of the translation. -/
def translatedMembers (kind : Kind) (members : List (String × Json)) : List (String × Json) :=
  Json.replace "type" (.text kind.tag) (translateProperties kind.tag members)

theorem lookup_translatedMembers {k : String} {kind : Kind} {members : List (String × Json)}
    (htype : k ≠ "type") (hk : k ∉ propertyKeys) :
    (translatedMembers kind members).lookup k = members.lookup k := by
  rw [translatedMembers, Json.lookup_replace, if_neg htype,
    lookup_translateProperties_of_not_mem k hk]

/-- A kind with no property but the flag, if that, means nothing else by its form. -/
theorem means_of_plain {members : List (String × Json)} {name : String} {form : FieldForm}
    (hname : members.lookup "name" = some (.text name))
    (htype : ∃ tag, (tag, form.kind) ∈ kindNames ∧ members.lookup "type" = some (.text tag))
    (hkind : form.kind ∉ [.relation, .select, .file])
    (hrequired : ∀ r, required? form = some r → IsRequired members r) :
    Means members ⟨name, form⟩ where
  name_eq := hname
  kind_eq := htype
  required_eq := hrequired
  target_eq := by
    rintro target mode r rfl
    exact absurd List.mem_cons_self hkind
  options_eq := by
    rintro options mode rfl
    exact absurd (List.mem_cons_of_mem _ List.mem_cons_self) hkind
  mode_eq := by
    intro mode hmode
    cases form <;> simp_all [Field.cardinality?, FieldForm.kind]

namespace WellDeclared

variable {members : List (String × Json)} {kind : Kind} (h : WellDeclared members kind)

include h

theorem translate_eq : translate (.object members) = .object (translatedMembers kind members) := by
  obtain ⟨name, hname, htype⟩ := h.type
  simp only [translate, htype, canonicalTag_of_mem hname]
  rfl

theorem lookup_type : (translatedMembers kind members).lookup "type" = some (.text kind.tag) := by
  obtain ⟨name, -, htype⟩ := h.type
  rw [translatedMembers, Json.lookup_replace, if_pos rfl,
    lookup_translateProperties_of_not_mem "type" (by decide), htype]
  rfl

theorem lookup_to {target : Json} (htarget : members.lookup "collectionId" = some target) :
    (translatedMembers .relation members).lookup "to" = some target := by
  rw [translatedMembers, Json.lookup_replace, if_neg (by decide), translateProperties,
    if_pos (by decide), lookup_addMode_of_ne "to" (by decide), lookup_rename_after, h.no_to,
    htarget, Option.none_or]

theorem lookup_options {values : Json} (hvalues : members.lookup "values" = some values) :
    (translatedMembers .select members).lookup "options" = some values := by
  rw [translatedMembers, Json.lookup_replace, if_neg (by decide), translateProperties,
    if_neg (by decide), if_pos (by decide), lookup_addMode_of_ne "options" (by decide),
    lookup_rename_after, h.no_options, hvalues, Option.none_or]

theorem lookup_mode (hkind : kind ∈ [.relation, .select, .file]) {most : Number}
    (hmost : members.lookup "maxSelect" = some (.number most)) :
    (translatedMembers kind members).lookup "mode" = some (.text (modeFor most).name) := by
  -- Members that go over to another key say neither the mode nor the number.
  have hrenamed (before after : String) (hmode : "mode" ≠ before ∧ "mode" ≠ after)
      (hmax : "maxSelect" ≠ before ∧ "maxSelect" ≠ after) :
      (addMode (rename before after members)).lookup "mode" =
        some (.text (modeFor most).name) := by
    rw [lookup_addMode_mode, lookup_rename_of_ne "mode" hmode.1 hmode.2,
      lookup_rename_of_ne "maxSelect" hmax.1 hmax.2, h.no_mode, hmost]
    rfl
  rw [translatedMembers, Json.lookup_replace, if_neg (by decide), translateProperties]
  simp only [List.mem_cons, List.not_mem_nil, or_false] at hkind
  rcases hkind with rfl | rfl | rfl
  · rw [if_pos (by decide)]
    exact hrenamed "collectionId" "to" (by decide) (by decide)
  · rw [if_neg (by decide), if_pos (by decide)]
    exact hrenamed "values" "options" (by decide) (by decide)
  · rw [if_neg (by decide), if_neg (by decide), if_pos (by decide)]
    rw [lookup_addMode_mode, h.no_mode, hmost]
    rfl

/-! ### Its properties, read as those of a document -/

theorem target_ok (hkind : kind = .relation) : ∃ target,
    Declaration.named .to Declaration.someText (translatedMembers .relation members) = .ok target ∧
      members.lookup "collectionId" = some (.text target) := by
  obtain ⟨target, hne, htarget⟩ := h.target hkind
  refine ⟨target, ?_, htarget⟩
  rw [Declaration.named_ok_iff, Declaration.someText_ok_iff]
  exact ⟨h.lookup_to htarget, hne⟩

theorem options_ok (hkind : kind = .select) : ∃ options,
    Declaration.named .options Declaration.someTexts (translatedMembers .select members) =
      .ok options ∧ members.lookup "values" = some (.array (options.map .text)) := by
  obtain ⟨values, hne, hsome, hvalues⟩ := h.values hkind
  refine ⟨values, ?_, hvalues⟩
  rw [Declaration.named_ok_iff, Declaration.someTexts_ok_iff]
  exact ⟨h.lookup_options hvalues, hne, hsome⟩

theorem mode_ok (hkind : kind ∈ [.relation, .select, .file]) : ∃ mode,
    Declaration.named .mode Declaration.cardinality (translatedMembers kind members) = .ok mode ∧
      IsMode members mode := by
  obtain ⟨most, hmost⟩ := h.most hkind
  refine ⟨modeFor most, ?_, most, hmost, modeFor_eq_multiple_iff most⟩
  rw [Declaration.named_ok_iff, Declaration.cardinality_ok_iff]
  exact h.lookup_mode hkind hmost

theorem required_ok : ∃ r,
    Declaration.named .required Declaration.flag (translatedMembers kind members) = .ok r ∧
      IsRequired members r := by
  simp only [Declaration.named_ok_iff, Declaration.flag_ok_iff, Property.key]
  rw [lookup_translatedMembers (by decide) (by decide)]
  cases hrequired : members.lookup "required" with
  | none => exact ⟨false, .inr ⟨rfl, rfl⟩, .inr ⟨hrequired, rfl⟩⟩
  | some j =>
    obtain ⟨b, rfl⟩ := h.required j hrequired
    exact ⟨b, .inl rfl, .inl hrequired⟩

/-- The form that the properties give is the one that is meant. -/
theorem form_ok {name : String} (hname : members.lookup "name" = some (.text name)) :
    ∃ form, Declaration.form (translatedMembers kind members) kind = .ok form ∧
      Means members ⟨name, form⟩ := by
  obtain ⟨r, hflag, hr⟩ := h.required_ok
  have flagged {make : Bool → FieldForm}
      (hform : Declaration.form (translatedMembers kind members) kind =
        (Declaration.named .required Declaration.flag (translatedMembers kind members)).bind
          fun r => .ok (make r)) :
      Declaration.form (translatedMembers kind members) kind = .ok (make r) := by
    rw [hform, hflag]
    rfl
  cases kind with
  | plainText | richText | email | url | number | dateTime =>
    refine ⟨_, flagged rfl, means_of_plain hname h.type (by simp [FieldForm.kind]) ?_⟩
    rintro _ ⟨⟩
    exact hr
  | autoDateTime | boolean | json | geoPoint | password =>
    refine ⟨_, rfl, means_of_plain hname h.type (by decide) ?_⟩
    rintro _ ⟨⟩
  | relation =>
    obtain ⟨target, hto, htarget⟩ := h.target_ok rfl
    obtain ⟨mode, hmode, hmost⟩ := h.mode_ok (by decide)
    refine ⟨.relation target mode r, (Declaration.relation_form_ok_iff _ _).mpr
      ⟨target, mode, r, hto, hmode, hflag, rfl⟩, hname, h.type, ?_, ?_, ?_, ?_⟩
    · rintro _ ⟨⟩
      exact hr
    · rintro _ _ _ ⟨⟩
      exact htarget
    · rintro _ _ ⟨⟩
    · rintro _ ⟨⟩
      exact hmost
  | select =>
    obtain ⟨options, hoptions, hvalues⟩ := h.options_ok rfl
    obtain ⟨mode, hmode, hmost⟩ := h.mode_ok (by decide)
    refine ⟨.select options mode, ?_, hname, h.type, ?_, ?_, ?_, ?_⟩
    · rw [Declaration.form, hoptions, hmode]
      rfl
    · rintro _ ⟨⟩
    · rintro _ _ _ ⟨⟩
    · rintro _ _ ⟨⟩
      exact hvalues
    · rintro _ ⟨⟩
      exact hmost
  | file =>
    obtain ⟨mode, hmode, hmost⟩ := h.mode_ok (by decide)
    refine ⟨.file mode r, (Declaration.file_form_ok_iff _ _).mpr ⟨mode, r, hmode, hflag, rfl⟩,
      hname, h.type, ?_, ?_, ?_, ?_⟩
    · rintro _ ⟨⟩
      exact hr
    · rintro _ _ _ ⟨⟩
    · rintro _ _ ⟨⟩
    · rintro _ ⟨⟩
      exact hmost

end WellDeclared

end Catalog

/-! ## The law -/

/-- A field that is declared well in the words of the catalog is read from its translation, and it
is the field that the declaration means. -/
theorem a_catalog_field_becomes_the_one_it_means (members : List (String × Json)) (kind : Kind)
    (h : Catalog.WellDeclared members kind) :
    ∃ f, Field.ofDeclaration (Catalog.translate (.object members)) = .ok f ∧ f.kind = kind ∧
      Catalog.Means members f := by
  obtain ⟨name, hne, hname⟩ := h.name
  obtain ⟨form, hform, hmeans⟩ := h.form_ok hname
  have hkind : form.kind = kind := Declaration.kind_of_form hform
  refine ⟨⟨name, form⟩, ?_, hkind, hmeans⟩
  rw [h.translate_eq, Field.ofDeclaration_ok_iff]
  refine ⟨_, rfl, ?_, ?_, ?_⟩
  · rw [Declaration.fieldName_ok_iff, Catalog.lookup_translatedMembers (by decide) (by decide)]
    exact ⟨hname, hne⟩
  · rw [Declaration.fieldKind_ok_iff, h.lookup_type, Field.kind, hkind]
  · rw [Field.kind, hkind]
    exact hform

/-- The readers who have borrowed a book, at most one and a half of them. -/
def borrowers : List (String × Json) :=
  [("collectionId", .text "pbc_readers"),
   ("maxSelect", .number (.double ⟨false, 6755399441055744, -52⟩)),
   ("minSelect", .number (.int 0)), ("name", .text "borrowers"), ("required", .bool true),
   ("type", .text "relation"), ("values", .null)]

theorem the_borrowers_are_readers : Catalog.WellDeclared borrowers .relation ∧
    ∃ f, Field.ofDeclaration (Catalog.translate (.object borrowers)) = .ok f ∧
      f.kind = .relation ∧ Catalog.Means borrowers f := by
  have h : Catalog.WellDeclared borrowers .relation :=
    { name := ⟨"borrowers", by decide, rfl⟩
      type := ⟨"relation", by decide, rfl⟩
      required := by
        rintro _ ⟨⟩
        exact ⟨true, rfl⟩
      no_to := rfl
      no_options := rfl
      no_mode := rfl
      target := fun _ => ⟨"pbc_readers", by decide, rfl⟩
      values := fun hselect => nomatch hselect
      most := fun _ => ⟨_, rfl⟩ }
  exact ⟨h, a_catalog_field_becomes_the_one_it_means borrowers .relation h⟩

/-- More than one reader is several, however little more. -/
example : Field.ofDeclaration (Catalog.translate (.object borrowers)) =
    .ok ⟨"borrowers", .relation "pbc_readers" .multiple true⟩ := rfl

end StoreClient
