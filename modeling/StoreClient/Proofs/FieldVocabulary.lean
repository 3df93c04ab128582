-- The law of the vocabulary: which values declare a field, and which field. A declaration gives a
-- name and a type; the type decides which properties are looked at, and in which order. Each of
-- them is kept as it is said, and whatever else the declaration says changes nothing.
import StoreClient.Proofs.Decoders
import StoreClient.Proofs.DeclaredCollections

namespace StoreClient

/-! ## The words of a declaration -/

/-- The types of a declaration with the kinds that they stand for, and the properties of each kind
in the order in which they are read. -/
def vocabulary : List (String × Kind × List Property) :=
  [("plainText", .plainText, [.required]), ("richText", .richText, [.required]),
   ("email", .email, [.required]), ("url", .url, [.required]), ("number", .number, [.required]),
   ("relation", .relation, [.to, .mode, .required]), ("datetime", .dateTime, [.required]),
   ("autodate", .autoDateTime, []), ("boolean", .boolean, []), ("json", .json, []),
   ("select", .select, [.options, .mode]), ("file", .file, [.mode, .required]),
   ("geoPoint", .geoPoint, []), ("password", .password, [])]

/-- A value says of a property what may be said of it. -/
def Property.Accepted (raw : Json) : Property → Prop
  | .to => ∃ target, raw.get? "to" = some (.text target) ∧ target ≠ ""
  | .mode => raw.get? "mode" = some (.text "single") ∨ raw.get? "mode" = some (.text "multiple")
  | .required => raw.get? "required" = none ∨ ∃ b, raw.get? "required" = some (.bool b)
  | .options => ∃ options, raw.get? "options" = some (.array (options.map .text)) ∧
      options ≠ [] ∧ ∀ s ∈ options, s ≠ ""

/-- A value that declares a field of a kind: it has a name, the type of the kind, and what must be
said of each property of the kind. Members under other keys are free. -/
structure Kind.IsDeclaredBy (kind : Kind) (raw : Json) : Prop where
  is_object : ∃ members, raw = .object members
  named : ∃ name, raw.get? "name" = some (.text name) ∧ name ≠ ""
  typed : ∃ tag properties, (tag, kind, properties) ∈ vocabulary ∧
    raw.get? "type" = some (.text tag) ∧ ∀ p ∈ properties, p.Accepted raw

/-- What a form keeps of a property, as a declaration would say it. -/
def FieldForm.property? (form : FieldForm) : Property → Option Json
  | .to =>
    match form with
    | .relation target _ _ => some (.text target)
    | _ => none
  | .mode =>
    match form with
    | .relation _ c _ | .select _ c | .file c _ => some (.text c.name)
    | _ => none
  | .required =>
    match form with
    | .plainText r | .richText r | .email r | .url r | .number r | .relation _ _ r | .dateTime r
    | .file _ r => some (.bool r)
    | _ => none
  | .options =>
    match form with
    | .select options _ => some (.array (options.map .text))
    | _ => none

/-- What holds of a property of which nothing is said. -/
def Property.default? : Property → Option Json
  | .required => some (.bool false)
  | _ => none

/-- A field has the name, the kind and, for each property of the kind, the value that are declared.
It has nothing of any other property. -/
structure Field.Keeps (f : Field) (raw : Json) : Prop where
  name_eq : raw.get? "name" = some (.text f.name)
  kind_eq : ∃ tag properties, (tag, f.kind, properties) ∈ vocabulary ∧
    raw.get? "type" = some (.text tag) ∧ ∀ p, f.form.property? p =
      if p ∈ properties then (raw.get? p.key).or p.default? else none

/-! ## Properties in their order -/

/-- The properties of a kind in the order in which they are read. -/
def Kind.properties : Kind → List Property
  | plainText | richText | email | url | number | dateTime => [.required]
  | relation => [.to, .mode, .required]
  | select => [.options, .mode]
  | file => [.mode, .required]
  | autoDateTime | boolean | json | geoPoint | password => []

theorem mem_vocabulary_iff (tag : String) (kind : Kind) (properties : List Property) :
    (tag, kind, properties) ∈ vocabulary ↔ tag = kind.tag ∧ properties = kind.properties := by
  cases kind <;> simp [vocabulary, Kind.tag, Kind.properties]

namespace Declaration

/-- A property read for what is said of it, and not for what is made of that. -/
def said : Property → Option Json → Except PropertyFault Json
  | .to, stored => (someText stored).map .text
  | .mode, stored => (cardinality stored).map fun c => .text c.name
  | .required, stored => (flag stored).map .bool
  | .options, stored => (someTexts stored).map fun options => .array (options.map .text)

variable (members : List (String × Json))

/-- A form keeps of the properties of its kind what is said of them one after the other. -/
theorem form_said (kind : Kind) :
    (form members kind).map (fun f => kind.properties.map f.property?) =
      (kind.properties.mapM fun p => named p (said p) members).map (List.map some) := by
  cases kind with
  | plainText | richText | email | url | number | dateTime =>
    simp only [form, Kind.properties, List.mapM_cons, List.mapM_nil, named, said]
    cases flag (members.lookup Property.required.key) <;> rfl
  | autoDateTime | boolean | json | geoPoint | password => rfl
  | relation =>
    simp only [form, Kind.properties, List.mapM_cons, List.mapM_nil, named, said]
    cases someText (members.lookup Property.to.key) with
    | error e => rfl
    | ok target =>
      cases cardinality (members.lookup Property.mode.key) with
      | error e => rfl
      | ok mode => cases flag (members.lookup Property.required.key) <;> rfl
  | select =>
    simp only [form, Kind.properties, List.mapM_cons, List.mapM_nil, named, said]
    cases someTexts (members.lookup Property.options.key) with
    | error e => rfl
    | ok options => cases cardinality (members.lookup Property.mode.key) <;> rfl
  | file =>
    simp only [form, Kind.properties, List.mapM_cons, List.mapM_nil, named, said]
    cases cardinality (members.lookup Property.mode.key) with
    | error e => rfl
    | ok mode => cases flag (members.lookup Property.required.key) <;> rfl

/-- What may be said of a property is what can be read of it. -/
theorem accepted_iff (p : Property) :
    p.Accepted (.object members) ↔ ∃ j, said p (members.lookup p.key) = .ok j := by
  match p with
  | .to =>
    simp only [said, Decode.map_ok_iff, someText_ok_iff]
    constructor
    · rintro ⟨target, htarget⟩
      exact ⟨_, target, htarget, rfl⟩
    · rintro ⟨_, target, htarget, -⟩
      exact ⟨target, htarget⟩
  | .mode =>
    simp only [said, Decode.map_ok_iff, cardinality_ok_iff]
    constructor
    · rintro (hmode | hmode)
      · exact ⟨_, .single, hmode, rfl⟩
      · exact ⟨_, .multiple, hmode, rfl⟩
    · rintro ⟨_, mode, hmode, -⟩
      cases mode with
      | single => exact .inl hmode
      | multiple => exact .inr hmode
  | .required =>
    simp only [said, Decode.map_ok_iff, flag_ok_iff]
    constructor
    · rintro (hnone | ⟨b, hb⟩)
      · exact ⟨_, false, .inr ⟨hnone, rfl⟩, rfl⟩
      · exact ⟨_, b, .inl hb, rfl⟩
    · rintro ⟨_, b, hb | ⟨hnone, -⟩, -⟩
      · exact .inr ⟨b, hb⟩
      · exact .inl hnone
  | .options =>
    simp only [said, Decode.map_ok_iff, someTexts_ok_iff]
    constructor
    · rintro ⟨options, hoptions⟩
      exact ⟨_, options, hoptions, rfl⟩
    · rintro ⟨_, options, hoptions, -⟩
      exact ⟨options, hoptions⟩

/-- What is read of a property is what is stored under its key, or else its default. -/
theorem or_default_of_said {p : Property} {stored : Option Json} {j : Json}
    (h : said p stored = .ok j) : stored.or p.default? = some j := by
  match p with
  | .to =>
    obtain ⟨target, htarget, rfl⟩ := Decode.map_ok_iff.mp h
    rw [((someText_ok_iff _ _).mp htarget).1]
    rfl
  | .mode =>
    obtain ⟨mode, hmode, rfl⟩ := Decode.map_ok_iff.mp h
    rw [(cardinality_ok_iff _ _).mp hmode]
    rfl
  | .required =>
    obtain ⟨b, hb, rfl⟩ := Decode.map_ok_iff.mp h
    rcases (flag_ok_iff _ _).mp hb with rfl | ⟨rfl, rfl⟩
    · rfl
    · rfl
  | .options =>
    obtain ⟨options, hoptions, rfl⟩ := Decode.map_ok_iff.mp h
    rw [((someTexts_ok_iff _ _).mp hoptions).1]
    rfl

/-- A form has nothing of a property that its kind does not have. -/
theorem property?_eq_none {form : FieldForm} {p : Property} (h : p ∉ form.kind.properties) :
    form.property? p = none := by
  cases form with
  | autoDateTime | boolean | json | geoPoint | password => cases p <;> rfl
  | _ =>
    simp only [FieldForm.kind, Kind.properties, List.mem_cons, List.not_mem_nil, or_false, not_or]
      at h
    cases p <;> simp_all [FieldForm.property?]

variable {members}

/-- The properties of a kind are read exactly if all that is said of them may be said. -/
theorem exists_form_iff (kind : Kind) : (∃ form, Declaration.form members kind = .ok form) ↔
    ∀ p ∈ kind.properties, p.Accepted (.object members) := by
  have hread : (∃ form, Declaration.form members kind = .ok form) ↔
      ∃ js, (kind.properties.mapM fun p => named p (said p) members) = .ok js := by
    have hsaid := form_said members kind
    cases hform : Declaration.form members kind <;>
      cases hjs : kind.properties.mapM fun p => named p (said p) members <;>
      simp_all [Except.map]
  rw [hread]
  simp only [mapM_ok_iff, exists_forall₂_iff, named_ok_iff, accepted_iff]

theorem property?_of_form {kind : Kind} {form : FieldForm}
    (h : Declaration.form members kind = .ok form) (p : Property) : form.property? p =
      if p ∈ kind.properties then (members.lookup p.key).or p.default? else none := by
  split
  · rename_i hp
    have hsaid := form_said members kind
    rw [h] at hsaid
    obtain ⟨js, hjs, hkept⟩ := Decode.map_ok_iff.mp hsaid.symm
    have hread := mapM_ok_iff.mp hjs
    -- What the form keeps is, property by property, what is read.
    have hsame : ∀ q ∈ kind.properties, (named q (said q) members).toOption = form.property? q := by
      refine List.map_inj_left.mp (Eq.trans (map_eq_of_forall₂ (hread.imp ?_)) hkept)
      intro q j hj
      rw [hj]
      rfl
    obtain ⟨j, -, hj⟩ := exists_partner hread hp
    rw [← hsame p hp, hj, or_default_of_said ((named_ok_iff _ _ _ _).mp hj)]
    rfl
  · rename_i hp
    apply property?_eq_none
    rw [kind_of_form h]
    exact hp

end Declaration

/-- Two forms of one kind that keep the same are one form. -/
theorem FieldForm.eq_of_property? {a b : FieldForm} (hkind : a.kind = b.kind)
    (h : ∀ p, a.property? p = b.property? p) : a = b := by
  have hto := h .to
  have hmode := h .mode
  have hrequired := h .required
  have hoptions := h .options
  have sameMode {c c' : Cardinality} (hc : some (Json.text c.name) = some (.text c'.name)) :
      c = c' := Cardinality.name_injective (Json.text.inj (Option.some.inj hc))
  cases a with
  | plainText | richText | email | url | number | dateTime =>
    cases b <;> cases hkind
    cases hrequired
    rfl
  | autoDateTime | boolean | json | geoPoint | password =>
    cases b <;> cases hkind
    rfl
  | relation target c required =>
    cases b <;> cases hkind
    cases hto
    cases hrequired
    rw [sameMode hmode]
  | select options c =>
    cases b <;> cases hkind
    have htexts := Json.array.inj (Option.some.inj hoptions)
    rw [List.map_injective_iff.mpr (fun _ _ => Json.text.inj) htexts, sameMode hmode]
  | file c required =>
    cases b <;> cases hkind
    cases hrequired
    rw [sameMode hmode]

/-! ## The law -/

namespace Field

variable {raw : Json} {f g : Field}

theorem declared_of_ok (h : ofDeclaration raw = .ok f) : f.kind.IsDeclaredBy raw ∧ f.Keeps raw := by
  obtain ⟨members, rfl, hname, hkind, hform⟩ := (ofDeclaration_ok_iff raw f).mp h
  have hnamed := (Declaration.fieldName_ok_iff _ _).mp hname
  have htyped := (Declaration.fieldKind_ok_iff _ _ _).mp hkind
  have hlisted := (mem_vocabulary_iff f.kind.tag f.kind _).mpr ⟨rfl, rfl⟩
  have haccepted := (Declaration.exists_form_iff f.kind).mp ⟨f.form, hform⟩
  exact ⟨⟨⟨members, rfl⟩, ⟨f.name, hnamed⟩, f.kind.tag, _, hlisted, htyped, haccepted⟩,
    hnamed.1, f.kind.tag, _, hlisted, htyped, Declaration.property?_of_form hform⟩

theorem ok_of_declared {kind : Kind} (h : kind.IsDeclaredBy raw) :
    ∃ f, ofDeclaration raw = .ok f := by
  obtain ⟨⟨members, rfl⟩, ⟨name, hname⟩, tag, properties, hlisted, htype, haccepted⟩ := h
  obtain ⟨rfl, rfl⟩ := (mem_vocabulary_iff tag kind properties).mp hlisted
  obtain ⟨form, hform⟩ := (Declaration.exists_form_iff kind).mpr haccepted
  obtain rfl : form.kind = kind := Declaration.kind_of_form hform
  refine ⟨⟨name, form⟩, (ofDeclaration_ok_iff _ _).mpr ⟨members, rfl, ?_, ?_, hform⟩⟩
  · exact (Declaration.fieldName_ok_iff _ _).mpr hname
  · exact (Declaration.fieldKind_ok_iff _ _ _).mpr htype

/-- Nothing of a field is left open by what is said. -/
theorem Keeps.unique (hf : f.Keeps raw) (hg : g.Keeps raw) : f = g := by
  obtain ⟨tag, properties, hlisted, htype, hkept⟩ := hf.kind_eq
  obtain ⟨tag', properties', hlisted', htype', hkept'⟩ := hg.kind_eq
  obtain ⟨rfl, rfl⟩ := (mem_vocabulary_iff _ _ _).mp hlisted
  obtain ⟨rfl, rfl⟩ := (mem_vocabulary_iff _ _ _).mp hlisted'
  rw [htype, Option.some.injEq, Json.text.injEq] at htype'
  have hkind : f.kind = g.kind := Kind.tag_injective htype'
  have hname : f.name = g.name := by
    have hnames := hf.name_eq.symm.trans hg.name_eq
    exact Json.text.inj (Option.some.inj hnames)
  have hform : f.form = g.form := by
    apply FieldForm.eq_of_property? hkind
    intro p
    rw [hkept, hkept', hkind]
  obtain ⟨name, form⟩ := f
  obtain ⟨name', form'⟩ := g
  rw [Field.mk.injEq]
  exact ⟨hname, hform⟩

end Field

/-- Exactly the values in the words of the vocabulary are read as fields, and the field that is
read keeps what is said, neither more nor less. -/
theorem a_field_is_read_as_it_is_declared (raw : Json) :
    ((∃ f, Field.ofDeclaration raw = .ok f) ↔ ∃ kind : Kind, kind.IsDeclaredBy raw) ∧
      ∀ f, Field.ofDeclaration raw = .ok f ↔ f.kind.IsDeclaredBy raw ∧ f.Keeps raw := by
  constructor
  · constructor
    · exact fun ⟨f, hf⟩ => ⟨f.kind, (Field.declared_of_ok hf).1⟩
    · exact fun ⟨_, h⟩ => Field.ok_of_declared h
  · intro f
    constructor
    · exact Field.declared_of_ok
    · rintro ⟨hdeclared, hkeeps⟩
      obtain ⟨g, hg⟩ := Field.ok_of_declared hdeclared
      rw [hg, (Field.declared_of_ok hg).2.unique hkeeps]

/-- An option may stand twice, and a select has no flag that could be wrong. -/
example : Field.ofDeclaration (.object [("name", .text "color"), ("type", .text "select"),
      ("required", .null), ("options", .array [.text "red", .text "blue", .text "red"]),
      ("mode", .text "single")]) =
    .ok ⟨"color", .select ["red", "blue", "red"] .single⟩ := rfl

end StoreClient
