-- The law of the faults of a field: what is reported of a declaration is true of it, and nothing
-- that is looked at before is at fault. First comes the value itself, then its name, its type and
-- the properties of the kind in their order; of a property, first whether it is there, then its
-- type, then what it says.
import StoreClient.Proofs.FieldVocabulary

namespace StoreClient

/-! ## What a fault says -/

/-- The type of a value that is what a property must be. -/
def Expected.type : Expected → JsonType
  | .boolean => .boolean
  | .string => .string
  | .texts => .array

/-- What a property must be. -/
def Property.expected : Property → Expected
  | .to | .mode => .string
  | .required => .boolean
  | .options => .texts

/-- The fault is one that a property has by what is stored for it. -/
inductive PropertyFault.Describes : Property → Option Json → PropertyFault → Prop
  | missing {p : Property} (h : p ≠ .required) : Describes p none .missing
  | wrongType {p : Property} {j : Json} (h : j.type ≠ p.expected.type) :
      Describes p (some j) (.wrongType j.type p.expected)
  | emptyText {p : Property} (h : p.expected = .string) : Describes p (some (.text "")) .emptyText
  | notAMode {value : String} (hne : value ≠ "") (h : value ∉ ["single", "multiple"]) :
      Describes .mode (some (.text value)) (.notAMode value)
  | emptyList : Describes .options (some (.array [])) .emptyList
  | wrongElement {before : List String} {value : Json} {after : List Json}
      (hbefore : ∀ s ∈ before, s ≠ "") (h : value.type ≠ .string) :
      Describes .options (some (.array (before.map .text ++ value :: after))) (.wrongElement value)
  | emptyElement {before : List String} {after : List Json} (hbefore : ∀ s ∈ before, s ≠ "") :
      Describes .options (some (.array (before.map .text ++ .text "" :: after))) .emptyElement

/-- The fault is one that a declaration has by what is stored for its name. -/
inductive FieldFault.DescribesName : Option Json → FieldFault → Prop
  | missing : DescribesName none .missingName
  | notText {j : Json} (h : j.type ≠ .string) : DescribesName (some j) (.nameNotText j.type)
  | empty : DescribesName (some (.text "")) .emptyName

/-- The fault is one that the declaration of a field has by what is stored for its type. -/
inductive FieldFault.DescribesType (field : String) : Option Json → FieldFault → Prop
  | missing : DescribesType field none (.missingKind field)
  | notText {j : Json} (h : j.type ≠ .string) :
      DescribesType field (some j) (.kindNotText field j.type)
  | empty : DescribesType field (some (.text "")) (.emptyKind field)
  | unknown {tag : String} (hne : tag ≠ "")
      (h : ∀ kind properties, (tag, kind, properties) ∉ vocabulary) :
      DescribesType field (some (.text tag)) (.unknownKind field tag)

/-- The value gives a field its name. -/
def Json.GivesName (raw : Json) (name : String) : Prop :=
  raw.get? "name" = some (.text name) ∧ name ≠ ""

/-- The fault is true of a value, and it is the first one: what is looked at before is in order. -/
inductive FirstFault (raw : Json) : FieldFault → Prop
  | value (h : raw.type ≠ .object) : FirstFault raw (.notAnObject raw.type)
  | name {fault : FieldFault} (hobject : raw.type = .object)
      (h : fault.DescribesName (raw.get? "name")) : FirstFault raw fault
  | type {field : String} {fault : FieldFault} (hname : raw.GivesName field)
      (h : fault.DescribesType field (raw.get? "type")) : FirstFault raw fault
  | property {field tag : String} {kind : Kind} {before after : List Property} {p : Property}
      {fault : PropertyFault} (hname : raw.GivesName field)
      (htype : raw.get? "type" = some (.text tag))
      (hlisted : (tag, kind, before ++ p :: after) ∈ vocabulary)
      (hbefore : ∀ q ∈ before, q.Accepted raw) (h : fault.Describes p (raw.get? p.key)) :
      FirstFault raw (.property field kind p fault)

/-! ## The faults of a property -/

theorem Json.type_eq_string_iff (j : Json) : j.type = .string ↔ ∃ s, j = .text s := by
  cases j <;> simp [type]

theorem Json.type_ne_string {j : Json} (h : ∀ s, j ≠ .text s) : j.type ≠ .string := by
  rw [ne_eq, type_eq_string_iff, not_exists]
  exact h

theorem Json.type_eq_object_iff (j : Json) : j.type = .object ↔ ∃ members, j = .object members := by
  cases j <;> simp [type]

/-- A tag stands for no kind exactly if it is not in the vocabulary. -/
theorem Kind.ofTag?_eq_none_iff (tag : String) : ofTag? tag = none ↔
    ∀ kind properties, (tag, kind, properties) ∉ vocabulary := by
  simp only [Option.eq_none_iff_forall_ne_some, ne_eq, ofTag?_eq_some_iff, mem_vocabulary_iff,
    not_and]
  constructor
  · intro h kind _ htag
    exact absurd htag.symm (h kind)
  · intro h kind htag
    exact h kind kind.properties htag.symm rfl

theorem Cardinality.ofName?_eq_none_iff (name : String) :
    ofName? name = none ↔ name ∉ ["single", "multiple"] := by
  simp only [Option.eq_none_iff_forall_ne_some, ne_eq, ofName?_eq_some_iff]
  constructor
  · intro h hmem
    simp only [List.mem_cons, List.not_mem_nil, or_false] at hmem
    rcases hmem with rfl | rfl
    · exact h .single rfl
    · exact h .multiple rfl
  · rintro h c rfl
    apply h
    cases c <;> decide

namespace Declaration

variable {stored : Option Json} {fault : PropertyFault}

theorem describes_of_flag (h : flag stored = .error fault) : fault.Describes .required stored := by
  unfold flag at h
  split at h
  · cases h
  · cases h
  · rename_i j hj
    cases h
    apply PropertyFault.Describes.wrongType
    cases j with
    | bool b => exact absurd rfl (hj b)
    | _ => rintro ⟨⟩

/-- A text is read alike for a target and for a mode. -/
theorem describes_of_someText {p : Property} (hp : p.expected = .string)
    (h : someText stored = .error fault) : fault.Describes p stored := by
  unfold someText at h
  split at h
  · cases h
    apply PropertyFault.Describes.missing
    rintro rfl
    cases hp
  · split at h
    · rename_i s hs
      cases h
      rw [String.isEmpty_iff] at hs
      rw [hs]
      exact .emptyText hp
    · cases h
  · rename_i j hj
    cases h
    rw [← hp]
    apply PropertyFault.Describes.wrongType
    rw [hp]
    intro htype
    obtain ⟨s, rfl⟩ := j.type_eq_string_iff.mp htype
    exact hj s rfl

theorem describes_of_cardinality (h : cardinality stored = .error fault) :
    fault.Describes .mode stored := by
  unfold cardinality at h
  split at h
  · rename_i hs
    cases h
    exact describes_of_someText rfl hs
  · rename_i s hs
    obtain ⟨rfl, hne⟩ := (someText_ok_iff _ _).mp hs
    split at h
    · cases h
    · rename_i hmode
      cases h
      exact .notAMode hne ((Cardinality.ofName?_eq_none_iff s).mp hmode)

theorem element_error_iff (j : Json) : element j = .error fault ↔
    j = .text "" ∧ fault = .emptyElement ∨ j.type ≠ .string ∧ fault = .wrongElement j := by
  cases j with
  | text s =>
    rw [element]
    by_cases hs : s = ""
    · simp [hs, Json.type, eq_comm (a := fault)]
    · simp [hs, Json.type]
  | _ => simp [element, Json.type, eq_comm (a := fault)]

/-- The first text of a list that is at fault, with the texts before it. -/
theorem elements_error_iff (items : List Json) : elements items = .error fault ↔
    ∃ (before : List String) (j : Json) (after : List Json),
      items = before.map .text ++ j :: after ∧ (∀ s ∈ before, s ≠ "") ∧
        element j = .error fault := by
  have htexts (before : List Json) : (∀ x ∈ before, ∃ s, element x = .ok s) ↔
      ∃ texts : List String, before = texts.map .text ∧ ∀ s ∈ texts, s ≠ "" := by
    simp only [← exists_forall₂_iff, ← mapM_ok_iff, ← elements_eq_mapM, elements_ok_iff]
  rw [elements_eq_mapM, mapM_error_iff]
  simp only [htexts]
  constructor
  · rintro ⟨_, j, after, rfl, ⟨texts, rfl, htexts⟩, hj⟩
    exact ⟨texts, j, after, rfl, htexts, hj⟩
  · rintro ⟨texts, j, after, rfl, htexts, hj⟩
    exact ⟨_, j, after, rfl, ⟨texts, rfl, htexts⟩, hj⟩

theorem someTexts_of_ne_nil {items : List Json} (h : items ≠ []) :
    someTexts (some (.array items)) = elements items := by
  cases items with
  | nil => exact absurd rfl h
  | cons j rest => rfl

theorem describes_of_someTexts (h : someTexts stored = .error fault) :
    fault.Describes .options stored := by
  unfold someTexts at h
  split at h
  · cases h
    exact .missing (by decide)
  · cases h
    exact .emptyList
  · obtain ⟨before, j, after, rfl, hbefore, hj⟩ := (elements_error_iff _).mp h
    rcases (element_error_iff j).mp hj with ⟨rfl, rfl⟩ | ⟨htype, rfl⟩
    · exact .emptyElement hbefore
    · exact .wrongElement hbefore htype
  · rename_i j _ hj
    cases h
    apply PropertyFault.Describes.wrongType
    cases j with
    | array items => exact absurd rfl (hj items)
    | _ => rintro ⟨⟩

/-- A property is refused exactly for the fault that it has. -/
theorem said_error_iff (p : Property) :
    said p stored = .error fault ↔ fault.Describes p stored := by
  constructor
  · intro h
    match p with
    | .to => exact describes_of_someText rfl (Decode.map_error_iff.mp h)
    | .mode => exact describes_of_cardinality (Decode.map_error_iff.mp h)
    | .required => exact describes_of_flag (Decode.map_error_iff.mp h)
    | .options => exact describes_of_someTexts (Decode.map_error_iff.mp h)
  · intro h
    cases h with
    | missing h =>
      cases p with
      | required => exact absurd rfl h
      | _ => rfl
    | @wrongType _ j h =>
      match p with
      | .to | .mode =>
        cases j with
        | text s => exact absurd rfl h
        | _ => rfl
      | .required =>
        cases j with
        | bool b => exact absurd rfl h
        | _ => rfl
      | .options =>
        cases j with
        | array items => exact absurd rfl h
        | _ => rfl
    | emptyText h =>
      match p with
      | .to | .mode => rfl
      | .required | .options => cases h
    | @notAMode value hne h =>
      have htext : someText (some (.text value)) = .ok value := (someText_ok_iff _ _).mpr ⟨rfl, hne⟩
      have hmode := (Cardinality.ofName?_eq_none_iff value).mpr h
      simp only [said, cardinality, htext, hmode, Except.map]
    | emptyList => rfl
    | @wrongElement before value after hbefore h =>
      refine Decode.map_error_iff.mpr ((someTexts_of_ne_nil (by simp)).trans ?_)
      rw [elements_error_iff]
      exact ⟨before, value, after, rfl, hbefore, (element_error_iff _).mpr (.inr ⟨h, rfl⟩)⟩
    | @emptyElement before after hbefore =>
      refine Decode.map_error_iff.mpr ((someTexts_of_ne_nil (by simp)).trans ?_)
      rw [elements_error_iff]
      exact ⟨before, .text "", after, rfl, hbefore, (element_error_iff _).mpr (.inl ⟨rfl, rfl⟩)⟩

/-! ## The faults of a declaration -/

variable {members : List (String × Json)}

/-- A form is refused for the first of its properties that has a fault. -/
theorem form_error_iff (kind : Kind) (p : Property) :
    Declaration.form members kind = .error (p, fault) ↔ ∃ before after,
      kind.properties = before ++ p :: after ∧ (∀ q ∈ before, q.Accepted (.object members)) ∧
      fault.Describes p (members.lookup p.key) := by
  have hsaid : Declaration.form members kind = .error (p, fault) ↔
      (kind.properties.mapM fun p => named p (said p) members) = .error (p, fault) := by
    rw [← Decode.map_error_iff (f := fun f : FieldForm => kind.properties.map f.property?),
      form_said, Decode.map_error_iff]
  have hnamed (q : Property) : named q (said q) members = .error (p, fault) ↔
      q = p ∧ fault.Describes q (members.lookup q.key) := by
    rw [← said_error_iff]
    unfold named
    cases said q (members.lookup q.key) <;> simp
  rw [hsaid, mapM_error_iff]
  simp only [hnamed, named_ok_iff, ← accepted_iff]
  constructor
  · rintro ⟨before, _, after, heq, hbefore, rfl, h⟩
    exact ⟨before, after, heq, hbefore, h⟩
  · rintro ⟨before, after, heq, hbefore, h⟩
    exact ⟨before, p, after, heq, hbefore, rfl, h⟩

theorem fieldName_error_iff (fault : FieldFault) :
    fieldName members = .error fault ↔ fault.DescribesName (members.lookup "name") := by
  unfold fieldName
  constructor
  · intro h
    split at h
    · rename_i hstored
      cases h
      rw [hstored]
      exact .missing
    · rename_i s hstored
      split at h
      · rename_i hs
        cases h
        rw [String.isEmpty_iff] at hs
        rw [hstored, hs]
        exact .empty
      · cases h
    · rename_i j hj hstored
      cases h
      rw [hstored]
      exact .notText (Json.type_ne_string hj)
  · intro h
    generalize members.lookup "name" = stored at h ⊢
    cases h with
    | missing | empty => rfl
    | @notText j h =>
      cases j with
      | text s => exact absurd rfl h
      | _ => rfl

theorem fieldKind_error_iff (field : String) (fault : FieldFault) :
    fieldKind field members = .error fault ↔ fault.DescribesType field (members.lookup "type") := by
  unfold fieldKind
  constructor
  · intro h
    split at h
    · rename_i hstored
      cases h
      rw [hstored]
      exact .missing
    · rename_i tag hstored
      rw [hstored]
      split at h
      · rename_i htag
        cases h
        rw [String.isEmpty_iff] at htag
        rw [htag]
        exact .empty
      · rename_i htag
        split at h
        · cases h
        · rename_i hunknown
          cases h
          rw [String.isEmpty_iff] at htag
          exact .unknown htag ((Kind.ofTag?_eq_none_iff tag).mp hunknown)
    · rename_i j hj hstored
      cases h
      rw [hstored]
      exact .notText (Json.type_ne_string hj)
  · intro h
    generalize members.lookup "type" = stored at h ⊢
    cases h with
    | missing | empty => rfl
    | @notText j h =>
      cases j with
      | text s => exact absurd rfl h
      | _ => rfl
    | @unknown tag hne h =>
      rw [ne_eq, ← String.isEmpty_iff] at hne
      simp only [if_neg hne, (Kind.ofTag?_eq_none_iff tag).mpr h]

end Declaration

/-! ## The law -/

namespace Json.GivesName

variable {raw : Json} {a b : String}

theorem is_object (h : raw.GivesName a) : ∃ members, raw = .object members := by
  cases raw with
  | object members => exact ⟨members, rfl⟩
  | _ => nomatch h.1

theorem unique (ha : raw.GivesName a) (hb : raw.GivesName b) : a = b := by
  have hsame := ha.1.symm.trans hb.1
  exact Json.text.inj (Option.some.inj hsame)

end Json.GivesName

namespace FirstFault

variable {raw : Json} {fault : FieldFault}

theorem of_error (h : Field.ofDeclaration raw = .error fault) : FirstFault raw fault := by
  cases raw with
  | object members =>
    simp only [Field.ofDeclaration, bind, Except.bind, pure, Except.pure] at h
    cases hname : Declaration.fieldName members with
    | error e =>
      rw [hname] at h
      cases h
      exact .name rfl ((Declaration.fieldName_error_iff _).mp hname)
    | ok field =>
      have hgiven := (Declaration.fieldName_ok_iff _ _).mp hname
      cases hkind : Declaration.fieldKind field members with
      | error e =>
        simp only [hname, hkind] at h
        cases h
        exact .type hgiven ((Declaration.fieldKind_error_iff _ _).mp hkind)
      | ok kind =>
        cases hform : Declaration.form members kind with
        | error e =>
          obtain ⟨p, e⟩ := e
          simp only [hname, hkind, hform] at h
          cases h
          obtain ⟨before, after, heq, hbefore, he⟩ := (Declaration.form_error_iff kind p).mp hform
          have htype := (Declaration.fieldKind_ok_iff _ _ _).mp hkind
          have hlisted := (mem_vocabulary_iff _ _ _).mpr ⟨rfl, heq.symm⟩
          exact .property hgiven htype hlisted hbefore he
        | ok form => simp [hname, hkind, hform] at h
  | _ =>
    cases h
    exact .value (by rintro ⟨⟩)

theorem ofDeclaration_eq (h : FirstFault raw fault) : Field.ofDeclaration raw = .error fault := by
  cases h with
  | value h =>
    cases raw with
    | object members => exact absurd rfl h
    | _ => rfl
  | name hobject h =>
    obtain ⟨members, rfl⟩ := raw.type_eq_object_iff.mp hobject
    simp only [Field.ofDeclaration, (Declaration.fieldName_error_iff _).mpr h, bind, Except.bind]
  | @type field _ hname h =>
    obtain ⟨members, rfl⟩ := hname.is_object
    have hread : Declaration.fieldName members = .ok field :=
      (Declaration.fieldName_ok_iff _ _).mpr hname
    simp only [Field.ofDeclaration, hread, (Declaration.fieldKind_error_iff _ _).mpr h, bind,
      Except.bind]
  | @property field tag kind before after p e hname htype hlisted hbefore h =>
    obtain ⟨members, rfl⟩ := hname.is_object
    obtain ⟨rfl, hproperties⟩ := (mem_vocabulary_iff _ _ _).mp hlisted
    have hread : Declaration.fieldName members = .ok field :=
      (Declaration.fieldName_ok_iff _ _).mpr hname
    have hkind : Declaration.fieldKind field members = .ok kind :=
      (Declaration.fieldKind_ok_iff _ _ _).mpr htype
    have hform : Declaration.form members kind = .error (p, e) :=
      (Declaration.form_error_iff kind p).mpr ⟨before, after, hproperties.symm, hbefore, h⟩
    simp only [Field.ofDeclaration, hread, hkind, hform, bind, Except.bind]

/-- A fault has the name of the field whenever there is one. -/
theorem field?_eq_some_iff (h : FirstFault raw fault) (name : String) :
    fault.field? = some name ↔ raw.GivesName name := by
  have hsome {field : String} (hname : raw.GivesName field) :
      some field = some name ↔ raw.GivesName name := by
    constructor
    · rintro ⟨⟩
      exact hname
    · intro hname'
      rw [hname.unique hname']
  cases h with
  | value h =>
    constructor
    · rintro ⟨⟩
    · intro hname
      exact absurd (raw.type_eq_object_iff.mpr hname.is_object) h
  | name _ h =>
    unfold Json.GivesName
    generalize raw.get? "name" = stored at h
    cases h with
    | missing => simp [FieldFault.field?]
    | notText h =>
      simp only [FieldFault.field?, reduceCtorEq, false_iff]
      rintro ⟨⟨⟩, -⟩
      exact h rfl
    | empty =>
      simp only [FieldFault.field?, reduceCtorEq, false_iff]
      rintro ⟨⟨⟩, hne⟩
      exact hne rfl
  | type hname h =>
    generalize raw.get? "type" = stored at h
    cases h <;> exact hsome hname
  | property hname => exact hsome hname

end FirstFault

/-- A value that declares no field is refused for the first thing that is wrong with it, and the
fault has the name of the field whenever a name is given. -/
theorem a_field_fault_is_true_and_the_first (raw : Json) (fault : FieldFault) :
    Field.ofDeclaration raw = .error fault ↔
      FirstFault raw fault ∧ ∀ name, fault.field? = some name ↔ raw.GivesName name := by
  constructor
  · intro h
    have hfirst := FirstFault.of_error h
    exact ⟨hfirst, hfirst.field?_eq_some_iff⟩
  · exact fun h => h.1.ofDeclaration_eq

/-- The mode is wrong as well, but the target is looked at before. -/
example : Field.ofDeclaration (.object [("mode", .text "several"), ("type", .text "relation"),
      ("name", .text "owner"), ("to", .text "")]) =
    .error (.property "owner" .relation .to .emptyText) := rfl

end StoreClient
