-- What a declaration must be to declare a field, and what a collection must be to declare
-- its fields. Each reading function gets the exact condition under which it gives a
-- result, so no later proof opens one of them.
import Mathlib.Data.List.Forall2
import StoreClient.Collection.Basic

namespace StoreClient

/-! ## Two lists side by side -/

section

variable {α β : Type} {r : α → β → Prop} {p : α → Prop} {q : β → Prop} {as : List α} {bs : List β}

theorem exists_mem_iff_of_forall₂ (h : List.Forall₂ r as bs) (hpq : ∀ a b, r a b → (p a ↔ q b)) :
    (∃ a ∈ as, p a) ↔ ∃ b ∈ bs, q b := by
  induction h with
  | nil => simp
  | cons hab _ ih => simp only [List.exists_mem_cons_iff, hpq _ _ hab, ih]

theorem forall_mem_iff_of_forall₂ (h : List.Forall₂ r as bs) (hpq : ∀ a b, r a b → (p a ↔ q b)) :
    (∀ a ∈ as, p a) ↔ ∀ b ∈ bs, q b := by
  induction h with
  | nil => simp
  | cons hab _ ih => simp only [List.forall_mem_cons, hpq _ _ hab, ih]

/-- An element has its partner in the other list. -/
theorem exists_partner (h : List.Forall₂ r as bs) {a : α} (ha : a ∈ as) : ∃ b ∈ bs, r a b := by
  induction h with
  | nil => cases ha
  | @cons x y _ _ hxy _ ih =>
    rcases List.mem_cons.mp ha with rfl | ha
    · exact ⟨y, List.mem_cons_self, hxy⟩
    · obtain ⟨b, hb, hr⟩ := ih ha
      exact ⟨b, List.mem_cons_of_mem _ hb, hr⟩

/-- What holds of all partners holds of each beside its element. -/
theorem forall₂_and_right (h : List.Forall₂ r as bs) (hq : ∀ b ∈ bs, q b) :
    List.Forall₂ (fun a b => r a b ∧ q b) as bs := by
  induction h with
  | nil => exact .nil
  | cons hab _ ih =>
    rw [List.forall_mem_cons] at hq
    exact .cons ⟨hab, hq.1⟩ (ih hq.2)

/-- What partners have in common reads the same from both lists. -/
theorem map_eq_of_forall₂ {γ : Type} {f : α → γ} {g : β → γ}
    (h : List.Forall₂ (fun a b => f a = g b) as bs) : as.map f = bs.map g := by
  rw [← List.forall₂_eq_eq_eq, List.forall₂_map_left_iff, List.forall₂_map_right_iff]
  exact h

theorem filterMap_eq_of_forall₂ {γ : Type} {f : α → Option γ} {g : β → Option γ}
    (h : List.Forall₂ (fun a b => f a = g b) as bs) : as.filterMap f = bs.filterMap g := by
  have hflat := congrArg (List.filterMap fun o => o) (map_eq_of_forall₂ h)
  simpa only [List.filterMap_map, Function.comp_def] using hflat

/-- Every element has a partner exactly when the whole list has a list of partners. -/
theorem exists_forall₂_iff : (∃ bs, List.Forall₂ r as bs) ↔ ∀ a ∈ as, ∃ b, r a b := by
  induction as with
  | nil => simp
  | cons a rest ih =>
    rw [List.forall_mem_cons, ← ih]
    constructor
    · rintro ⟨_, h⟩
      obtain ⟨b, bs, hb, hbs, -⟩ := List.forall₂_cons_left_iff.mp h
      exact ⟨⟨b, hb⟩, bs, hbs⟩
    · rintro ⟨⟨b, hb⟩, bs, hbs⟩
      exact ⟨b :: bs, .cons hb hbs⟩

end

/-! ## Reading one thing after the other -/

section

variable {α β ε : Type} {f : α → Except ε β}

theorem mapM_ok_iff {as : List α} {bs : List β} :
    as.mapM f = .ok bs ↔ List.Forall₂ (fun a b => f a = .ok b) as bs := by
  induction as generalizing bs with
  | nil => simp [pure, Except.pure, eq_comm]
  | cons a as ih =>
    rw [List.mapM_cons, List.forall₂_cons_left_iff]
    simp only [← ih]
    cases f a with
    | error e => simp [bind, Except.bind]
    | ok b => cases as.mapM f <;> simp [bind, Except.bind, pure, Except.pure, eq_comm]

/-- The first element with some property is at the head, or else it is the first one behind it. -/
theorem exists_first_cons {p q : α → Prop} {a : α} {as : List α} :
    (∃ before x after, a :: as = before ++ x :: after ∧ (∀ y ∈ before, p y) ∧ q x) ↔
      q a ∨ p a ∧ ∃ before x after, as = before ++ x :: after ∧ (∀ y ∈ before, p y) ∧ q x := by
  constructor
  · rintro ⟨before, x, after, heq, hbefore, hx⟩
    cases before with
    | nil =>
      cases heq
      exact .inl hx
    | cons y before =>
      cases heq
      obtain ⟨ha, hbefore⟩ := List.forall_mem_cons.mp hbefore
      exact .inr ⟨ha, before, x, after, rfl, hbefore, hx⟩
  · rintro (hq | ⟨ha, before, x, after, rfl, hbefore, hx⟩)
    · exact ⟨[], a, as, rfl, List.forall_mem_nil _, hq⟩
    · exact ⟨a :: before, x, after, rfl, List.forall_mem_cons.mpr ⟨ha, hbefore⟩, hx⟩

/-- The first failure decides, and everything before it is read. -/
theorem mapM_error_iff {as : List α} {e : ε} :
    as.mapM f = .error e ↔ ∃ before a after, as = before ++ a :: after ∧
      (∀ x ∈ before, ∃ b, f x = .ok b) ∧ f a = .error e := by
  induction as with
  | nil => simp [pure, Except.pure]
  | cons a as ih =>
    rw [List.mapM_cons, exists_first_cons, ← ih]
    cases f a with
    | error e => simp [bind, Except.bind]
    | ok b => cases as.mapM f <;> simp [bind, Except.bind, pure, Except.pure]

end

/-! ## Kinds and properties -/

theorem Kind.ofTag?_eq_some_iff (tag : String) (k : Kind) :
    Kind.ofTag? tag = some k ↔ k.tag = tag := by
  constructor
  · intro h
    unfold Kind.ofTag? at h
    simpa using List.find?_some h
  · rintro rfl
    cases k <;> rfl

theorem Kind.tag_injective : Function.Injective Kind.tag := by
  intro a b h
  have ha := (ofTag?_eq_some_iff b.tag a).mpr h
  rw [(ofTag?_eq_some_iff b.tag b).mpr rfl] at ha
  exact (Option.some.inj ha).symm

theorem Kind.tag_ne_empty (k : Kind) : k.tag ≠ "" := by cases k <;> decide

theorem Cardinality.ofName?_eq_some_iff (name : String) (c : Cardinality) :
    ofName? name = some c ↔ c.name = name := by
  constructor
  · intro h
    by_cases hs : name = "single"
    · subst hs
      cases h
      rfl
    · by_cases hm : name = "multiple"
      · subst hm
        cases h
        rfl
      · have hs : (name == "single") = false := beq_eq_false_iff_ne.mpr hs
        have hm : (name == "multiple") = false := beq_eq_false_iff_ne.mpr hm
        simp [ofName?, variants, List.lookup_cons, hs, hm] at h
  · rintro rfl
    cases c <;> rfl

theorem Cardinality.name_injective : Function.Injective Cardinality.name := by
  intro a b h
  have ha := (ofName?_eq_some_iff b.name a).mpr h
  rw [(ofName?_eq_some_iff b.name b).mpr rfl] at ha
  exact (Option.some.inj ha).symm

namespace Declaration

/-- A text that stands for itself unless it is empty. -/
theorem nonempty_ok_iff {ε : Type} (fault : ε) (s t : String) :
    (if s.isEmpty then .error fault else .ok s : Except ε String) = .ok t ↔ s = t ∧ t ≠ "" := by
  split
  · rename_i hs
    rw [String.isEmpty_iff] at hs
    subst hs
    simp only [reduceCtorEq, false_iff, not_and, not_not]
    exact Eq.symm
  · rename_i hs
    rw [String.isEmpty_iff] at hs
    rw [Except.ok.injEq]
    constructor
    · rintro rfl
      exact ⟨rfl, hs⟩
    · exact And.left

theorem named_ok_iff {α : Type} (p : Property) (read : Option Json → Except PropertyFault α)
    (members : List (String × Json)) (a : α) :
    named p read members = .ok a ↔ read (members.lookup p.key) = .ok a := by
  unfold named
  cases read (members.lookup p.key) <;> simp

theorem flag_ok_iff (property : Option Json) (b : Bool) :
    flag property = .ok b ↔ property = some (.bool b) ∨ property = none ∧ b = false := by
  unfold flag
  split
  · simp [eq_comm]
  · simp
  · rename_i j hj
    simp only [reduceCtorEq, Option.some.injEq, false_and, or_false, false_iff]
    rintro rfl
    exact hj b rfl

theorem someText_ok_iff (property : Option Json) (s : String) :
    someText property = .ok s ↔ property = some (.text s) ∧ s ≠ "" := by
  unfold someText
  split
  · simp
  · rename_i t
    rw [nonempty_ok_iff, Option.some.injEq, Json.text.injEq]
  · rename_i j hj
    simp only [reduceCtorEq, Option.some.injEq, false_iff, not_and]
    rintro rfl
    exact absurd rfl (hj s)

theorem cardinality_ok_iff (property : Option Json) (c : Cardinality) :
    cardinality property = .ok c ↔ property = some (.text c.name) := by
  unfold cardinality
  constructor
  · intro h
    split at h
    · cases h
    · rename_i s hs
      split at h
      · rename_i k hk
        cases h
        rw [((someText_ok_iff _ _).mp hs).1, (Cardinality.ofName?_eq_some_iff s c).mp hk]
      · cases h
  · rintro rfl
    cases c <;> rfl

/-- A text of a list; it is not empty. -/
def element : Json → Except PropertyFault String
  | .text s => if s.isEmpty then .error .emptyElement else .ok s
  | j => .error (.wrongElement j)

theorem element_ok_iff (j : Json) (s : String) : element j = .ok s ↔ j = .text s ∧ s ≠ "" := by
  cases j with
  | text t => rw [element, nonempty_ok_iff, Json.text.injEq]
  | _ => simp [element]

theorem elements_eq_mapM (items : List Json) : elements items = items.mapM element := by
  induction items with
  | nil => rfl
  | cons j rest ih =>
    rw [List.mapM_cons, ← ih]
    cases j with
    | text s =>
      rw [elements, element]
      split
      · rfl
      · cases elements rest <;> rfl
    | _ => rfl

theorem elements_ok_iff (items : List Json) (texts : List String) :
    elements items = .ok texts ↔ items = texts.map .text ∧ ∀ s ∈ texts, s ≠ "" := by
  rw [elements_eq_mapM, mapM_ok_iff]
  simp only [element_ok_iff]
  constructor
  · intro h
    induction h with
    | nil => exact ⟨rfl, List.forall_mem_nil _⟩
    | cons hj _ ih =>
      obtain ⟨rfl, hs⟩ := hj
      obtain ⟨rfl, hrest⟩ := ih
      exact ⟨rfl, List.forall_mem_cons.mpr ⟨hs, hrest⟩⟩
  · rintro ⟨rfl, hall⟩
    rw [List.forall₂_map_left_iff, List.forall₂_same]
    exact fun s hs => ⟨rfl, hall s hs⟩

theorem someTexts_ok_iff (property : Option Json) (texts : List String) :
    someTexts property = .ok texts ↔
      property = some (.array (texts.map .text)) ∧ texts ≠ [] ∧ ∀ s ∈ texts, s ≠ "" := by
  unfold someTexts
  split
  · simp
  · simp only [reduceCtorEq, Option.some.injEq, Json.array.injEq, false_iff]
    rintro ⟨hnil, hne, -⟩
    exact hne (List.map_eq_nil_iff.mp hnil.symm)
  · rename_i items hitems
    rw [elements_ok_iff, Option.some.injEq, Json.array.injEq]
    constructor
    · rintro ⟨rfl, hall⟩
      refine ⟨rfl, ?_, hall⟩
      rintro rfl
      exact hitems rfl
    · exact fun h => ⟨h.1, h.2.2⟩
  · rename_i j hj
    simp only [reduceCtorEq, Option.some.injEq, false_iff, not_and]
    rintro rfl
    exact absurd rfl (hj _)

theorem fieldName_ok_iff (members : List (String × Json)) (n : String) :
    fieldName members = .ok n ↔ members.lookup "name" = some (.text n) ∧ n ≠ "" := by
  unfold fieldName
  split
  · rename_i h
    simp [h]
  · rename_i t h
    rw [h, nonempty_ok_iff, Option.some.injEq, Json.text.injEq]
  · rename_i j hj h
    rw [h]
    simp only [reduceCtorEq, Option.some.injEq, false_iff, not_and]
    rintro rfl
    exact absurd rfl (hj n)

theorem fieldKind_ok_iff (field : String) (members : List (String × Json)) (k : Kind) :
    fieldKind field members = .ok k ↔ members.lookup "type" = some (.text k.tag) := by
  unfold fieldKind
  split
  · rename_i h
    simp [h]
  · rename_i t h
    rw [h, Option.some.injEq, Json.text.injEq]
    split
    · rename_i ht
      rw [String.isEmpty_iff] at ht
      subst ht
      simp only [reduceCtorEq, false_iff]
      exact fun he => k.tag_ne_empty he.symm
    · rw [eq_comm (a := t), ← Kind.ofTag?_eq_some_iff]
      cases Kind.ofTag? t <;> simp
  · rename_i j hj h
    rw [h]
    simp only [reduceCtorEq, Option.some.injEq, false_iff]
    rintro rfl
    exact absurd rfl (hj _)

/-- The form has the kind that was asked for. -/
theorem kind_of_form {members : List (String × Json)} {k : Kind} {form : FieldForm}
    (h : Declaration.form members k = .ok form) : form.kind = k := by
  cases k <;> simp only [Declaration.form, bind, Except.bind, pure, Except.pure] at h
  all_goals repeat' split at h
  all_goals cases h
  all_goals rfl

theorem relation_form_ok_iff (members : List (String × Json)) (form : FieldForm) :
    Declaration.form members .relation = .ok form ↔ ∃ target mode required,
      named .to someText members = .ok target ∧ named .mode cardinality members = .ok mode ∧
      named .required flag members = .ok required ∧ form = .relation target mode required := by
  simp only [Declaration.form, bind, Except.bind, pure, Except.pure]
  cases named .to someText members with
  | error e => simp
  | ok target =>
    cases named .mode cardinality members with
    | error e => simp
    | ok mode =>
      cases named .required flag members with
      | error e => simp
      | ok required =>
        simp only [Except.ok.injEq]
        constructor
        · rintro rfl
          exact ⟨_, _, _, rfl, rfl, rfl, rfl⟩
        · rintro ⟨_, _, _, rfl, rfl, rfl, rfl⟩
          rfl

theorem select_form_ok_iff (members : List (String × Json)) (form : FieldForm) :
    Declaration.form members .select = .ok form ↔ ∃ options mode,
      named .options someTexts members = .ok options ∧
      named .mode cardinality members = .ok mode ∧ form = .select options mode := by
  simp only [Declaration.form, bind, Except.bind, pure, Except.pure]
  cases named .options someTexts members with
  | error e => simp
  | ok options =>
    cases named .mode cardinality members with
    | error e => simp
    | ok mode =>
      simp only [Except.ok.injEq]
      constructor
      · rintro rfl
        exact ⟨_, _, rfl, rfl, rfl⟩
      · rintro ⟨_, _, rfl, rfl, rfl⟩
        rfl

theorem file_form_ok_iff (members : List (String × Json)) (form : FieldForm) :
    Declaration.form members .file = .ok form ↔ ∃ mode required,
      named .mode cardinality members = .ok mode ∧ named .required flag members = .ok required ∧
      form = .file mode required := by
  simp only [Declaration.form, bind, Except.bind, pure, Except.pure]
  cases named .mode cardinality members with
  | error e => simp
  | ok mode =>
    cases named .required flag members with
    | error e => simp
    | ok required =>
      simp only [Except.ok.injEq]
      constructor
      · rintro rfl
        exact ⟨_, _, rfl, rfl, rfl⟩
      · rintro ⟨_, _, rfl, rfl, rfl⟩
        rfl

end Declaration

/-! ## Fields -/

namespace Field

theorem ofDeclaration_ok_iff (j : Json) (f : Field) :
    ofDeclaration j = .ok f ↔ ∃ members, j = .object members ∧
      Declaration.fieldName members = .ok f.name ∧
      Declaration.fieldKind f.name members = .ok f.kind ∧
      Declaration.form members f.kind = .ok f.form := by
  constructor
  · intro h
    unfold ofDeclaration at h
    split at h
    · rename_i members
      simp only [bind, Except.bind, pure, Except.pure] at h
      cases hn : Declaration.fieldName members with
      | error e => simp [hn] at h
      | ok n =>
        cases hk : Declaration.fieldKind n members with
        | error e => simp [hn, hk] at h
        | ok k =>
          cases hf : Declaration.form members k with
          | error e => simp [hn, hk, hf] at h
          | ok form =>
            simp only [hn, hk, hf, Except.ok.injEq] at h
            subst h
            have he : form.kind = k := Declaration.kind_of_form hf
            subst he
            exact ⟨members, rfl, hn, hk, hf⟩
    · cases h
  · rintro ⟨members, rfl, hn, hk, hf⟩
    simp [ofDeclaration, bind, Except.bind, pure, Except.pure, hn, hk, hf]

/-- A field has the name that its declaration gives. -/
theorem name_of_declaration {j : Json} {f : Field} (h : ofDeclaration j = .ok f) :
    j.get? "name" = some (.text f.name) := by
  obtain ⟨members, rfl, hn, -, -⟩ := (ofDeclaration_ok_iff j f).mp h
  exact ((Declaration.fieldName_ok_iff _ _).mp hn).1

/-- A field has the kind that its declaration names. -/
theorem kind_iff_declared {j : Json} {f : Field} (h : ofDeclaration j = .ok f) (k : Kind) :
    f.kind = k ↔ j.get? "type" = some (.text k.tag) := by
  obtain ⟨members, rfl, -, hk, -⟩ := (ofDeclaration_ok_iff j f).mp h
  have htag : members.lookup "type" = some (.text f.kind.tag) :=
    (Declaration.fieldKind_ok_iff _ _ _).mp hk
  constructor
  · rintro rfl
    exact htag
  · intro htype
    rw [show members.lookup "type" = _ from htype, Option.some.injEq, Json.text.injEq] at htag
    exact Kind.tag_injective htag.symm

/-- A field relates to a target exactly when its declaration is that of a relation to it. -/
theorem relates_iff_declared {j : Json} {f : Field} (h : ofDeclaration j = .ok f)
    (target : String) :
    (∃ c, f.relation? = some (target, c)) ↔
      j.get? "type" = some (.text "relation") ∧ j.get? "to" = some (.text target) := by
  have hkind := kind_iff_declared h .relation
  obtain ⟨members, rfl, -, -, hf⟩ := (ofDeclaration_ok_iff j f).mp h
  constructor
  · rintro ⟨c, hc⟩
    have hk : f.kind = .relation := by
      unfold relation? at hc
      split at hc
      · rename_i he
        simp [Field.kind, FieldForm.kind, he]
      · cases hc
    rw [hk] at hf
    obtain ⟨t, mode, required, ht, -, -, he⟩ := (Declaration.relation_form_ok_iff _ _).mp hf
    rw [Declaration.named_ok_iff, Declaration.someText_ok_iff] at ht
    simp only [relation?, he, Option.some.injEq, Prod.mk.injEq] at hc
    rw [← hc.1]
    exact ⟨hkind.mp hk, ht.1⟩
  · rintro ⟨htype, hto⟩
    rw [hkind.mpr htype] at hf
    obtain ⟨t, mode, required, ht, -, -, he⟩ := (Declaration.relation_form_ok_iff _ _).mp hf
    rw [Declaration.named_ok_iff, Declaration.someText_ok_iff] at ht
    have hto' : members.lookup "to" = some (.text t) := ht.1
    rw [show members.lookup "to" = _ from hto, Option.some.injEq, Json.text.injEq] at hto'
    exact ⟨mode, by simp [relation?, he, hto']⟩

/-- A field holds files, one or several, exactly when its declaration says so. -/
theorem holds_files_iff_declared {j : Json} {f : Field} (h : ofDeclaration j = .ok f)
    (c : Cardinality) :
    (∃ required, f.form = .file c required) ↔
      j.get? "type" = some (.text "file") ∧ j.get? "mode" = some (.text c.name) := by
  have hkind := kind_iff_declared h .file
  obtain ⟨members, rfl, -, -, hf⟩ := (ofDeclaration_ok_iff j f).mp h
  constructor
  · rintro ⟨required, hform⟩
    have hk : f.kind = .file := by simp [Field.kind, FieldForm.kind, hform]
    rw [hk] at hf
    obtain ⟨mode, _, hmode, -, he⟩ := (Declaration.file_form_ok_iff _ _).mp hf
    rw [Declaration.named_ok_iff, Declaration.cardinality_ok_iff] at hmode
    rw [hform] at he
    cases he
    exact ⟨hkind.mp hk, hmode⟩
  · rintro ⟨htype, hmode⟩
    rw [hkind.mpr htype] at hf
    obtain ⟨mode, required, hread, -, he⟩ := (Declaration.file_form_ok_iff _ _).mp hf
    have hdeclared : Declaration.cardinality (members.lookup Property.mode.key) = .ok c :=
      (Declaration.cardinality_ok_iff _ c).mpr hmode
    rw [Declaration.named_ok_iff, hdeclared] at hread
    cases hread
    exact ⟨required, he⟩

end Field

/-! ## Collections -/

/-- A declaration declares a collection: the fields are those that its field declarations
declare, in order, and no name of a field or of a patch stands twice. -/
structure CollectionDeclaration.Declares (d : CollectionDeclaration) (c : Collection) : Prop where
  named : d.name ≠ ""
  fields : List.Forall₂ (fun j f => Field.ofDeclaration j = .ok f) d.fields c.fields
  names_differ : (c.fields.map (·.name)).Nodup
  patches_differ : (c.fields.flatMap (·.companionNames)).Nodup
  patches_are_new : ∀ n ∈ c.fields.flatMap (·.companionNames), n ∉ c.fields.map (·.name)
  id_eq : c.id = d.id
  name_eq : c.name = d.name
  singular_eq : c.singular = d.singular
  plural_eq : c.plural = d.plural

namespace Collection

/-- The walk over the field declarations gives a result when each of them declares a field and
no name stands twice, also not among the names before it. -/
theorem fieldsFrom_ok_iff (collection : String) (js : List Json) (fs : List Field)
    (position : Nat) (earlier : List String) :
    fieldsFrom collection position earlier js = .ok fs ↔
      List.Forall₂ (fun j f => Field.ofDeclaration j = .ok f) js fs ∧
        (fs.map (·.name)).Nodup ∧ ∀ f ∈ fs, f.name ∉ earlier := by
  induction js generalizing position earlier fs with
  | nil =>
    simp only [fieldsFrom, Except.ok.injEq, List.forall₂_nil_left_iff]
    constructor
    · rintro rfl
      simp
    · exact fun h => h.1.symm
  | cons j rest ih =>
    simp only [fieldsFrom, List.forall₂_cons_left_iff]
    cases hj : Field.ofDeclaration j with
    | error e => simp
    | ok f =>
      by_cases hmem : f.name ∈ earlier
      · simp only [hmem, if_true, reduceCtorEq, Except.ok.injEq, false_iff]
        rintro ⟨⟨_, gs, rfl, _, rfl⟩, _, hnew⟩
        exact hnew f List.mem_cons_self hmem
      · simp only [hmem, if_false, Except.ok.injEq]
        have hrest := fun gs => ih gs (position + 1) (f.name :: earlier)
        constructor
        · intro h
          split at h
          · cases h
          · rename_i gs hgs
            cases h
            obtain ⟨hall, hnodup, hnew⟩ := (hrest gs).mp hgs
            refine ⟨⟨f, gs, rfl, hall, rfl⟩, ?_, ?_⟩
            · rw [List.map_cons, List.nodup_cons, List.mem_map]
              refine ⟨?_, hnodup⟩
              rintro ⟨g, hg, he⟩
              exact hnew g hg (he ▸ List.mem_cons_self)
            · intro g hg
              rcases List.mem_cons.mp hg with rfl | hg
              · exact hmem
              · exact fun h => hnew g hg (List.mem_cons_of_mem _ h)
        · rintro ⟨⟨_, gs, rfl, hall, rfl⟩, hnodup, hnew⟩
          rw [List.map_cons, List.nodup_cons, List.mem_map] at hnodup
          have hgs := (hrest gs).mpr ⟨hall, hnodup.2, by
            intro g hg h
            rcases List.mem_cons.mp h with h | h
            · exact hnodup.1 ⟨g, hg, h⟩
            · exact hnew g (List.mem_cons_of_mem _ hg) h⟩
          rw [hgs]

theorem firstTaken?_eq_none_iff (names taken : List String) :
    firstTaken? taken names = none ↔ names.Nodup ∧ ∀ n ∈ names, n ∉ taken := by
  induction names generalizing taken with
  | nil => simp [firstTaken?]
  | cons n rest ih =>
    simp only [firstTaken?]
    by_cases hn : n ∈ taken
    · simp [hn]
    · simp only [hn, if_false, ih, List.nodup_cons, List.mem_cons, not_or, forall_eq_or_imp,
        not_false_eq_true, true_and]
      constructor
      · rintro ⟨hnodup, hnew⟩
        exact ⟨⟨fun h => (hnew n h).1 rfl, hnodup⟩, fun m hm => (hnew m hm).2⟩
      · rintro ⟨⟨hhead, hnodup⟩, hnew⟩
        exact ⟨hnodup, fun m hm => ⟨fun he => hhead (he ▸ hm), hnew m hm⟩⟩

/-- The position only shows in the fault of an empty name. -/
theorem ofDeclaration_ok_iff (position : Nat) (d : CollectionDeclaration) (c : Collection) :
    ofDeclaration position d = .ok c ↔ d.Declares c := by
  unfold ofDeclaration
  constructor
  · intro h
    split at h
    · cases h
    · rename_i hname
      split at h
      · cases h
      · rename_i fs hfs
        split at h
        · cases h
        · rename_i htaken
          cases h
          obtain ⟨hall, hnodup, -⟩ := (fieldsFrom_ok_iff _ _ _ _ _).mp hfs
          obtain ⟨hpatches, hnew⟩ := (firstTaken?_eq_none_iff _ _).mp htaken
          rw [String.isEmpty_iff] at hname
          exact ⟨hname, hall, hnodup, hpatches, hnew, rfl, rfl, rfl, rfl⟩
  · intro h
    have hname : ¬ d.name.isEmpty = true := by
      rw [String.isEmpty_iff]
      exact h.named
    have hfs := (fieldsFrom_ok_iff d.name d.fields c.fields 0 []).mpr
      ⟨h.fields, h.names_differ, fun _ _ => List.not_mem_nil⟩
    have htaken := (firstTaken?_eq_none_iff _ _).mpr ⟨h.patches_differ, h.patches_are_new⟩
    rw [if_neg hname, hfs]
    simp only [htaken, ← h.id_eq, ← h.name_eq, ← h.singular_eq, ← h.plural_eq]

theorem allFrom_ok_iff (position : Nat) (ds : List CollectionDeclaration) (cs : List Collection) :
    allFrom position ds = .ok cs ↔ List.Forall₂ CollectionDeclaration.Declares ds cs := by
  induction ds generalizing position cs with
  | nil =>
    simp only [allFrom, Except.ok.injEq, List.forall₂_nil_left_iff]
    exact eq_comm
  | cons d rest ih =>
    simp only [allFrom, List.forall₂_cons_left_iff]
    constructor
    · intro h
      split at h
      · cases h
      · rename_i c hc
        split at h
        · cases h
        · rename_i rs hrs
          cases h
          exact ⟨c, rs, (ofDeclaration_ok_iff _ _ _).mp hc, (ih _ _).mp hrs, rfl⟩
    · rintro ⟨c, rs, hc, hrs, rfl⟩
      rw [(ofDeclaration_ok_iff position d c).mpr hc, (ih (position + 1) rs).mpr hrs]

theorem ofDocument_ok_iff (d : Document) (cs : List Collection) :
    ofDocument d = .ok cs ↔ List.Forall₂ CollectionDeclaration.Declares d.collections cs :=
  allFrom_ok_iff 0 d.collections cs

end Collection

end StoreClient
