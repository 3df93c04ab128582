-- When a document compiles, and to what. A document compiles exactly when each of its
-- collections is declared well, no two of them share a name, and every relation leads to
-- a collection. The schema is then the list of the shapes of the collections, in order.
import StoreClient.Bundle.Compile
import StoreClient.Proofs.DeclaredCollections

namespace StoreClient

/-! ## Names that collections claim -/

/-- A usable type name: an ASCII letter, then ASCII letters, ASCII digits and `_`. -/
def IsTypeName (name : String) : Prop :=
  ∃ c rest, name.toList = c :: rest ∧ c.isAlpha ∧ ∀ d ∈ rest, d.isAlphanum ∨ d = '_'

theorem Identifier.isAsciiLetter_eq (c : Char) : isAsciiLetter c = c.isAlpha := by
  have hupper : c.isUpper = (decide ('A' ≤ c) && decide (c ≤ 'Z')) := Bool.decide_and _ _
  have hlower : c.isLower = (decide ('a' ≤ c) && decide (c ≤ 'z')) := rfl
  change _ = (c.isUpper || c.isLower)
  rw [hupper, hlower]
  exact Bool.or_comm _ _

theorem Identifier.isAsciiDigit_eq (c : Char) : isAsciiDigit c = c.isDigit := by
  simp only [isAsciiDigit, Char.isDigit, Char.le_def, ge_iff_le]

theorem Identifier.isPart_of_isStart {c : Char} (h : isStart c) : isPart c := by
  simp only [isStart, isPart, Bool.or_eq_true] at h ⊢
  rcases h with (h | h) | h <;> simp [h]

theorem Identifier.isTypeName_iff (name : String) :
    isTypeName name.toList = true ↔ IsTypeName name := by
  unfold IsTypeName
  cases h : name.toList with
  | nil => simp [isTypeName]
  | cons c rest =>
    simp [isTypeName, isAsciiLetter_eq, isAsciiDigit_eq, Char.isAlphanum]

namespace Collection

/-- Both type names are usable. -/
def Usable (c : Collection) : Prop := IsTypeName c.typeName ∧ IsTypeName c.pluralTypeName

/-- Two collections that share no name. -/
structure Apart (a b : Collection) : Prop where
  names : a.name ≠ b.name
  ids : ∀ id, a.id = some id → b.id ≠ some id
  typeNames : a.typeName ≠ b.typeName
  pluralTypeNames : a.pluralTypeName ≠ b.pluralTypeName

theorem claimTypeName_ok_iff (earlier : List Collection) (name : Collection → String)
    (c : Collection) : claimTypeName earlier name c = .ok () ↔
      IsTypeName (name c) ∧ ∀ e ∈ earlier, name e ≠ name c := by
  unfold claimTypeName
  by_cases hvalid : IsTypeName (name c)
  · have hb := (Identifier.isTypeName_iff (name c)).mpr hvalid
    simp only [hb, Bool.not_true, Bool.false_eq_true, if_false, hvalid, true_and]
    split
    · rename_i other hfind
      have hname := List.find?_some hfind
      have hmem := List.mem_of_find?_eq_some hfind
      simp only [decide_eq_true_eq] at hname
      simp only [reduceCtorEq, false_iff, not_forall, not_not]
      exact ⟨other, hmem, hname⟩
    · rename_i hfind
      simpa using hfind
  · have hb : Identifier.isTypeName (name c).toList = false := by
      rw [← Bool.not_eq_true, Identifier.isTypeName_iff]
      exact hvalid
    simp [hb, hvalid]

theorem claimNames_ok_iff (earlier : List Collection) (c : Collection) :
    claimNames earlier c = .ok () ↔ c.Usable ∧ ∀ e ∈ earlier, e.Apart c := by
  unfold claimNames
  constructor
  · intro h
    split at h
    · cases h
    · rename_i hnames
      split at h
      · cases h
      · rename_i hids
        split at h
        · cases h
        · rename_i htype
          obtain ⟨hu, ht⟩ := (claimTypeName_ok_iff _ _ _).mp htype
          obtain ⟨hpu, hp⟩ := (claimTypeName_ok_iff _ _ _).mp h
          simp only [List.any_eq_true, decide_eq_true_eq, not_exists, not_and] at hnames
          simp only [Option.filter_eq_none_iff, List.any_eq_true, decide_eq_true_eq, not_exists,
            not_and] at hids
          refine ⟨⟨hu, hpu⟩, fun e he => ⟨hnames e he, ?_, ht e he, hp e he⟩⟩
          intro id hid hc
          exact hids id hc e he hid
  · rintro ⟨⟨hu, hpu⟩, hapart⟩
    have hnames : ¬ (earlier.any fun e => decide (e.name = c.name)) = true := by
      simp only [List.any_eq_true, decide_eq_true_eq, not_exists, not_and]
      exact fun e he => (hapart e he).names
    have hids : c.id.filter (fun id => earlier.any fun e => decide (e.id = some id)) = none := by
      simp only [Option.filter_eq_none_iff, List.any_eq_true, decide_eq_true_eq, not_exists,
        not_and]
      exact fun id hc e he hid => (hapart e he).ids id hid hc
    have htype := (claimTypeName_ok_iff earlier typeName c).mpr
      ⟨hu, fun e he => (hapart e he).typeNames⟩
    have hplural := (claimTypeName_ok_iff earlier pluralTypeName c).mpr
      ⟨hpu, fun e he => (hapart e he).pluralTypeNames⟩
    rw [if_neg hnames, hids]
    simp only [htype, hplural]

/-- All claims hold when every collection is usable and keeps apart from those before it. -/
theorem claimAll_ok_iff (earlier cs : List Collection) :
    claimAll earlier cs = .ok () ↔ (∀ c ∈ cs, c.Usable) ∧ cs.Pairwise Apart ∧
      ∀ e ∈ earlier, ∀ c ∈ cs, e.Apart c := by
  induction cs generalizing earlier with
  | nil => simp [claimAll]
  | cons c rest ih =>
    simp only [claimAll]
    constructor
    · intro h
      split at h
      · cases h
      · rename_i hc
        obtain ⟨hu, hapart⟩ := (claimNames_ok_iff _ _).mp hc
        obtain ⟨hus, hpair, hall⟩ := (ih _).mp h
        simp only [List.mem_append, List.mem_singleton] at hall
        refine ⟨List.forall_mem_cons.mpr ⟨hu, hus⟩, ?_, ?_⟩
        · exact List.pairwise_cons.mpr ⟨fun x hx => hall c (Or.inr rfl) x hx, hpair⟩
        · intro e he
          exact List.forall_mem_cons.mpr ⟨hapart e he, fun x hx => hall e (Or.inl he) x hx⟩
    · rintro ⟨hus, hpair, hall⟩
      obtain ⟨hu, hus⟩ := List.forall_mem_cons.mp hus
      obtain ⟨hhead, hpair⟩ := List.pairwise_cons.mp hpair
      have hc := (claimNames_ok_iff earlier c).mpr
        ⟨hu, fun e he => hall e he c List.mem_cons_self⟩
      rw [hc]
      refine (ih _).mpr ⟨hus, hpair, ?_⟩
      intro e he x hx
      rcases List.mem_append.mp he with he | he
      · exact hall e he x (List.mem_cons_of_mem _ hx)
      · rw [List.mem_singleton.mp he]
        exact hhead x hx

end Collection

/-! ## Relations -/

theorem Collection.target?_isSome_iff (all : List Collection) (target : String) :
    (Collection.target? all target).isSome ↔ ∃ c ∈ all, c.id = some target ∨ c.name = target := by
  simp only [Collection.target?, Option.isSome_or, Bool.or_eq_true, List.find?_isSome,
    decide_eq_true_eq]
  constructor
  · rintro (⟨c, hc, h⟩ | ⟨c, hc, h⟩)
    · exact ⟨c, hc, Or.inl h⟩
    · exact ⟨c, hc, Or.inr h⟩
  · rintro ⟨c, hc, h | h⟩
    · exact Or.inl ⟨c, hc, h⟩
    · exact Or.inr ⟨c, hc, h⟩

namespace Field

/-- A field whose relation, if it is one, leads to one of the collections. -/
def Resolves (all : List Collection) (f : Field) : Prop :=
  ∀ target c, f.relation? = some (target, c) → (Collection.target? all target).isSome

/-- Where a field leads, if it is a relation to one of the collections. -/
def expansion? (all : List Collection) (f : Field) : Option Expansion :=
  f.relation?.bind fun (target, cardinality) =>
    (Collection.target? all target).map fun c => ⟨f.name, c.name, c.typeName, cardinality⟩

end Field

namespace Collection

theorem expansions_ok_iff (all : List Collection) (collection : String) (fs : List Field)
    (es : List Expansion) :
    expansions all collection fs = .ok es ↔
      (∀ f ∈ fs, f.Resolves all) ∧ es = fs.filterMap (·.expansion? all) := by
  induction fs generalizing es with
  | nil =>
    simp only [expansions, Except.ok.injEq, List.not_mem_nil, List.filterMap_nil]
    constructor
    · rintro rfl
      exact ⟨fun _ h => h.elim, rfl⟩
    · exact fun h => h.2.symm
  | cons f rest ih =>
    rw [List.forall_mem_cons]
    simp only [expansions]
    cases hr : f.relation? with
    | none =>
      have hf : f.Resolves all := by simp [Field.Resolves, hr]
      have he : f.expansion? all = none := by simp [Field.expansion?, hr]
      rw [ih, List.filterMap_cons_none he]
      simp only [hf, true_and]
    | some r =>
      obtain ⟨target, cardinality⟩ := r
      simp only
      cases ht : target? all target with
      | none =>
        simp only [reduceCtorEq, false_iff]
        rintro ⟨⟨hf, -⟩, -⟩
        have := hf _ _ hr
        simp [ht] at this
      | some c =>
        have hf : f.Resolves all := by
          intro t k h
          rw [hr, Option.some.injEq, Prod.mk.injEq] at h
          rw [← h.1, ht]
          rfl
        have he : f.expansion? all = some ⟨f.name, c.name, c.typeName, cardinality⟩ := by
          simp [Field.expansion?, hr, ht]
        rw [List.filterMap_cons_some he]
        simp only [hf, true_and]
        cases hrest : expansions all collection rest with
        | error e =>
          simp only [reduceCtorEq, false_iff]
          rintro ⟨hall, -⟩
          have := (ih _).mpr ⟨hall, rfl⟩
          simp [hrest] at this
        | ok rs =>
          obtain ⟨hall, rfl⟩ := (ih _).mp hrest
          simp only [Except.ok.injEq]
          constructor
          · rintro rfl
            exact ⟨hall, rfl⟩
          · exact fun h => h.2.symm

/-! ## Shapes -/

/-- The bundle of a collection all of whose relations resolve. -/
def shapes (policy : EmptyListPolicy) (all : List Collection) (c : Collection) : Bundle where
  name := c.name
  id := c.id
  typeName := c.typeName
  pluralTypeName := c.pluralTypeName
  read := c.fields.filterMap (·.readField? policy)
  create := c.fields.filterMap (·.createField? policy)
  update := c.fields.flatMap (·.updateFields policy)
  expand := c.fields.filterMap (·.expansion? all)

theorem bundle_ok_iff (policy : EmptyListPolicy) (all : List Collection) (c : Collection)
    (b : Bundle) :
    c.bundle policy all = .ok b ↔ (∀ f ∈ c.fields, f.Resolves all) ∧ b = c.shapes policy all := by
  unfold bundle shapes
  constructor
  · intro h
    split at h
    · cases h
    · rename_i es hes
      obtain ⟨hall, rfl⟩ := (expansions_ok_iff _ _ _ _).mp hes
      cases h
      exact ⟨hall, rfl⟩
  · rintro ⟨hall, rfl⟩
    rw [(expansions_ok_iff all c.name c.fields _).mpr ⟨hall, rfl⟩]

theorem bundles_ok_iff (policy : EmptyListPolicy) (all cs : List Collection) (bs : List Bundle) :
    bundles policy all cs = .ok bs ↔
      (∀ c ∈ cs, ∀ f ∈ c.fields, f.Resolves all) ∧ bs = cs.map (shapes policy all) := by
  induction cs generalizing bs with
  | nil =>
    simp only [bundles, Except.ok.injEq, List.not_mem_nil, List.map_nil]
    constructor
    · rintro rfl
      exact ⟨fun _ h => h.elim, rfl⟩
    · exact fun h => h.2.symm
  | cons c rest ih =>
    rw [List.forall_mem_cons, List.map_cons]
    simp only [bundles]
    constructor
    · intro h
      split at h
      · cases h
      · rename_i b hb
        obtain ⟨hc, rfl⟩ := (bundle_ok_iff _ _ _ _).mp hb
        split at h
        · cases h
        · rename_i rs hrs
          obtain ⟨hall, rfl⟩ := (ih _).mp hrs
          cases h
          exact ⟨⟨hc, hall⟩, rfl⟩
    · rintro ⟨⟨hc, hall⟩, rfl⟩
      rw [(bundle_ok_iff policy all c _).mpr ⟨hc, rfl⟩, (ih _).mpr ⟨hall, rfl⟩]

end Collection

/-! ## Documents -/

/-- What a document compiles to: the shapes of its collections, if all are usable, no two share
a name, and every relation resolves. -/
theorem Document.compile_ok_iff (policy : EmptyListPolicy) (d : Document) (s : Schema) :
    d.compile policy = .ok s ↔ ∃ cs,
      List.Forall₂ CollectionDeclaration.Declares d.collections cs ∧
      (∀ c ∈ cs, c.Usable) ∧ cs.Pairwise Collection.Apart ∧
      (∀ c ∈ cs, ∀ f ∈ c.fields, f.Resolves cs) ∧ s = ⟨cs.map (Collection.shapes policy cs)⟩ := by
  unfold Document.compile
  constructor
  · intro h
    split at h
    · cases h
    · rename_i cs hcs
      split at h
      · cases h
      · rename_i hclaims
        split at h
        · cases h
        · rename_i bs hbs
          cases h
          obtain ⟨hu, hpair, -⟩ := (Collection.claimAll_ok_iff _ _).mp hclaims
          obtain ⟨hall, rfl⟩ := (Collection.bundles_ok_iff _ _ _ _).mp hbs
          exact ⟨cs, (Collection.ofDocument_ok_iff _ _).mp hcs, hu, hpair, hall, rfl⟩
  · rintro ⟨cs, hcs, hu, hpair, hall, rfl⟩
    have hclaims := (Collection.claimAll_ok_iff [] cs).mpr
      ⟨hu, hpair, fun _ h => absurd h List.not_mem_nil⟩
    have hbs := (Collection.bundles_ok_iff policy cs cs _).mpr ⟨hall, rfl⟩
    rw [(Collection.ofDocument_ok_iff d cs).mpr hcs]
    simp only [hclaims, hbs]

/-- A gallery: pictures stand in albums, and their dates are set by the store. -/
def gallery : Document where
  collections := [
    { id := none, name := "albums", singular := some "album", plural := none, fields := [] },
    { id := none, name := "pictures", singular := some "picture", plural := none, fields := [
      .object [("name", .text "files"), ("type", .text "file"), ("mode", .text "multiple")],
      .object [("name", .text "album"), ("type", .text "relation"), ("to", .text "albums"),
        ("mode", .text "single")],
      .object [("name", .text "filesAdded"), ("type", .text "autodate")]] }]

end StoreClient
