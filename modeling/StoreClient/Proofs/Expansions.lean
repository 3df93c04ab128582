-- The law of relations: each relation is expanded once, to the collection that its target
-- names, and what is said of that collection is what its own bundle says. So every type and
-- function that the client uses for related records is one that the client declares.
import StoreClient.Proofs.Acceptance
import StoreClient.Proofs.ClientDeclarations
import StoreClient.Proofs.EntryKeys

namespace StoreClient

/-! ## The only one of its kind -/

section

variable {α β : Type}

/-- The only element with a property is all that is left of a list when it is searched for. -/
theorem filter_eq_singleton {p : α → Bool} {as : List α} {a : α}
    (hone : as.Pairwise fun x y => ¬ (p x ∧ p y)) (ha : a ∈ as) (hp : p a) :
    as.filter p = [a] := by
  induction as with
  | nil => cases ha
  | cons x rest ih =>
    obtain ⟨hx, hrest⟩ := List.pairwise_cons.mp hone
    rcases List.mem_cons.mp ha with rfl | ha
    · rw [List.filter_cons_of_pos hp]
      congr 1
      rw [List.filter_eq_nil_iff]
      exact fun y hy hpy => hx y hy ⟨hp, hpy⟩
    · have hpx : ¬ p x := fun hpx => hx a ha ⟨hpx, hp⟩
      rw [List.filter_cons_of_neg hpx]
      exact ih hrest ha

theorem filter_eq_of_find? {p : α → Bool} {as : List α} {a : α}
    (hone : as.Pairwise fun x y => ¬ (p x ∧ p y)) (h : as.find? p = some a) :
    as.filter p = [a] :=
  filter_eq_singleton hone (List.mem_of_find?_eq_some h) (List.find?_some h)

theorem filter_eq_of_nodup [DecidableEq β] (key : α → β) {as : List α} {a : α}
    (hkeys : (as.map key).Nodup) (ha : a ∈ as) : as.filter (fun x => key x = key a) = [a] := by
  refine filter_eq_singleton ?_ ha (decide_eq_true rfl)
  refine (List.pairwise_map.mp hkeys).imp fun hne hboth => hne ?_
  simp only [decide_eq_true_eq] at hboth
  exact hboth.1.trans hboth.2.symm

end

/-! ## Where relations lead -/

/-- The collection that a target names: the only one with this id, or the only one with this
name if no collection has the id. -/
def Document.LeadsTo (d : Document) (target : String) (c : CollectionDeclaration) : Prop :=
  d.collections.filter (fun other => other.id = some target) = [c] ∨
    d.collections.filter (fun other => other.id = some target) = [] ∧
      d.collections.filter (fun other => other.name = target) = [c]

/-- A declaration of a relation, with all that it says of it. -/
structure DeclaresRelation (j : Json) (name target : String) (mode : Cardinality) : Prop where
  type_eq : j.get? "type" = some (.text "relation")
  name_eq : j.get? "name" = some (.text name)
  target_eq : j.get? "to" = some (.text target)
  mode_eq : j.get? "mode" = some (.text mode.name)

/-- The relations of a field are those of its declaration. -/
theorem Field.declaresRelation {j : Json} {f : Field} (h : ofDeclaration j = .ok f)
    (htype : j.get? "type" = some (.text "relation")) : ∃ target mode,
      f.relation? = some (target, mode) ∧ DeclaresRelation j f.name target mode := by
  have hkind : f.kind = .relation := (kind_iff_declared h .relation).mpr htype
  have hname := name_of_declaration h
  obtain ⟨members, rfl, -, -, hform⟩ := (ofDeclaration_ok_iff j f).mp h
  rw [hkind] at hform
  obtain ⟨target, mode, required, ht, hm, -, he⟩ :=
    (Declaration.relation_form_ok_iff _ _).mp hform
  rw [Declaration.named_ok_iff, Declaration.someText_ok_iff] at ht
  rw [Declaration.named_ok_iff, Declaration.cardinality_ok_iff] at hm
  refine ⟨target, mode, ?_, htype, hname, ht.1, hm⟩
  simp [relation?, he]

section

variable {d : Document} {cs : List Collection} {target : String} {c : Collection}

theorem mem_of_target? (h : Collection.target? cs target = some c) : c ∈ cs := by
  rcases Option.or_eq_some_iff.mp h with hid | ⟨-, hname⟩
  · exact List.mem_of_find?_eq_some hid
  · exact List.mem_of_find?_eq_some hname

/-- The one collection left by a search is declared by the one declaration left by it. -/
theorem declared_of_filter (hcs : List.Forall₂ CollectionDeclaration.Declares d.collections cs)
    {p : CollectionDeclaration → Bool} {q : Collection → Bool}
    (hpq : ∀ d c, CollectionDeclaration.Declares d c → (p d ↔ q c)) (h : cs.filter q = [c]) :
    ∃ other, d.collections.filter p = [other] ∧ other.Declares c := by
  have hall := List.rel_filter (p := p) (q := q) (fun _ _ hd => hpq _ _ hd) hcs
  rw [h] at hall
  obtain ⟨other, rest, hother, hrest, heq⟩ := List.forall₂_cons_right_iff.mp hall
  cases hrest
  exact ⟨other, heq, hother⟩

/-- The collection that is found for a target is the one that the document means. -/
theorem leadsTo_of_target? (hcs : List.Forall₂ CollectionDeclaration.Declares d.collections cs)
    (hapart : cs.Pairwise Collection.Apart) (h : Collection.target? cs target = some c) :
    ∃ other, d.LeadsTo target other ∧ other.Declares c := by
  have hids : ∀ d c, CollectionDeclaration.Declares d c →
      (decide (d.id = some target) ↔ decide (c.id = some target)) := by
    intro d c hd
    rw [hd.id_eq]
  have hnames : ∀ d c, CollectionDeclaration.Declares d c →
      (decide (d.name = target) ↔ decide (c.name = target)) := by
    intro d c hd
    rw [hd.name_eq]
  rcases Option.or_eq_some_iff.mp h with hid | ⟨hnone, hname⟩
  · have hone : cs.filter (fun x => x.id = some target) = [c] := by
      refine filter_eq_of_find? ?_ hid
      refine hapart.imp fun ha hboth => ?_
      simp only [decide_eq_true_eq] at hboth
      exact ha.ids target hboth.1 hboth.2
    obtain ⟨other, heq, hother⟩ := declared_of_filter hcs hids hone
    exact ⟨other, .inl heq, hother⟩
  · have hfree : d.collections.filter (fun x => x.id = some target) = [] := by
      have hcs' := List.rel_filter (p := fun x => decide (x.id = some target))
        (q := fun x => decide (x.id = some target)) (fun _ _ hd => hids _ _ hd) hcs
      rw [List.filter_eq_nil_iff.mpr (List.find?_eq_none.mp hnone)] at hcs'
      exact List.forall₂_nil_right_iff.mp hcs'
    have hone : cs.filter (fun x => x.name = target) = [c] := by
      refine filter_eq_of_find? ?_ hname
      refine hapart.imp fun ha hboth => ?_
      simp only [decide_eq_true_eq] at hboth
      exact ha.names (hboth.1.trans hboth.2.symm)
    obtain ⟨other, heq, hother⟩ := declared_of_filter hcs hnames hone
    exact ⟨other, .inr ⟨hfree, heq⟩, hother⟩

end

/-! ## Relations of a bundle -/

/-- A relation of a bundle is expanded once: to the collection that the target names, and under
the type name of the only bundle of that collection. -/
def ExpandsTo (d : Document) (s : Schema) (b : Bundle) (name target : String)
    (mode : Cardinality) : Prop :=
  ∃ c other, d.LeadsTo target c ∧ s.bundles.filter (fun x => x.name = c.name) = [other] ∧
    b.expand.filter (fun e => e.field = name) =
      [{ field := name, collection := c.name, typeName := other.typeName, cardinality := mode }]

/-- Every relation that a collection declares is expanded in its bundle. -/
structure RelationsExpand (d : Document) (s : Schema) (c : CollectionDeclaration)
    (b : Bundle) : Prop where
  name_eq : b.name = c.name
  expanded : ∀ j ∈ c.fields, j.get? "type" = some (.text "relation") →
    ∃ name target mode, DeclaresRelation j name target mode ∧ ExpandsTo d s b name target mode

namespace Collection

variable {policy : EmptyListPolicy} {cs : List Collection} {c : Collection}

/-- No two collections have one bundle. -/
theorem filter_bundles (hapart : cs.Pairwise Apart) (hc : c ∈ cs) :
    (cs.map (shapes policy cs)).filter (fun b => b.name = c.name) = [c.shapes policy cs] := by
  have hnames : ((cs.map (shapes policy cs)).map (·.name)).Nodup := by
    rw [List.map_map]
    exact ((pairwise_apart_iff cs).mp hapart).1
  exact filter_eq_of_nodup Bundle.name hnames (List.mem_map_of_mem hc)

/-- Each relation is a field of its own. -/
theorem nodup_expand {declaration : CollectionDeclaration} (h : declaration.Declares c) :
    ((c.shapes policy cs).expand.map (·.field)).Nodup := by
  refine h.nodup_of_own_name _ _ fun f e he => ?_
  obtain ⟨r, -, he⟩ := Option.bind_eq_some_iff.mp he
  obtain ⟨x, -, rfl⟩ := Option.map_eq_some_iff.mp he
  rfl

/-- Where the relation of a field leads, among what its collection expands. -/
theorem filter_expand {declaration : CollectionDeclaration} (h : declaration.Declares c)
    {f : Field} {target : String} {mode : Cardinality} {found : Collection} (hf : f ∈ c.fields)
    (hrel : f.relation? = some (target, mode)) (hfound : target? cs target = some found) :
    (c.shapes policy cs).expand.filter (fun e => e.field = f.name) =
      [⟨f.name, found.name, found.typeName, mode⟩] := by
  have hmem : (⟨f.name, found.name, found.typeName, mode⟩ : Expansion) ∈
      c.fields.filterMap (·.expansion? cs) := by
    refine List.mem_filterMap.mpr ⟨f, hf, ?_⟩
    simp [Field.expansion?, hrel, hfound]
  have hkeys : ((c.shapes policy cs).expand.map (·.field)).Nodup := nodup_expand h
  exact filter_eq_of_nodup Expansion.field hkeys hmem

end Collection

/-! ## Related records in the client -/

namespace ClientText

/-- All that the client uses for the records of a collection with their related records. -/
structure DeclaresExpanded (part : List String) (typeName : String) : Prop where
  expanded : .type (typeName ++ "Expanded") ∈ declared part
  serialized : .type (typeName ++ "ExpandedSerialized") ∈ declared part
  options : .type (typeName ++ "ExpandOptions") ∈ declared part
  parser : .function ("parse" ++ typeName ++ "Expanded") ∈ declared part

theorem declaresExpanded_collection {v : BundleView} (h : IsTypeName v.typeName) :
    DeclaresExpanded (collection v) v.typeName := by
  constructor
  all_goals simp [declared_collection h, endings, functionNames]

end ClientText

/-- The type names whose expanded forms the part of a collection refers to: its own, and those
of the collections that its relations lead to. -/
def BundleView.expandedTypeNames (v : BundleView) : List String :=
  v.typeName :: v.expand.map (·.typeName)

/-- They are type names of collections. -/
theorem Collection.mem_expandedTypeNames {policy : EmptyListPolicy} {cs : List Collection}
    {c : Collection} (hc : c ∈ cs) {typeName : String}
    (h : typeName ∈ (BundleView.ofBundle (c.shapes policy cs)).expandedTypeNames) :
    ∃ other ∈ cs, other.typeName = typeName := by
  rcases List.mem_cons.mp h with rfl | h
  · exact ⟨c, hc, rfl⟩
  · obtain ⟨e, he, rfl⟩ := List.mem_map.mp h
    obtain ⟨x, hx, rfl⟩ := List.mem_map.mp he
    obtain ⟨f, -, hf⟩ := List.mem_filterMap.mp hx
    obtain ⟨r, -, hf⟩ := Option.bind_eq_some_iff.mp hf
    obtain ⟨found, hfound, rfl⟩ := Option.map_eq_some_iff.mp hf
    exact ⟨found, mem_of_target? hfound, rfl⟩

/-! ## The law -/

/-- Every relation is expanded once, to the collection that it means; and what the client refers
to for related records is declared by the part of one of the collections. -/
theorem every_relation_is_expanded (policy : EmptyListPolicy) (d : Document) (s : Schema)
    (h : d.compile policy = .ok s) :
    List.Forall₂ (RelationsExpand d s) d.collections s.bundles ∧
      ∀ v ∈ s.views, ∀ typeName ∈ v.expandedTypeNames,
        ∃ w ∈ s.views, ClientText.DeclaresExpanded (ClientText.collection w) typeName := by
  obtain ⟨cs, hcs, husable, hapart, hresolve, rfl⟩ := (d.compile_ok_iff policy s).mp h
  constructor
  · rw [List.forall₂_map_right_iff]
    refine (forall₂_and_right hcs hresolve).imp fun declaration c hc => ?_
    obtain ⟨hdeclares, hresolve⟩ := hc
    refine ⟨hdeclares.name_eq, fun j hj htype => ?_⟩
    -- The declaration gives a field; its target is looked up among all collections.
    obtain ⟨f, hf, hjf⟩ := exists_partner hdeclares.fields hj
    obtain ⟨target, mode, hrel, hdeclared⟩ := Field.declaresRelation hjf htype
    obtain ⟨found, hfound⟩ := Option.isSome_iff_exists.mp (hresolve f hf target mode hrel)
    obtain ⟨other, hleads, hother⟩ := leadsTo_of_target? hcs hapart hfound
    refine ⟨f.name, target, mode, hdeclared, other, found.shapes policy cs, hleads, ?_, ?_⟩
    · rw [← hother.name_eq]
      exact Collection.filter_bundles hapart (mem_of_target? hfound)
    · rw [← hother.name_eq]
      exact Collection.filter_expand hdeclares hf hrel hfound
  · simp only [Schema.views, List.map_map, List.forall_mem_map, Function.comp_def]
    intro c hc typeName hname
    obtain ⟨other, hother, rfl⟩ := Collection.mem_expandedTypeNames hc hname
    exact ⟨_, List.mem_map_of_mem hother,
      ClientText.declaresExpanded_collection (husable other hother).1⟩

/-- A library: books stand on shelves, and shelves lead on to shelves. The id of the shelves is
the name of another collection. -/
def library : Document where
  collections := [
    { id := none, name := "books", singular := some "book", plural := none, fields := [
      .object [("name", .text "shelf"), ("type", .text "relation"), ("to", .text "rooms"),
        ("mode", .text "single")]] },
    { id := some "rooms", name := "shelves", singular := some "shelf", plural := none, fields := [
      .object [("name", .text "next"), ("type", .text "relation"), ("to", .text "shelves"),
        ("mode", .text "multiple")]] },
    { id := none, name := "rooms", singular := some "room", plural := none, fields := [] }]

theorem the_library_expands : ∃ s, library.compile .null = .ok s ∧
    List.Forall₂ (RelationsExpand library s) library.collections s.bundles ∧
      ∀ v ∈ s.views, ∀ typeName ∈ v.expandedTypeNames,
        ∃ w ∈ s.views, ClientText.DeclaresExpanded (ClientText.collection w) typeName :=
  ⟨_, rfl, every_relation_is_expanded .null library _ rfl⟩

/-- The id goes before the name: books lead to shelves, not to rooms. -/
example : ((library.compile .null).map fun s => s.bundles.flatMap (·.expand)) = .ok
    [⟨"shelf", "shelves", "Shelf", .single⟩, ⟨"next", "shelves", "Shelf", .multiple⟩] := rfl

end StoreClient
