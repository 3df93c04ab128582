-- The law of acceptance: which documents compile, said of their declarations alone. It
-- does not matter where in the document two names clash, nor whether a relation leads
-- forward, backward or to its own collection.
import StoreClient.Proofs.Compilation

namespace StoreClient

/-! ## What a declaration says -/

namespace CollectionDeclaration

/-- The name of the type of one record. -/
def typeName (d : CollectionDeclaration) : String := Word.pascalCase (d.singular.getD d.name)

/-- The type name made from the name of many records. -/
def pluralTypeName (d : CollectionDeclaration) : String := Word.pascalCase (d.plural.getD d.name)

/-- A field is declared as a relation to this target. -/
def RelatesTo (d : CollectionDeclaration) (target : String) : Prop :=
  ∃ j ∈ d.fields, j.get? "type" = some (.text "relation") ∧ j.get? "to" = some (.text target)

variable {d : CollectionDeclaration} {c : Collection}

theorem Declares.typeName_eq (h : d.Declares c) : d.typeName = c.typeName := by
  simp only [typeName, Collection.typeName, h.singular_eq, h.name_eq]

theorem Declares.pluralTypeName_eq (h : d.Declares c) : d.pluralTypeName = c.pluralTypeName := by
  simp only [pluralTypeName, Collection.pluralTypeName, h.plural_eq, h.name_eq]

theorem Declares.relatesTo_iff (h : d.Declares c) (target : String) :
    d.RelatesTo target ↔ ∃ f ∈ c.fields, ∃ k, f.relation? = some (target, k) :=
  exists_mem_iff_of_forall₂ h.fields fun _ _ hf => (Field.relates_iff_declared hf target).symm

end CollectionDeclaration

/-- Nothing stands against compiling a document: every collection is valid by itself, no two
share a name, and every relation leads somewhere. -/
structure Document.Acceptable (d : Document) : Prop where
  collections_valid : ∀ position c, d.collections[position]? = some c →
    ∃ parsed, Collection.ofDeclaration position c = .ok parsed
  names_differ : (d.collections.map (·.name)).Nodup
  ids_differ : (d.collections.filterMap (·.id)).Nodup
  type_names_usable : ∀ c ∈ d.collections, IsTypeName c.typeName ∧ IsTypeName c.pluralTypeName
  type_names_differ : (d.collections.map (·.typeName)).Nodup
  plural_type_names_differ : (d.collections.map (·.pluralTypeName)).Nodup
  relations_resolve : ∀ c ∈ d.collections, ∀ target, c.RelatesTo target →
    ∃ other ∈ d.collections, other.id = some target ∨ other.name = target

/-! ## From declarations to collections -/

section

variable {ds : List CollectionDeclaration} {cs : List Collection}

/-- What a declaration and its collection have in common reads the same from both lists. -/
theorem declared_map_eq {α : Type} (h : List.Forall₂ CollectionDeclaration.Declares ds cs)
    {f : CollectionDeclaration → α} {g : Collection → α}
    (hfg : ∀ d c, d.Declares c → f d = g c) : ds.map f = cs.map g :=
  map_eq_of_forall₂ (h.imp hfg)

theorem declared_names_eq (h : List.Forall₂ CollectionDeclaration.Declares ds cs) :
    ds.map (·.name) = cs.map (·.name) :=
  declared_map_eq h fun _ _ hc => hc.name_eq.symm

theorem declared_ids_eq (h : List.Forall₂ CollectionDeclaration.Declares ds cs) :
    ds.filterMap (·.id) = cs.filterMap (·.id) := by
  have hids : ds.map (·.id) = cs.map (·.id) := declared_map_eq h fun _ _ hc => hc.id_eq.symm
  have := congrArg (List.filterMap id) hids
  simpa only [List.filterMap_map, Function.id_comp] using this

theorem declared_usable_iff (h : List.Forall₂ CollectionDeclaration.Declares ds cs) :
    (∀ d ∈ ds, IsTypeName d.typeName ∧ IsTypeName d.pluralTypeName) ↔ ∀ c ∈ cs, c.Usable := by
  apply forall_mem_iff_of_forall₂ h
  intro d c hc
  rw [hc.typeName_eq, hc.pluralTypeName_eq]
  rfl

/-- Every relation of every collection resolves exactly when every declared target is the id or
the name of a declared collection. -/
theorem declared_resolve_iff (h : List.Forall₂ CollectionDeclaration.Declares ds cs) :
    (∀ d ∈ ds, ∀ target, d.RelatesTo target →
        ∃ other ∈ ds, other.id = some target ∨ other.name = target) ↔
      ∀ c ∈ cs, ∀ f ∈ c.fields, f.Resolves cs := by
  apply forall_mem_iff_of_forall₂ h
  intro d c hc
  have found : ∀ target, (∃ other ∈ ds, other.id = some target ∨ other.name = target) ↔
      (Collection.target? cs target).isSome := by
    intro target
    rw [Collection.target?_isSome_iff]
    apply exists_mem_iff_of_forall₂ h
    intro d c hc
    rw [hc.id_eq, hc.name_eq]
  simp only [found, hc.relatesTo_iff]
  constructor
  · exact fun hall f hf target k hk => hall target ⟨f, hf, k, hk⟩
  · rintro hall target ⟨f, hf, k, hk⟩
    exact hall f hf target k hk

end

theorem Document.declares_iff_valid (d : Document) :
    (∃ cs, List.Forall₂ CollectionDeclaration.Declares d.collections cs) ↔
      ∀ position c, d.collections[position]? = some c →
        ∃ parsed, Collection.ofDeclaration position c = .ok parsed := by
  simp only [exists_forall₂_iff, Collection.ofDeclaration_ok_iff, List.mem_iff_getElem?]
  constructor
  · exact fun h position c hc => h c ⟨position, hc⟩
  · rintro h c ⟨position, hc⟩
    exact h position c hc

/-- No two collections share a name exactly when each list of names has no name twice. -/
theorem Collection.pairwise_apart_iff (cs : List Collection) :
    cs.Pairwise Apart ↔ (cs.map (·.name)).Nodup ∧ (cs.filterMap (·.id)).Nodup ∧
      (cs.map (·.typeName)).Nodup ∧ (cs.map (·.pluralTypeName)).Nodup := by
  simp only [List.Nodup, List.pairwise_map, List.pairwise_filterMap, ← List.pairwise_and_iff]
  have step : ∀ a b : Collection, a.Apart b ↔ a.name ≠ b.name ∧
      (∀ x, a.id = some x → ∀ y, b.id = some y → x ≠ y) ∧ a.typeName ≠ b.typeName ∧
      a.pluralTypeName ≠ b.pluralTypeName := by
    intro a b
    constructor
    · intro h
      refine ⟨h.names, ?_, h.typeNames, h.pluralTypeNames⟩
      rintro x hx y hy rfl
      exact h.ids x hx hy
    · rintro ⟨hn, hi, ht, hp⟩
      exact ⟨hn, fun x hx hy => hi x hx x hy rfl, ht, hp⟩
  constructor
  · exact fun h => h.imp fun {a b} => (step a b).mp
  · exact fun h => h.imp fun {a b} => (step a b).mpr

/-! ## The law -/

/-- A document compiles exactly when nothing stands against it, under either policy. -/
theorem a_document_compiles_exactly_when_acceptable (policy : EmptyListPolicy) (d : Document) :
    (∃ s, d.compile policy = .ok s) ↔ d.Acceptable := by
  simp only [Document.compile_ok_iff]
  constructor
  · rintro ⟨s, cs, hcs, hu, hpair, hres, -⟩
    rw [Collection.pairwise_apart_iff] at hpair
    obtain ⟨hnames, hids, htypes, hplurals⟩ := hpair
    exact
      { collections_valid := d.declares_iff_valid.mp ⟨cs, hcs⟩
        names_differ := declared_names_eq hcs ▸ hnames
        ids_differ := declared_ids_eq hcs ▸ hids
        type_names_usable := (declared_usable_iff hcs).mpr hu
        type_names_differ := declared_map_eq hcs (fun _ _ hc => hc.typeName_eq) ▸ htypes
        plural_type_names_differ :=
          declared_map_eq hcs (fun _ _ hc => hc.pluralTypeName_eq) ▸ hplurals
        relations_resolve := (declared_resolve_iff hcs).mpr hres }
  · intro h
    obtain ⟨cs, hcs⟩ := d.declares_iff_valid.mpr h.collections_valid
    have htypes := h.type_names_differ
    have hplurals := h.plural_type_names_differ
    rw [declared_map_eq hcs fun _ _ hc => hc.typeName_eq] at htypes
    rw [declared_map_eq hcs fun _ _ hc => hc.pluralTypeName_eq] at hplurals
    have hpair := (Collection.pairwise_apart_iff cs).mpr
      ⟨declared_names_eq hcs ▸ h.names_differ, declared_ids_eq hcs ▸ h.ids_differ, htypes, hplurals⟩
    exact ⟨_, cs, hcs, (declared_usable_iff hcs).mp h.type_names_usable, hpair,
      (declared_resolve_iff hcs).mp h.relations_resolve, rfl⟩

end StoreClient
