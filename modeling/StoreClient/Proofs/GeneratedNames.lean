-- The law of generated names: which of them two collections may share. Type names are compared
-- with type names, and the names made from plurals with each other; between the two sorts nothing
-- is compared, so what one collection calls a record another may call its records.
import StoreClient.Proofs.Acceptance

namespace StoreClient

/-- The names that are generated for a collection. -/
def Bundle.generatedNames (b : Bundle) : List String := [b.typeName, b.pluralTypeName]

/-- No generated name of a collection is one of another collection. -/
def Schema.NamesApart (s : Schema) : Prop :=
  s.bundles.Pairwise fun a b => a.generatedNames.Disjoint b.generatedNames

/-- One of two collections is to have the name for a single record that the other is to have for
many. -/
def CollectionDeclaration.Crosses (c other : CollectionDeclaration) : Prop :=
  c.typeName = other.pluralTypeName ∨ c.pluralTypeName = other.typeName

/-- Four names that come in two pairs differ from pair to pair. -/
theorem Bundle.disjoint_generatedNames_iff (a b : Bundle) :
    a.generatedNames.Disjoint b.generatedNames ↔
      (a.typeName ≠ b.typeName ∧ a.pluralTypeName ≠ b.pluralTypeName) ∧
        a.typeName ≠ b.pluralTypeName ∧ a.pluralTypeName ≠ b.typeName := by
  simp only [generatedNames, List.disjoint_cons_left, List.mem_cons, List.not_mem_nil, or_false,
    not_or, List.disjoint_nil_left, and_true]
  constructor
  · rintro ⟨⟨htype, hcross⟩, hcross', hplural⟩
    exact ⟨⟨htype, hplural⟩, hcross, hcross'⟩
  · rintro ⟨⟨htype, hplural⟩, hcross, hcross'⟩
    exact ⟨⟨htype, hcross⟩, hcross', hplural⟩

section

variable {ds : List CollectionDeclaration} {cs : List Collection}

/-- Whether names cross is the same for declarations and for the collections they declare. -/
theorem declared_crosses_iff (h : List.Forall₂ CollectionDeclaration.Declares ds cs) :
    ds.Pairwise (fun c other => ¬ c.Crosses other) ↔ cs.Pairwise fun c other =>
      c.typeName ≠ other.pluralTypeName ∧ c.pluralTypeName ≠ other.typeName := by
  have hnames : ds.map (fun c => (c.typeName, c.pluralTypeName)) =
      cs.map fun c => (c.typeName, c.pluralTypeName) := by
    apply declared_map_eq h
    intro d c hc
    rw [hc.typeName_eq, hc.pluralTypeName_eq]
  have hpairs := congrArg (List.Pairwise fun p q => p.1 ≠ q.2 ∧ p.2 ≠ q.1) hnames
  simp only [List.pairwise_map] at hpairs
  simp only [CollectionDeclaration.Crosses, not_or]
  exact iff_of_eq hpairs

end

/-! ## The law -/

/-- The generated names of a compiled document keep apart exactly when no two collections cross:
names of one sort always differ, and names of different sorts are not compared. -/
theorem generated_names_meet_only_crosswise (policy : EmptyListPolicy) (d : Document) (s : Schema)
    (h : d.compile policy = .ok s) :
    s.NamesApart ↔ d.collections.Pairwise fun c other => ¬ c.Crosses other := by
  obtain ⟨cs, hcs, -, hapart, -, rfl⟩ := (d.compile_ok_iff policy s).mp h
  rw [declared_crosses_iff hcs, Schema.NamesApart, List.pairwise_map]
  simp only [Bundle.disjoint_generatedNames_iff]
  constructor
  · intro hall
    exact hall.imp fun hpair => hpair.2
  · intro hcross
    exact (hapart.and hcross).imp fun hpair =>
      ⟨⟨hpair.1.typeNames, hpair.1.pluralTypeNames⟩, hpair.2⟩

/-- In the gallery nothing crosses. -/
theorem the_gallery_keeps_its_names_apart : ∃ s, gallery.compile .null = .ok s ∧
    (s.NamesApart ↔ gallery.collections.Pairwise fun c other => ¬ c.Crosses other) :=
  ⟨_, rfl, generated_names_meet_only_crosswise .null gallery _ rfl⟩

/-- An office: a person is one of the people, and each of the staff is called people. -/
def office : Document where
  collections := [
    { id := none, name := "people", singular := some "person", plural := none, fields := [] },
    { id := none, name := "staff", singular := some "people", plural := none, fields := [] }]

/-- The document compiles, although both collections have the name `People`. -/
theorem the_office_shares_a_name : ∃ s, office.compile .null = .ok s ∧ ¬ s.NamesApart := by
  refine ⟨⟨[⟨"people", none, "Person", "People", [], [], [], []⟩,
    ⟨"staff", none, "People", "Staff", [], [], [], []⟩]⟩, rfl, ?_⟩
  intro hapart
  have hpair := List.rel_of_pairwise_cons hapart List.mem_cons_self
  exact hpair (List.mem_cons_of_mem _ List.mem_cons_self) List.mem_cons_self

end StoreClient
