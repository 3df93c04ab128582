-- The law of the counts: what a check reports of a source is what its document declares. It counts
-- the fields that can be fetched, so passwords are left out; all else that is declared is counted.
import StoreClient.Proofs.FailedRuns
import StoreClient.Proofs.ShapeOrder

namespace StoreClient

/-! ## What a document declares -/

/-- Whether a value gives itself a type. -/
def Json.isTyped (tag : String) (j : Json) : Bool := (j.get? "type").bind asText? = some tag

namespace Document

/-- The declarations of all fields. -/
def declarations (d : Document) : List Json := d.collections.flatMap (·.fields)

/-- How many fields of a kind are declared. -/
def declared (d : Document) (kind : Kind) : Nat := d.declarations.countP (·.isTyped kind.tag)

end Document

theorem Json.isTyped_iff {tag : String} {j : Json} :
    j.isTyped tag = true ↔ j.get? "type" = some (.text tag) := by
  rw [isTyped, decide_eq_true_eq, Option.bind_eq_some_iff]
  constructor
  · rintro ⟨k, hk, htext⟩
    cases k <;> cases htext
    exact hk
  · exact fun h => ⟨_, h, rfl⟩

theorem Field.isTyped_of_declaration {j : Json} {f : Field} (h : ofDeclaration j = .ok f)
    (kind : Kind) : j.isTyped kind.tag = decide (f.kind = kind) := by
  rw [Bool.eq_iff_iff, Json.isTyped_iff, decide_eq_true_eq, kind_iff_declared h]

/-! ## What is counted -/

theorem countP_eq_of_forall₂ {α β : Type} {as : List α} {bs : List β} {p : α → Bool} {q : β → Bool}
    (h : List.Forall₂ (fun a b => p a = q b) as bs) : as.countP p = bs.countP q := by
  have hsame : (as.map p).countP id = (bs.map q).countP id := by rw [map_eq_of_forall₂ h]
  simpa only [List.countP_map, Function.id_comp] using hsame

/-- The entries of a bundle that are counted, by the declarations of its collection. -/
structure Bundle.Counted (c : CollectionDeclaration) (b : Bundle) : Prop where
  read : b.read.length = c.fields.countP fun j => !j.isTyped Kind.password.tag
  expand : b.expand.length = c.fields.countP (·.isTyped Kind.relation.tag)

theorem CollectionDeclaration.Declares.counted {d : CollectionDeclaration} {c : Collection}
    {all : List Collection} (h : d.Declares c) (policy : EmptyListPolicy)
    (hresolve : ∀ f ∈ c.fields, f.Resolves all) : (c.shapes policy all).Counted d := by
  have hfollows := Collection.shapes_follow policy hresolve
  have hread : (c.shapes policy all).read.length = c.fields.countP (·.kind ≠ .password) := by
    have hnames := congrArg List.length hfollows.read_names
    rwa [List.length_map, List.length_map, ← List.countP_eq_length_filter] at hnames
  have hexpand : (c.shapes policy all).expand.length = c.fields.countP (·.kind = .relation) := by
    have hnames := congrArg List.length hfollows.expand_fields
    rwa [List.length_map, List.length_map, ← List.countP_eq_length_filter] at hnames
  constructor
  · rw [hread]
    refine (countP_eq_of_forall₂ (h.fields.imp fun j f hf => ?_)).symm
    simp [Field.isTyped_of_declaration hf]
  · rw [hexpand]
    refine (countP_eq_of_forall₂ (h.fields.imp fun j f hf => ?_)).symm
    exact Field.isTyped_of_declaration hf .relation

theorem Document.counted {d : Document} {s : Schema} {policy : EmptyListPolicy}
    (h : d.compile policy = .ok s) :
    List.Forall₂ (fun c b => Bundle.Counted c b) d.collections s.bundles := by
  obtain ⟨cs, hcs, -, -, hresolve, rfl⟩ := (d.compile_ok_iff policy s).mp h
  rw [List.forall₂_map_right_iff]
  refine (forall₂_and_right hcs hresolve).imp fun declaration c hc => ?_
  exact hc.1.counted policy hc.2

/-! ## The law -/

namespace Run

/-- The counts of a document: all its collections, all its relations, and all its fields but the
passwords. -/
structure Counts.Tell (counts : Counts) (d : Document) : Prop where
  collections_eq : counts.collections = d.collections.length
  fields_eq : counts.fields + d.declared .password = d.declarations.length
  relations_eq : counts.relations = d.declared .relation

theorem Counts.Tell.unique {counts counts' : Counts} {d : Document} (h : counts.Tell d)
    (h' : counts'.Tell d) : counts = counts' := by
  obtain ⟨collections, fields, relations⟩ := counts
  obtain ⟨collections', fields', relations'⟩ := counts'
  have hfields := h.fields_eq.trans h'.fields_eq.symm
  rw [Counts.mk.injEq]
  exact ⟨h.collections_eq.trans h'.collections_eq.symm, Nat.add_right_cancel hfields,
    h.relations_eq.trans h'.relations_eq.symm⟩

theorem Counts.tell_ofSchema {d : Document} {s : Schema} {policy : EmptyListPolicy}
    (h : d.compile policy = .ok s) : (Counts.ofSchema s).Tell d := by
  have hcounted := d.counted h
  have hread : (s.bundles.flatMap (·.read)).length =
      d.declarations.countP fun j => !j.isTyped Kind.password.tag := by
    rw [List.length_flatMap, Document.declarations, List.countP_flatMap]
    exact congrArg List.sum (map_eq_of_forall₂ (hcounted.imp fun c b hb => hb.read.symm)).symm
  have hexpand : (s.bundles.flatMap (·.expand)).length = d.declared .relation := by
    rw [List.length_flatMap, Document.declared, Document.declarations, List.countP_flatMap]
    exact congrArg List.sum (map_eq_of_forall₂ (hcounted.imp fun c b hb => hb.expand.symm)).symm
  have hsplit : d.declarations.length = d.declared .password +
      d.declarations.countP fun j => !j.isTyped Kind.password.tag := by
    simpa [Document.declared] using
      List.length_eq_countP_add_countP (Json.isTyped Kind.password.tag)
  refine ⟨hcounted.length_eq.symm, ?_, hexpand⟩
  rw [hsplit, Nat.add_comm, ← hread]
  rfl

variable {r : Request} {disk : PlannedDisk}

/-- A run in two parts succeeds if the first part does, and the second with what comes of it. -/
theorem bind_ok_iff {α β : Type} {first : Run (StateM PlannedDisk) α}
    {second : α → Run (StateM PlannedDisk) β} {b : β} :
    ((first >>= second).outcome disk).1.1 = .ok b ↔ ∃ a, (first.outcome disk).1.1 = .ok a ∧
      (second a (first.outcome disk).1.2 (first.outcome disk).2).1.1 = .ok b := by
  rw [outcome_apply, bind_apply, outcome_apply]
  cases (first [] disk).1.1 with
  | error fault => simp
  | ok a => simp

theorem compile_outcome (policy : EmptyListPolicy) (d : Document) :
    ((compile policy d : Run (StateM PlannedDisk) Schema).outcome disk).1.1 =
      (d.compile policy).mapError .schema := by
  unfold compile
  cases d.compile policy <;> rfl

theorem loadSchema_ok_iff {s : Schema} :
    ((loadSchema r : Run (StateM PlannedDisk) Schema).outcome disk).1.1 = .ok s ↔
      ∃ d, ((load r.input r.choice r.catalog : Run (StateM PlannedDisk) Document).outcome
        disk).1.1 = .ok d ∧ d.compile r.policy = .ok s := by
  have hcompile (d : Document) (log : List Event) (disk' : PlannedDisk) :
      ((compile r.policy d : Run (StateM PlannedDisk) Schema) log disk').1.1 = .ok s ↔
        d.compile r.policy = .ok s := by
    rw [reads_compile r.policy d, compile_outcome]
    cases d.compile r.policy <;> simp [Except.mapError]
  rw [loadSchema, bind_ok_iff]
  simp only [hcompile]

theorem check_ok_iff {counts : Counts} :
    ((check r : Run (StateM PlannedDisk) Counts).outcome disk).1.1 = .ok counts ↔
      ∃ s, ((loadSchema r : Run (StateM PlannedDisk) Schema).outcome disk).1.1 = .ok s ∧
        Counts.ofSchema s = counts := by
  rw [check, bind_ok_iff]
  refine exists_congr fun s => and_congr_right fun hs => ?_
  exact ⟨fun h => Except.ok.inj h, congrArg Except.ok⟩

/-- A check reports counts exactly if its source gives a document that compiles, and they are the
counts of what the document declares, passwords left out. -/
theorem a_check_counts_all_but_passwords (disk : PlannedDisk) (r : Request) (counts : Counts) :
    ((check r : Run (StateM PlannedDisk) Counts).outcome disk).1.1 = .ok counts ↔
      ∃ d s, ((load r.input r.choice r.catalog : Run (StateM PlannedDisk) Document).outcome
        disk).1.1 = .ok d ∧ d.compile r.policy = .ok s ∧ counts.Tell d := by
  rw [check_ok_iff]
  constructor
  · rintro ⟨s, hs, rfl⟩
    obtain ⟨d, hd, hs⟩ := loadSchema_ok_iff.mp hs
    exact ⟨d, s, hd, hs, Counts.tell_ofSchema hs⟩
  · rintro ⟨d, s, hd, hs, htell⟩
    exact ⟨s, loadSchema_ok_iff.mpr ⟨d, hd, hs⟩, (Counts.tell_ofSchema hs).unique htell⟩

/-! ### Lockers with a code -/

/-- A disk with a document on it. -/
def published (d : Document) : PlannedDisk :=
  .ofTree ⟨[(["schema.json"], .file d.toJson.compactText.toUTF8)], []⟩

/-- Lockers, of which nothing but the code is declared. -/
def lockers : Document where
  collections := [
    { id := none, name := "lockers", singular := none, plural := none, fields := [
      .object [("name", .text "code"), ("type", .text "password")]] }]

/-- One field is declared and none is counted. -/
theorem a_check_leaves_out_a_password :
    let r : Request := ⟨"schema.json", .auto, .null, default⟩
    ∃ d s, ((load r.input r.choice r.catalog : Run (StateM PlannedDisk) Document).outcome
        (published lockers)).1.1 = .ok d ∧ d.compile r.policy = .ok s ∧
      d.declarations.length = 1 ∧
      ((check r : Run (StateM PlannedDisk) Counts).outcome (published lockers)).1.1 =
        .ok ⟨1, 0, 0⟩ := by
  intro r
  have hloaded : ((load r.input r.choice r.catalog : Run (StateM PlannedDisk) Document).outcome
      (published lockers)).1.1.toOption.map (fun d =>
        (d.declarations.length, (d.compile r.policy).toOption.map Counts.ofSchema)) =
          some (1, some ⟨1, 0, 0⟩) := by
    decide +kernel
  cases hd : ((load r.input r.choice r.catalog : Run (StateM PlannedDisk) Document).outcome
      (published lockers)).1.1 with
  | error fault =>
    rw [hd] at hloaded
    cases hloaded
  | ok d =>
    rw [hd] at hloaded
    obtain ⟨hdeclared, hcompiled⟩ := Prod.mk.inj (Option.some.inj hloaded)
    cases hs : d.compile r.policy with
    | error fault =>
      rw [hs] at hcompiled
      cases hcompiled
    | ok s =>
      rw [hs] at hcompiled
      exact ⟨d, s, rfl, hs, hdeclared, check_ok_iff.mpr
        ⟨s, loadSchema_ok_iff.mpr ⟨d, hd, hs⟩, Option.some.inj hcompiled⟩⟩

end Run

end StoreClient
