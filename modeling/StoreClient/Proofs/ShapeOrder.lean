-- The law of the order of shapes: bundles stand in the order of their collections, and the
-- entries of every shape in the order of the declared fields. A shape leaves out the fields
-- that the store keeps to itself, and only a list of files has patches after its entry.
import StoreClient.Proofs.EntryKeys

namespace StoreClient

/-! ## What a shape takes from a field -/

/-- Entries under the names of fields: those of the fields that a shape takes, in order. -/
theorem map_filterMap_fields {α : Type} {made? : Field → Option α} {name : α → String}
    {taken : Field → Bool} {fs : List Field}
    (h : ∀ f ∈ fs, (made? f).map name = if taken f then some f.name else none) :
    (fs.filterMap made?).map name = (fs.filter taken).map (·.name) := by
  induction fs with
  | nil => rfl
  | cons f fs ih =>
    rw [List.forall_mem_cons] at h
    have hf := h.1
    cases he : made? f with
    | none =>
      have htaken : taken f = false := by
        by_contra hne
        simp [he, hne] at hf
      rw [List.filterMap_cons_none he, List.filter_cons_of_neg (by simp [htaken])]
      exact ih h.2
    | some e =>
      by_cases htaken : taken f
      · have hname : name e = f.name := by simpa [he, htaken] using hf
        rw [List.filterMap_cons_some he, List.filter_cons_of_pos htaken, List.map_cons,
          List.map_cons, hname, ih h.2]
      · simp [he, htaken] at hf

namespace Field

variable (policy : EmptyListPolicy) (f : Field)

/-- A fetched record has every field but passwords. -/
theorem map_readField? : (f.readField? policy).map (·.name) =
    if f.kind ≠ .password then some f.name else none := by
  obtain ⟨name, form⟩ := f
  cases form with
  | relation target c required => cases c <;> rfl
  | _ => rfl

/-- A record to be created has every field but automatic dates. -/
theorem map_createField? : (f.createField? policy).map (·.name) =
    if f.kind ≠ .autoDateTime then some f.name else none := by
  obtain ⟨name, form⟩ := f
  cases form with
  | relation target c required => cases c <;> rfl
  | _ => rfl

theorem map_expansion? {all : List Collection} {f : Field} (h : f.Resolves all) :
    (f.expansion? all).map (·.field) = if f.kind = .relation then some f.name else none := by
  obtain ⟨name, form⟩ := f
  cases form with
  | relation target c required =>
    obtain ⟨found, hfound⟩ := Option.isSome_iff_exists.mp (h target c rfl)
    simp [expansion?, relation?, hfound, Field.kind, FieldForm.kind]
  | _ => rfl

/-! ## Changes to a record -/

/-- A field that holds a list of files. -/
def isFileList : Bool :=
  match f.form with
  | .file .multiple _ => true
  | _ => false

/-- The entry of the field itself in a change to a record, if it has any. -/
def ownUpdate : WriteField := (f.updateFields policy).headD default

/-- The patches that follow it. -/
def patchesAfter : List WriteField :=
  if f.isFileList then [.append, .prepend, .remove].map (companion f.name) else []

theorem updateFields_eq_own : f.updateFields policy =
    if f.kind ≠ .autoDateTime then f.ownUpdate policy :: f.patchesAfter else [] := by
  obtain ⟨name, form⟩ := f
  cases form with
  | relation target c required => cases c <;> rfl
  | file c required => cases c <;> rfl
  | _ => rfl

theorem ownUpdate_keys {f : Field} (h : f.kind ≠ .autoDateTime) :
    (f.ownUpdate policy).name = f.name ∧ (f.ownUpdate policy).wireKey = f.name ∧
      (f.ownUpdate policy).isCompanion = false := by
  obtain ⟨name, form⟩ := f
  cases form with
  | autoDateTime => exact absurd rfl h
  | relation target c required =>
    cases c <;> exact createField_eq_some (show createField? policy _ = some _ from rfl)
  | file c required => exact ⟨rfl, rfl, rfl⟩
  | _ => exact createField_eq_some (show createField? policy _ = some _ from rfl)

/-- The types and the rule of an entry that is read agree with those of one that is written. -/
structure Agree (r : ReadField) (w : WriteField) : Prop where
  modelType_eq : r.modelType = w.modelType
  wireType_eq : r.wireType = w.wireType
  parse_eq : r.parse = w.serialize
  serialize_eq : r.serialize = w.serialize

/-- A field that is read and written alike gives the same entry to a record to be created and to
a change, and that entry agrees with the one of a fetched record. -/
theorem agree_of_kind {f : Field} (h : f.kind ∉ [.autoDateTime, .password, .file]) :
    ∃ r, f.readField? policy = some r ∧
      f.createField? policy = some (f.ownUpdate policy) ∧ Agree r (f.ownUpdate policy) := by
  obtain ⟨name, form⟩ := f
  cases form with
  | autoDateTime | password | file c required => simp [Field.kind, FieldForm.kind] at h
  | relation target c required => cases c <;> exact ⟨_, rfl, rfl, rfl, rfl, rfl, rfl⟩
  | _ => exact ⟨_, rfl, rfl, rfl, rfl, rfl, rfl⟩

end Field

/-! ## The law -/

/-- A declaration with the field that it declares. -/
structure DeclaresField (j : Json) (f : Field) : Prop where
  parsed : Field.ofDeclaration j = .ok f
  name_eq : j.get? "name" = some (.text f.name)
  kind_eq : j.get? "type" = some (.text f.kind.tag)
  fileList_iff : f.isFileList ↔
    j.get? "type" = some (.text "file") ∧ j.get? "mode" = some (.text "multiple")

theorem declaresField_of_ofDeclaration {j : Json} {f : Field}
    (h : Field.ofDeclaration j = .ok f) : DeclaresField j f := by
  refine ⟨h, Field.name_of_declaration h, (Field.kind_iff_declared h f.kind).mp rfl, ?_⟩
  rw [show "multiple" = Cardinality.multiple.name from rfl, ← Field.holds_files_iff_declared h]
  unfold Field.isFileList
  split
  · rename_i required hform
    exact ⟨fun _ => ⟨required, hform⟩, fun _ => rfl⟩
  · rename_i hform
    constructor
    · exact fun hfalse => absurd hfalse Bool.false_ne_true
    · rintro ⟨required, hfile⟩
      exact absurd hfile (hform required)

/-- The entries of a bundle follow the declared fields. For each field the entry of the field
itself in a change to a record is given. -/
structure Bundle.Follows (b : Bundle) (fs : List Field) (own : Field → WriteField) : Prop where
  read_names : b.read.map (·.name) = (fs.filter (·.kind ≠ .password)).map (·.name)
  create_names : b.create.map (·.name) = (fs.filter (·.kind ≠ .autoDateTime)).map (·.name)
  update_eq : b.update =
    (fs.filter (·.kind ≠ .autoDateTime)).flatMap fun f => own f :: f.patchesAfter
  own_keys : ∀ f ∈ fs, f.kind ≠ .autoDateTime →
    (own f).name = f.name ∧ (own f).wireKey = f.name ∧ (own f).isCompanion = false
  expand_fields : b.expand.map (·.field) = (fs.filter (·.kind = .relation)).map (·.name)
  entries_agree : ∀ f ∈ fs, f.kind ∉ [.autoDateTime, .password, .file] →
    ∃ r ∈ b.read, ∃ w ∈ b.create, r.name = f.name ∧ w.name = f.name ∧
      Field.Agree r w ∧ Field.Agree r (own f)

/-- A bundle is that of a collection, with its entries in the order of the declared fields. -/
structure KeepsOrder (d : CollectionDeclaration) (b : Bundle) : Prop where
  name_eq : b.name = d.name
  id_eq : b.id = d.id
  follows : ∃ fs, List.Forall₂ DeclaresField d.fields fs ∧ ∃ own, b.Follows fs own

namespace Collection

variable (policy : EmptyListPolicy) {all : List Collection} {c : Collection}

theorem updates_eq (fs : List Field) : fs.flatMap (·.updateFields policy) =
    (fs.filter (·.kind ≠ .autoDateTime)).flatMap fun f =>
      f.ownUpdate policy :: f.patchesAfter := by
  induction fs with
  | nil => rfl
  | cons f fs ih =>
    rw [List.flatMap_cons, ih, Field.updateFields_eq_own]
    by_cases hkind : f.kind = .autoDateTime
    · simp [hkind]
    · simp [hkind]

theorem shapes_follow (h : ∀ f ∈ c.fields, f.Resolves all) :
    (c.shapes policy all).Follows c.fields (·.ownUpdate policy) where
  read_names := map_filterMap_fields fun f _ => by simpa using f.map_readField? policy
  create_names := map_filterMap_fields fun f _ => by simpa using f.map_createField? policy
  update_eq := updates_eq policy c.fields
  own_keys _ _ hkind := Field.ownUpdate_keys policy hkind
  expand_fields := map_filterMap_fields fun f hf => by simpa using Field.map_expansion? (h f hf)
  entries_agree f hf hkind := by
    obtain ⟨r, hread, hcreate, hagree⟩ := Field.agree_of_kind policy hkind
    exact ⟨r, List.mem_filterMap.mpr ⟨f, hf, hread⟩, f.ownUpdate policy,
      List.mem_filterMap.mpr ⟨f, hf, hcreate⟩, Field.name_of_readField hread,
      (Field.createField_eq_some hcreate).1, hagree, hagree⟩

end Collection

/-- The bundles stand in the order of the declared collections, and the entries of each shape in
the order of the declared fields. -/
theorem shapes_keep_the_declared_order (policy : EmptyListPolicy) (d : Document) (s : Schema)
    (h : d.compile policy = .ok s) : List.Forall₂ KeepsOrder d.collections s.bundles := by
  obtain ⟨cs, hcs, -, -, hresolve, rfl⟩ := (d.compile_ok_iff policy s).mp h
  rw [List.forall₂_map_right_iff]
  refine (forall₂_and_right hcs hresolve).imp fun declaration c hc => ?_
  obtain ⟨hdeclares, hresolve⟩ := hc
  exact ⟨hdeclares.name_eq, hdeclares.id_eq, c.fields,
    hdeclares.fields.imp fun _ _ => declaresField_of_ofDeclaration, _,
    Collection.shapes_follow policy hresolve⟩

/-- Accounts, with fields that some shapes leave out and one that changes in parts. -/
def accounts : Document where
  collections := [
    { id := none, name := "accounts", singular := some "account", plural := none, fields := [
      .object [("name", .text "secret"), ("type", .text "password")],
      .object [("name", .text "photos"), ("type", .text "file"), ("mode", .text "multiple")],
      .object [("name", .text "since"), ("type", .text "autodate")],
      .object [("name", .text "friend"), ("type", .text "relation"), ("to", .text "accounts"),
        ("mode", .text "single")]] }]

theorem the_accounts_keep_their_order : ∃ s, accounts.compile .null = .ok s ∧
    List.Forall₂ KeepsOrder accounts.collections s.bundles :=
  ⟨_, rfl, shapes_keep_the_declared_order .null accounts _ rfl⟩

end StoreClient
