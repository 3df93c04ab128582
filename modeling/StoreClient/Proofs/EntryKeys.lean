-- The law of the keys: no two entries of a shape compete for one key. A list of files adds
-- three patches to the changes of a record, each with a name and a key of its own. The
-- names that a collection reserves for a field and its patches are the names and keys of
-- the entries that the field gives, so it is enough that no reserved name stands twice.
import Mathlib.Data.List.Flatten
import Mathlib.Data.List.Perm.Basic
import StoreClient.Proofs.Compilation

namespace StoreClient

/-! ## What a field reserves -/

namespace Field

/-- The name of a field, then the names and keys of its patches. -/
def reserved (f : Field) : List String := f.name :: f.companionNames

variable {policy : EmptyListPolicy} {f : Field}

theorem name_of_readField {r : ReadField} (h : f.readField? policy = some r) : r.name = f.name := by
  unfold readField? at h
  obtain ⟨t, -, rfl⟩ := Option.map_eq_some_iff.mp h
  rfl

/-- An entry of a record to be created is the field itself, never a patch of it. -/
theorem createField_eq_some {e : WriteField} (h : f.createField? policy = some e) :
    e.name = f.name ∧ e.wireKey = f.name ∧ e.isCompanion = false := by
  have plain : ∀ op, f.codec? policy ≠ some (.arrayPatch op) := by
    intro op hc
    unfold codec? at hc
    split at hc <;> try cases hc
    split at hc <;> cases hc
  unfold createField? at h
  split at h
  · cases h
  · cases h
    exact ⟨rfl, rfl, rfl⟩
  · cases h
    exact ⟨rfl, rfl, rfl⟩
  · obtain ⟨t, -, rfl⟩ := Option.map_eq_some_iff.mp h
    refine ⟨rfl, rfl, ?_⟩
    unfold WriteField.isCompanion WriteField.patch? written
    split
    · rename_i op hop
      exact absurd hop (plain op)
    · rfl

end Field

/-- The name and the key of an entry. -/
def WriteField.keys (e : WriteField) : List String := [e.name, e.wireKey]

/-- The patches among the entries of a change. -/
def Bundle.companions (b : Bundle) : List WriteField := b.update.filter (·.isCompanion)

namespace Field

/-- The patches of a list of files. -/
def patches (f : Field) : List WriteField :=
  match f.form with
  | .file .multiple _ => Patch.all.map (companion f.name)
  | _ => []

variable (policy : EmptyListPolicy) (f : Field)

theorem keys_of_patches : f.patches.flatMap (·.keys) = f.companionNames := by
  obtain ⟨name, form⟩ := f
  cases form with
  | file c required => cases c <;> rfl
  | _ => rfl

/-- A list of files has every patch, and no other field has any. -/
theorem mem_patches_iff (e : WriteField) :
    e ∈ f.patches ↔ (∃ required, f.form = .file .multiple required) ∧
      ∃ op, e = companion f.name op := by
  unfold patches
  constructor
  · intro he
    split at he
    · rename_i required hform
      obtain ⟨op, -, rfl⟩ := List.mem_map.mp he
      exact ⟨⟨required, hform⟩, op, rfl⟩
    · cases he
  · rintro ⟨⟨required, hform⟩, op, rfl⟩
    rw [hform]
    refine List.mem_map_of_mem ?_
    cases op <;> decide

theorem patches_are_companions : ∀ e ∈ f.patches, e.isCompanion = true := by
  intro e he
  obtain ⟨-, op, rfl⟩ := (f.mem_patches_iff e).mp he
  rfl

/-- The entries of a change: the field itself, if it can be written, then its patches. -/
theorem updateFields_eq : ∃ own : Option WriteField,
    f.updateFields policy = own.toList ++ f.patches ∧
      ∀ e ∈ own, e.name = f.name ∧ e.wireKey = f.name ∧ e.isCompanion = false := by
  obtain ⟨name, form⟩ := f
  cases form with
  | autoDateTime => exact ⟨none, rfl, fun _ he => nomatch he⟩
  | file c required =>
    refine ⟨some (written ⟨name, .file c required⟩ (.clearable (c.apply .binary))
      (.clearable (c.apply .binary)) true none), ?_, ?_⟩
    · cases c <;> rfl
    · intro e he
      cases he
      exact ⟨rfl, rfl, rfl⟩
  | _ =>
    refine ⟨createField? policy _, ?_, fun e he => createField_eq_some he⟩
    exact (List.append_nil _).symm

/-- The names of the entries of a change are reserved, in the same order, and so are their
keys: `k` is one or the other. -/
theorem updateFields_sublist_reserved {k : WriteField → String} (hk : ∀ e, k e ∈ e.keys) :
    ((f.updateFields policy).map k).Sublist f.reserved := by
  obtain ⟨own, heq, hown⟩ := f.updateFields_eq policy
  have hpatches : (f.patches.map k).Sublist f.companionNames := by
    rw [← keys_of_patches, List.map_eq_flatMap]
    exact List.Sublist.flatMap_right _ fun e _ => List.singleton_sublist.mpr (hk e)
  rw [heq, List.map_append]
  cases own with
  | none => exact hpatches.cons _
  | some e =>
    obtain ⟨hname, hkey, -⟩ := hown e rfl
    have hown : k e = f.name := by simpa [WriteField.keys, hname, hkey] using hk e
    rw [Option.toList_some, List.map_singleton, hown]
    exact hpatches.cons_cons _

/-- Of the entries of a change the companions are exactly the patches. -/
theorem filter_isCompanion_updateFields :
    (f.updateFields policy).filter (·.isCompanion) = f.patches := by
  obtain ⟨own, heq, hown⟩ := f.updateFields_eq policy
  have hnone : own.toList.filter (·.isCompanion) = [] := by
    rw [List.filter_eq_nil_iff]
    intro e he
    rw [(hown e (Option.mem_toList.mp he)).2.2]
    exact Bool.false_ne_true
  rw [heq, List.filter_append, hnone, List.nil_append, List.filter_eq_self]
  exact f.patches_are_companions

end Field

/-! ## What a collection reserves -/

/-- The declaration has a field of this name, whether or not a shape shows it. -/
def CollectionDeclaration.HasField (d : CollectionDeclaration) (name : String) : Prop :=
  ∃ j ∈ d.fields, j.get? "name" = some (.text name)

/-- The declaration has a field of this name that holds a list of files. -/
def CollectionDeclaration.HasFileList (d : CollectionDeclaration) (name : String) : Prop :=
  ∃ j ∈ d.fields, j.get? "name" = some (.text name) ∧ j.get? "type" = some (.text "file") ∧
    j.get? "mode" = some (.text "multiple")

namespace CollectionDeclaration.Declares

variable {d : CollectionDeclaration} {c : Collection}

theorem hasField_iff (h : d.Declares c) (name : String) :
    d.HasField name ↔ name ∈ c.fields.map (·.name) := by
  rw [List.mem_map]
  apply exists_mem_iff_of_forall₂ h.fields
  intro j f hf
  rw [Field.name_of_declaration hf, Option.some.injEq, Json.text.injEq]

theorem hasFileList_iff (h : d.Declares c) (name : String) :
    d.HasFileList name ↔
      ∃ f ∈ c.fields, f.name = name ∧ ∃ required, f.form = .file .multiple required := by
  apply exists_mem_iff_of_forall₂ h.fields
  intro j f hf
  rw [Field.name_of_declaration hf, Option.some.injEq, Json.text.injEq,
    Field.holds_files_iff_declared hf]
  rfl

/-- No field reserves a name that it, or another field, already has. -/
theorem reserved_nodup (h : d.Declares c) : (c.fields.flatMap (·.reserved)).Nodup := by
  have hperm := List.flatMap_append_perm c.fields (fun f => [f.name]) (·.companionNames)
  rw [← List.map_eq_flatMap] at hperm
  refine hperm.nodup_iff.mp (List.nodup_append.mpr ⟨h.names_differ, h.patches_differ, ?_⟩)
  rintro n hn _ hm rfl
  exact h.patches_are_new n hm hn

/-- Entries do not clash if each field gives reserved names only. -/
theorem nodup_of_sublist_reserved {α : Type} (h : d.Declares c) (entries : Field → List α)
    (k : α → String) (hk : ∀ f, ((entries f).map k).Sublist f.reserved) :
    ((c.fields.flatMap entries).map k).Nodup := by
  rw [List.map_flatMap]
  exact h.reserved_nodup.sublist (List.Sublist.flatMap_right _ fun f _ => hk f)

theorem nodup_of_own_name {α : Type} (h : d.Declares c) (own? : Field → Option α)
    (k : α → String) (hk : ∀ f, ∀ e ∈ own? f, k e = f.name) :
    ((c.fields.filterMap own?).map k).Nodup := by
  rw [List.filterMap_eq_flatMap_toList]
  apply h.nodup_of_sublist_reserved
  intro f
  cases he : own? f with
  | none => exact List.nil_sublist _
  | some e =>
    rw [Option.toList_some, List.map_singleton, hk f e he]
    exact List.singleton_sublist.mpr List.mem_cons_self

end CollectionDeclaration.Declares

/-! ## The law -/

/-- Within each shape of a bundle every key belongs to one entry. The patches are those of the
declared lists of files; their names and keys are all different and belong to no declared field.
Every other entry of a change goes under the name of a declared field. -/
structure KeysApart (d : CollectionDeclaration) (b : Bundle) : Prop where
  read_names : (b.read.map (·.name)).Nodup
  create_names : (b.create.map (·.name)).Nodup
  create_keys : (b.create.map (·.wireKey)).Nodup
  update_names : (b.update.map (·.name)).Nodup
  update_keys : (b.update.map (·.wireKey)).Nodup
  patches_of_files : ∀ e, e ∈ b.companions ↔
    ∃ name, d.HasFileList name ∧ ∃ op, e = Field.companion name op
  patch_keys : (b.companions.flatMap (·.keys)).Nodup
  patches_are_new : ∀ e ∈ b.companions, ∀ key ∈ e.keys, ¬ d.HasField key
  others_are_fields : ∀ e ∈ b.update, e.isCompanion = false →
    e.wireKey = e.name ∧ d.HasField e.name

theorem Collection.companions_shapes (policy : EmptyListPolicy) (all : List Collection)
    (c : Collection) : (c.shapes policy all).companions = c.fields.flatMap (·.patches) := by
  simp only [Bundle.companions, Collection.shapes, List.filter_flatMap,
    Field.filter_isCompanion_updateFields]

theorem CollectionDeclaration.Declares.keysApart {d : CollectionDeclaration} {c : Collection}
    (h : d.Declares c) (policy : EmptyListPolicy) (all : List Collection) :
    KeysApart d (c.shapes policy all) := by
  have hkeys : (c.shapes policy all).companions.flatMap (·.keys) =
      c.fields.flatMap (·.companionNames) := by
    simp only [Collection.companions_shapes, List.flatMap_assoc, Field.keys_of_patches]
  refine ⟨?_, ?_, ?_, ?_, ?_, ?_, ?_, ?_, ?_⟩
  · exact h.nodup_of_own_name _ _ fun f e he => Field.name_of_readField he
  · exact h.nodup_of_own_name _ _ fun f e he => (Field.createField_eq_some he).1
  · exact h.nodup_of_own_name _ _ fun f e he => (Field.createField_eq_some he).2.1
  · exact h.nodup_of_sublist_reserved _ _ fun f =>
      f.updateFields_sublist_reserved policy fun _ => List.mem_cons_self
  · exact h.nodup_of_sublist_reserved _ _ fun f =>
      f.updateFields_sublist_reserved policy fun _ => List.mem_cons_of_mem _ List.mem_cons_self
  · intro e
    simp only [Collection.companions_shapes, List.mem_flatMap, Field.mem_patches_iff,
      h.hasFileList_iff]
    constructor
    · rintro ⟨f, hf, hfiles, op, he⟩
      exact ⟨f.name, ⟨f, hf, rfl, hfiles⟩, op, he⟩
    · rintro ⟨_, ⟨f, hf, rfl, hfiles⟩, op, he⟩
      exact ⟨f, hf, hfiles, op, he⟩
  · rw [hkeys]
    exact h.patches_differ
  · intro e he key hkey hfield
    have hmem : key ∈ c.fields.flatMap (·.companionNames) := by
      rw [← hkeys]
      exact List.mem_flatMap.mpr ⟨e, he, hkey⟩
    exact h.patches_are_new key hmem ((h.hasField_iff key).mp hfield)
  · intro e he hown
    obtain ⟨f, hf, hef⟩ := List.mem_flatMap.mp he
    obtain ⟨own, heq, hall⟩ := f.updateFields_eq policy
    rw [heq, List.mem_append] at hef
    rcases hef with hef | hef
    · obtain ⟨hname, hkey, -⟩ := hall e (Option.mem_toList.mp hef)
      rw [hname, hkey]
      exact ⟨rfl, (h.hasField_iff _).mpr (List.mem_map_of_mem hf)⟩
    · rw [f.patches_are_companions e hef] at hown
      cases hown

/-- No two entries of a shape compete for one key, whatever the fields are called. -/
theorem no_two_entries_compete_for_a_key (policy : EmptyListPolicy) (d : Document) (s : Schema)
    (h : d.compile policy = .ok s) : List.Forall₂ KeysApart d.collections s.bundles := by
  obtain ⟨cs, hcs, -, -, -, rfl⟩ := (Document.compile_ok_iff policy d s).mp h
  rw [List.forall₂_map_right_iff]
  exact hcs.imp fun _ _ hc => hc.keysApart policy cs

/-- The gallery has three patches of files, and a date whose name begins like one of them. -/
theorem the_gallery_keeps_keys_apart :
    ∃ s, gallery.compile .null = .ok s ∧ List.Forall₂ KeysApart gallery.collections s.bundles :=
  ⟨_, rfl, no_two_entries_compete_for_a_key .null gallery _ rfl⟩

end StoreClient
