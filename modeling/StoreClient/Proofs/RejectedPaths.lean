-- The law of rejected paths: a path that names no file is rejected only after the directories
-- around it have been made. They are all that is left of such a write, so nothing is left exactly
-- if they were there before.
import StoreClient.Proofs.FailedRuns

namespace StoreClient

namespace FileTree

variable {faulty : Prop} {t t' : FileTree} {place p : Place} {path : Path} {part : PathPart}
  {parts : List PathPart} {data : ByteArray}

/-! ## Places on a way -/

/-- A place that the first of some parts spell. -/
def Spelt (place : Place) (parts : List PathPart) (p : Place) : Prop :=
  ∃ way, way <+: parts ∧ p = spell place way

theorem spelt_nil_iff : Spelt place [] p ↔ p = place := by
  constructor
  · rintro ⟨way, hway, rfl⟩
    rw [List.prefix_nil.mp hway]
    rfl
  · exact fun h => ⟨[], List.prefix_refl _, h⟩

theorem spelt_cons_iff :
    Spelt place (part :: parts) p ↔ p = place ∨ Spelt (onward place part) parts p := by
  constructor
  · rintro ⟨way, hway, rfl⟩
    rcases List.prefix_cons_iff.mp hway with rfl | ⟨rest, rfl, hrest⟩
    · exact .inl rfl
    · exact .inr ⟨rest, hrest, rfl⟩
  · rintro (rfl | ⟨way, hway, rfl⟩)
    · exact ⟨[], List.nil_prefix, rfl⟩
    · exact ⟨part :: way, (List.prefix_cons_inj part).mpr hway, rfl⟩

/-- When directories have been made, there is one at each place on the way. -/
theorem isDirectory_of_makeDirectories (ht : t.WellFormed) (hplace : t.isDirectory place = true)
    (h : t.makeDirectories place parts = (true, t')) (hp : Spelt place parts p) :
    t'.isDirectory p = true := by
  induction parts generalizing t place with
  | nil =>
    rw [spelt_nil_iff] at hp
    cases h
    rw [hp, hplace]
  | cons part rest ih =>
    rcases spelt_cons_iff.mp hp with rfl | hrest
    · have hgrows : Grows t (t.makeDirectories p (part :: rest)).2 :=
        (walked_makeDirectories ht hplace).grows
      rw [h] at hgrows
      exact hgrows.isDirectory hplace
    · cases part with
      | here => exact ih ht hplace h hrest
      | up =>
        have hparent := ht.parents place (by rw [isDirectory_iff.mp hplace]; rfl)
        exact ih ht hparent h hrest
      | name name =>
        simp only [makeDirectories] at h
        split at h
        · rename_i hnext
          exact ih ht (isDirectory_iff.mpr hnext) h hrest
        · cases h
        · rename_i hnext
          split at h
          · have hmade := ht.insert_directory hnext (by rwa [List.dropLast_concat])
            have hnew : (t.insert (place ++ [name]) .directory).isDirectory (place ++ [name]) =
                true := by
              rw [isDirectory_iff, entry?_insert (entry?_eq_none_ne_nil hnext), if_pos rfl]
            exact ih hmade hnew h hrest
          · cases h

/-- Where directories stand all along the way, none is made. -/
theorem makeDirectories_eq_self_of_spelt
    (h : ∀ p, Spelt place parts p → t.isDirectory p = true) :
    t.makeDirectories place parts = (true, t) := by
  induction parts generalizing place with
  | nil => rfl
  | cons part rest ih =>
    have hrest : t.makeDirectories (onward place part) rest = (true, t) :=
      ih fun p hp => h p (spelt_cons_iff.mpr (.inr hp))
    cases part with
    | here => exact hrest
    | up => exact hrest
    | name name =>
      have hnext : t.isDirectory (place ++ [name]) = true :=
        h _ ⟨[.name name], List.prefix_append [_] rest, rfl⟩
      simp only [makeDirectories, isDirectory_iff.mp hnext]
      exact hrest

/-! ## What is left of a rejected write -/

/-- A place around what stands at a path: the parts before the last one lead there. -/
def Around (t : FileTree) (path : Path) (p : Place) : Prop :=
  Spelt (t.start path) path.parts.dropLast p

/-- All that has come are directories around what stands at a path, and none of them is missing. -/
structure LeavesDirectories (path : Path) (t t' : FileTree) : Prop where
  working_eq : t'.working = t.working
  made : ∀ p, t.Around path p → t'.isDirectory p = true
  kept : ∀ p, t.entry? p ≠ none ∨ ¬ t.Around path p → t'.entry? p = t.entry? p
  unchanged_iff : t' = t ↔ ∀ p, t.Around path p → t.isDirectory p = true

theorem leavesDirectories (ht : t.WellFormed)
    (h : t.makeDirectories (t.start path) path.parts.dropLast = (true, t')) :
    LeavesDirectories path t t' := by
  have hstart := ht.isDirectory_start path
  have hgrows : Grows t (t.makeDirectories (t.start path) path.parts.dropLast).2 :=
    (walked_makeDirectories ht hstart).grows
  rw [h] at hgrows
  have hmade (p : Place) (hp : t.Around path p) : t'.isDirectory p = true :=
    isDirectory_of_makeDirectories ht hstart h hp
  refine ⟨hgrows.working_eq, hmade, ?_, ?_⟩
  · intro p hp
    by_contra hchanged
    have haround : t.Around path p := by
      apply spelt_of_makeDirectories
      rwa [h]
    rcases hgrows.entry p with hsame | ⟨hnone, -⟩
    · exact hchanged hsame
    · rcases hp with hthere | haway
      · exact hthere hnone
      · exact haway haround
  · constructor
    · rintro rfl
      exact hmade
    · intro hthere
      have hself : t.makeDirectories (t.start path) path.parts.dropLast = (true, t) :=
        makeDirectories_eq_self_of_spelt hthere
      rw [h] at hself
      exact congrArg Prod.snd hself

theorem Runs.makeDirectories_eq
    (h : t.Runs faulty (path.parent?.toList.map .makeDirectories) true t') :
    t.makeDirectories (t.start path) path.parts.dropLast = (true, t') := by
  cases hparent : path.parent? with
  | none =>
    rw [hparent] at h
    cases h
    rw [parent?_eq_none hparent]
    rfl
  | some parent =>
    rw [hparent] at h
    obtain ⟨-, hparts, hrooted, -⟩ := parent?_eq_some hparent
    have hafter := h.of_singleton.after_eq
    rw [after, hparts] at hafter
    rwa [start, ← hrooted]

theorem Writes.leavesDirectories (ht : t.WellFormed)
    (h : t.Writes faulty path data (.error .noFileName) t') :
    path.fileName? = none ∧ LeavesDirectories path t t' := by
  cases h with
  | unnamed hdirs hname => exact ⟨hname, FileTree.leavesDirectories ht hdirs.makeDirectories_eq⟩

end FileTree

/-! ## The law -/

namespace PlannedDisk

/-- Where all directories around are there, making them does nothing. -/
theorem steps_directories {t : FileTree} {path : Path}
    (h : ∀ p, t.Around path p → t.isDirectory p = true) :
    (Disk.steps (path.parent?.toList.map .makeDirectories) : StateM PlannedDisk Bool) (.ofTree t) =
      (true, .ofTree t) := by
  cases hparent : path.parent? with
  | none => rfl
  | some parent =>
    obtain ⟨-, hparts, hrooted, -⟩ := FileTree.parent?_eq_some hparent
    have hself : t.makeDirectories (t.start path) path.parts.dropLast = (true, t) :=
      FileTree.makeDirectories_eq_self_of_spelt h
    have hafter : t.after (.makeDirectories parent) = (true, t) := by
      rw [FileTree.after, hparts, FileTree.start, hrooted]
      exact hself
    have hstep : (ofTree t).step (.makeDirectories parent) = (true, .ofTree t) := by
      simp only [step, ofTree, hafter]
    simp only [Option.toList_some, List.map_cons, List.map_nil, Disk.steps, bind_apply, step_apply,
      hstep]
    rfl

/-- A write that is rejected for its path leaves directories around that path, and nothing else:
the tree is as it was exactly if they were all there. And where they are, a path that names no file
is indeed rejected, and nothing changes. -/
theorem a_rejected_path_leaves_only_directories (t : FileTree) (ht : t.WellFormed) (path : Path)
    (data : ByteArray) :
    let write : StateM PlannedDisk (Except WriteFault Unit) := Disk.writeFile path data
    (∀ plan, (write ⟨t, plan⟩).1 = .error .noFileName →
      path.fileName? = none ∧ FileTree.LeavesDirectories path t (write ⟨t, plan⟩).2.tree) ∧
    (path.fileName? = none → (∀ p, t.Around path p → t.isDirectory p = true) →
      write (.ofTree t) = (.error .noFileName, .ofTree t)) := by
  intro write
  constructor
  · intro plan hrejected
    have hplan : FailsOnlyIf ⟨t, plan⟩ True := fun _ _ => trivial
    have hwrites : t.Writes True path data (write ⟨t, plan⟩).1 (write ⟨t, plan⟩).2.tree :=
      writes_writeFile path data hplan
    rw [hrejected] at hwrites
    exact hwrites.leavesDirectories ht
  · intro hname hthere
    simp only [write, Disk.writeFile, bind_apply, steps_directories hthere, hname]
    rfl

/-- On the desk a way through a missing folder makes the folder, beside the client that stays; a
way through the desk itself makes nothing. -/
theorem the_desk_keeps_its_client_when_a_path_is_rejected :
    let write (path : String) : Except WriteFault Unit × PlannedDisk :=
      (Disk.writeFile (Path.ofText path) "t".toUTF8 : StateM PlannedDisk _) (.ofTree Run.desk)
    Run.desk.WellFormed ∧
      ((write "drafts/../..").1 = .error .noFileName ∧
        (write "drafts/../..").2.tree.isDirectory ["desk", "drafts"] = true ∧
        (write "drafts/../..").2.tree.entry? ["desk", "api.ts"] =
          some (.file "// previous".toUTF8)) ∧
      write "../desk/.." = (.error .noFileName, .ofTree Run.desk) := by
  intro write
  have hd : Run.desk.WellFormed := FileTree.wellFormed_of_entries (by decide) (by decide)
  have hrejected : (write "drafts/../..").1 = .error .noFileName := rfl
  have hparts : (Path.ofText "drafts/../..").parts = [.name "drafts", .up, .up] := by decide
  have hdesk : (Path.ofText "../desk/..").parts = [.up, .name "desk", .up] := by decide
  obtain ⟨-, hleft⟩ := (a_rejected_path_leaves_only_directories Run.desk hd
    (Path.ofText "drafts/../..") "t".toUTF8).1 [] hrejected
  refine ⟨hd, ⟨hrejected, ?_, ?_⟩, ?_⟩
  · apply hleft.made
    rw [FileTree.Around, hparts]
    exact ⟨[.name "drafts"], by simp, rfl⟩
  · exact hleft.kept _ (.inl nofun)
  · apply (a_rejected_path_leaves_only_directories Run.desk hd (Path.ofText "../desk/..")
      "t".toUTF8).2 rfl
    intro p hp
    rw [FileTree.Around, hdesk] at hp
    rcases FileTree.spelt_cons_iff.mp hp with rfl | hp
    · rfl
    · rcases FileTree.spelt_cons_iff.mp hp with rfl | hp
      · rfl
      · rw [FileTree.spelt_nil_iff.mp hp]
        rfl

/-- Where the path leads up from a directory that is missing, the path is rejected and the
directory is there. -/
theorem a_rejected_path_makes_a_directory :
    let write : StateM PlannedDisk (Except WriteFault Unit) :=
      Disk.writeFile (Path.ofText "a/..") "t".toUTF8
    Run.desk.WellFormed ∧ (write (.ofTree Run.desk)).1 = .error .noFileName ∧
      Run.desk.at? (Path.ofText "a") = none ∧
      (write (.ofTree Run.desk)).2.tree.at? (Path.ofText "a") = some .directory :=
  ⟨FileTree.wellFormed_of_entries (by decide) (by decide), rfl, rfl, rfl⟩

end PlannedDisk

end StoreClient
