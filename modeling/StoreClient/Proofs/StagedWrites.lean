-- What becomes of a disk when a file is written by way of a file beside it, whichever steps
-- fail. Until the data takes the name of the file, the file is as it was; after that only the
-- names in its directory are left to be made to last.
import Mathlib.Data.List.Basic
import StoreClient.Disk.Write
import StoreClient.Proofs.MadeDirectories

namespace StoreClient

namespace FileTree

variable {faulty : Prop} {t t' t'' : FileTree} {place : Place} {path stage : Path} {s : DiskStep}
  {ok : Bool} {data : ByteArray}

/-! ## Series of steps -/

/-- The tree after a series of steps, and whether all were taken: the first that fails ends it. -/
inductive Runs (faulty : Prop) : FileTree → List DiskStep → Bool → FileTree → Prop
  | done (t : FileTree) : Runs faulty t [] true t
  | stop {t t' : FileTree} {s : DiskStep} (rest : List DiskStep) (h : t.Took faulty s false t') :
    Runs faulty t (s :: rest) false t'
  | next {t t' t'' : FileTree} {s : DiskStep} {rest : List DiskStep} {ok : Bool}
    (h : t.Took faulty s true t') (hrest : Runs faulty t' rest ok t'') :
    Runs faulty t (s :: rest) ok t''

theorem Runs.of_append {xs ys : List DiskStep} (h : t.Runs faulty (xs ++ ys) ok t') :
    ok = false ∧ t.Runs faulty xs false t' ∨
      ∃ between, t.Runs faulty xs true between ∧ between.Runs faulty ys ok t' := by
  induction xs generalizing t with
  | nil => exact .inr ⟨t, .done t, h⟩
  | cons s xs ih =>
    cases h with
    | stop _ h => exact .inl ⟨rfl, .stop xs h⟩
    | next h hrest =>
      rcases ih hrest with ⟨hok, hxs⟩ | ⟨between, hxs, hys⟩
      · exact .inl ⟨hok, .next h hxs⟩
      · exact .inr ⟨between, .next h hxs, hys⟩

theorem Runs.of_singleton (h : t.Runs faulty [s] ok t') : t.Took faulty s ok t' := by
  cases h with
  | stop _ h => exact h
  | next h hrest =>
    cases hrest
    exact h

theorem Runs.changesFile {ss : List DiskStep} (h : t.Runs faulty ss ok t')
    (hs : ∀ s ∈ ss, s.file? = some path) : ChangesFile path t t' := by
  induction h with
  | done t => exact .inl rfl
  | stop rest h => exact h.changesFile (hs _ List.mem_cons_self)
  | next h _ ih =>
    rw [List.forall_mem_cons] at hs
    exact (h.changesFile hs.1).trans (ih hs.2)

/-! ## Single steps -/

/-- A step that was taken did all that it does. -/
theorem Took.after_eq (h : t.Took faulty s true t') : t.after s = (true, t') := by
  cases h with
  | whole h => exact h
  | part done _ hok _ => cases hok

theorem Took.of_write (h : t.Took faulty (.write path data) true t') :
    ∃ place, t.filePlace? path = some place ∧ t' = t.insert place (.file data) := by
  have hafter := h.after_eq
  rw [after] at hafter
  split at hafter
  · rename_i place hplace
    cases hafter
    exact ⟨place, hplace, rfl⟩
  · cases hafter

theorem Took.of_syncFile (h : t.Took faulty (.syncFile path) ok t') : t' = t := by
  cases h with
  | whole h =>
    cases h
    rfl
  | part done _ _ h => exact h.symm

/-- A file takes another name as a whole or not at all. -/
theorem Took.of_rename (h : t.Took faulty (.rename stage path) ok t') : ok = false ∧ t' = t ∨
    ok = true ∧ ∃ old new entry, t.filePlace? stage = some old ∧ t.filePlace? path = some new ∧
      t.entry? old = some entry ∧ t' = (t.erase old).insert new entry := by
  cases h with
  | part done _ hok h => exact .inl ⟨hok, h.symm⟩
  | whole h =>
    rw [after] at h
    split at h
    · rename_i old new hold hnew
      split at h
      · rename_i entry hentry
        cases h
        exact .inr ⟨rfl, old, new, entry, hold, hnew, hentry, rfl⟩
      · cases h
        exact .inl ⟨rfl, rfl⟩
    · cases h
      exact .inl ⟨rfl, rfl⟩

/-- A file that takes another path leaves its own place, and then comes to the other one. -/
theorem changesOnly_rename {old new : Place} {entry : Entry} (hold : t.filePlace? stage = some old)
    (hnew : t.filePlace? path = some new) (hentry : t.entry? old = some entry) :
    ChangesOnly old t (t.erase old) ∧
      ChangesOnly new (t.erase old) ((t.erase old).insert new entry) := by
  obtain ⟨-, -, hnotOld, -⟩ := filePlace?_eq_some_iff.mp hold
  obtain ⟨-, -, hnotNew, -⟩ := filePlace?_eq_some_iff.mp hnew
  have hfile : entry.isDirectory = false := by
    simpa [isDirectory, hentry] using hnotOld
  have herased : ChangesOnly old t (t.erase old) := .erase hnotOld
  exact ⟨herased, .insert ((herased.isDirectory_eq new).trans hnotNew) hfile⟩

/-- Directories are made of all the parts of a path, or of the first ones. -/
theorem Took.of_makeDirectories (h : t.Took faulty (.makeDirectories path) ok t') :
    ∃ made rest, made ++ rest = path.parts ∧ t' = (t.makeDirectories (t.start path) made).2 := by
  cases h with
  | whole h =>
    rw [after] at h
    exact ⟨path.parts, [], List.append_nil _, by rw [h]⟩
  | part done _ _ h => exact ⟨_, _, List.take_append_drop done path.parts, h.symm⟩

theorem Took.of_openDirectory (h : t.Took faulty (.openDirectory path) ok t') : t' = t := by
  cases h with
  | whole h =>
    rw [after] at h
    cases h
    rfl
  | part done _ _ h => exact h.symm

theorem Took.of_syncDirectory (h : t.Took faulty (.syncDirectory path) ok t') : t' = t := by
  cases h with
  | whole h =>
    cases h
    rfl
  | part done _ _ h => exact h.symm

/-- A directory that is there only fails to open on a faulty disk. -/
theorem Took.faulty_of_openDirectory (h : t.Took faulty (.openDirectory path) false t')
    (hthere : t.at? path = some .directory) : faulty := by
  cases h with
  | whole h =>
    rw [after, hthere] at h
    cases h
  | part done hfaulty _ _ => exact hfaulty

theorem Took.faulty_of_syncDirectory (h : t.Took faulty (.syncDirectory path) false t') :
    faulty := by
  cases h with
  | whole h => cases h
  | part done hfaulty _ _ => exact hfaulty

/-- Every step keeps the tree well-formed, also when it fails half done. -/
theorem Took.wellFormed (h : t.Took faulty s ok t') (ht : t.WellFormed) : t'.WellFormed := by
  cases s with
  | makeDirectories p =>
    obtain ⟨made, rest, -, rfl⟩ := h.of_makeDirectories
    exact (walked_makeDirectories ht (ht.isDirectory_start p)).wellFormed
  | rename source target =>
    rcases h.of_rename with ⟨-, rfl⟩ | ⟨-, old, new, entry, hold, hnew, hentry, rfl⟩
    · exact ht
    · obtain ⟨herased, hinserted⟩ := changesOnly_rename hold hnew hentry
      obtain ⟨-, -, -, hold⟩ := filePlace?_eq_some_iff.mp hold
      obtain ⟨-, -, -, hnew⟩ := filePlace?_eq_some_iff.mp hnew
      rw [← herased.isDirectory_eq] at hnew
      exact hinserted.wellFormed (herased.wellFormed ht hold) hnew
  | openDirectory p => exact h.of_openDirectory ▸ ht
  | syncDirectory p => exact h.of_syncDirectory ▸ ht
  | openEmpty p | write p data | syncFile p | remove p => exact (h.changesFile rfl).wellFormed ht

theorem Runs.wellFormed {ss : List DiskStep} (h : t.Runs faulty ss ok t') (ht : t.WellFormed) :
    t'.WellFormed := by
  induction h with
  | done t => exact ht
  | stop rest h => exact h.wellFormed ht
  | next h _ ih => exact ih (h.wellFormed ht)

/-! ## Parts of a write -/

/-- The steps that put data into a file beside another. -/
def staging (stage : Path) (data : ByteArray) : List DiskStep :=
  [.openEmpty stage, .write stage data, .syncFile stage]

theorem file?_staging : ∀ s ∈ staging stage data, s.file? = some stage := by
  simp [staging, DiskStep.file?]

/-- When they have all been taken, the file beside holds the data. -/
theorem Runs.of_staging (h : t.Runs faulty (staging stage data) true t') :
    ∃ place, t'.filePlace? stage = some place ∧ t'.entry? place = some (.file data) := by
  cases h with
  | next hopen h =>
    cases h with
    | next hwrite h =>
      have hsync := h.of_singleton.of_syncFile
      obtain ⟨place, hplace, rfl⟩ := hwrite.of_write
      subst hsync
      have hchanges := changesFile_insert hplace data
      have hne := ne_nil_of_not_isDirectory (filePlace?_eq_some_iff.mp hplace).2.2.1
      refine ⟨place, (hchanges.filePlace?_eq stage).trans hplace, ?_⟩
      rw [entry?_insert hne, if_pos rfl]

/-- A file that has taken another path stands there. -/
theorem filePlace?_after_rename {old new : Place} {entry : Entry}
    (hold : t.filePlace? stage = some old) (hnew : t.filePlace? path = some new)
    (hentry : t.entry? old = some entry) :
    ((t.erase old).insert new entry).filePlace? path = some new ∧
      ((t.erase old).insert new entry).at? path = some entry := by
  obtain ⟨herased, hinserted⟩ := changesOnly_rename hold hnew hentry
  obtain ⟨-, -, hnotNew, -⟩ := filePlace?_eq_some_iff.mp hnew
  have hplace : ((t.erase old).insert new entry).filePlace? path = some new := by
    rw [filePlace?_congr hinserted.isDirectory_eq hinserted.working_eq,
      filePlace?_congr herased.isDirectory_eq herased.working_eq, hnew]
  refine ⟨hplace, ?_⟩
  rw [at?_of_filePlace? hplace, entry?_insert (ne_nil_of_not_isDirectory hnotNew), if_pos rfl]

/-- Making names last changes no tree. -/
theorem Runs.of_syncs {paths : List Path}
    (h : t.Runs faulty (paths.flatMap fun p => [.openDirectory p, .syncDirectory p]) ok t') :
    t' = t := by
  induction paths generalizing t with
  | nil =>
    cases h
    rfl
  | cons p paths ih =>
    rw [List.flatMap_cons] at h
    have hpair {ok : Bool} {t₁ : FileTree}
        (h : t.Runs faulty [.openDirectory p, .syncDirectory p] ok t₁) : t₁ = t := by
      cases h with
      | stop _ h => exact h.of_openDirectory
      | next h hrest => exact hrest.of_singleton.of_syncDirectory.trans h.of_openDirectory
    rcases h.of_append with ⟨-, h⟩ | ⟨between, h, hrest⟩
    · exact hpair h
    · rw [ih hrest, hpair h]

/-- In directories that are there it only fails on a faulty disk. -/
theorem Runs.faulty_of_syncs {paths : List Path}
    (h : t.Runs faulty (paths.flatMap fun p => [.openDirectory p, .syncDirectory p]) false t')
    (hthere : ∀ p ∈ paths, t.at? p = some .directory) : faulty := by
  induction paths with
  | nil => cases h
  | cons p paths ih =>
    rw [List.forall_mem_cons] at hthere
    cases h with
    | stop _ hopen => exact hopen.faulty_of_openDirectory hthere.1
    | next hopen h =>
      rw [hopen.of_openDirectory] at h
      cases h with
      | stop _ hsync => exact hsync.faulty_of_syncDirectory
      | next hsync h =>
        rw [hsync.of_syncDirectory] at h
        exact ih h hthere.2

/-! ## A whole write -/

/-- Where a file may be left by a write, and what the write says. -/
inductive Writes (faulty : Prop) (path : Path) (data : ByteArray) (t : FileTree) :
    Except WriteFault Unit → FileTree → Prop
  | undirected {t' : FileTree}
    (hdirs : t.Runs faulty (path.parent?.toList.map .makeDirectories) false t') :
    Writes faulty path data t (.error .failed) t'
  | unnamed {t' : FileTree}
    (hdirs : t.Runs faulty (path.parent?.toList.map .makeDirectories) true t')
    (hname : path.fileName? = none) : Writes faulty path data t (.error .noFileName) t'
  | unstaged {t₁ t₂ t₃ : FileTree} {name : String} {ok : Bool}
    (hdirs : t.Runs faulty (path.parent?.toList.map .makeDirectories) true t₁)
    (hname : path.fileName? = some name)
    (hstaged : t₁.Runs faulty (staging (Disk.stagePath path name) data ++
      [.rename (Disk.stagePath path name) path]) false t₂)
    (hremoved : t₂.Took faulty (.remove (Disk.stagePath path name)) ok t₃) :
    Writes faulty path data t (.error .failed) t₃
  | unsynced {t₁ t₂ t₃ : FileTree} {name : String}
    (hdirs : t.Runs faulty (path.parent?.toList.map .makeDirectories) true t₁)
    (hname : path.fileName? = some name)
    (hstaged : t₁.Runs faulty (staging (Disk.stagePath path name) data ++
      [.rename (Disk.stagePath path name) path]) true t₂)
    (hsynced : t₂.Runs faulty
      (path.parent?.toList.flatMap fun p => [.openDirectory p, .syncDirectory p]) false t₃) :
    Writes faulty path data t (.error .failed) t₃
  | written {t₁ t₂ t₃ : FileTree} {name : String}
    (hdirs : t.Runs faulty (path.parent?.toList.map .makeDirectories) true t₁)
    (hname : path.fileName? = some name)
    (hstaged : t₁.Runs faulty (staging (Disk.stagePath path name) data ++
      [.rename (Disk.stagePath path name) path]) true t₂)
    (hsynced : t₂.Runs faulty
      (path.parent?.toList.flatMap fun p => [.openDirectory p, .syncDirectory p]) true t₃) :
    Writes faulty path data t (.ok ()) t₃

theorem Writes.wellFormed {result : Except WriteFault Unit}
    (h : t.Writes faulty path data result t') (ht : t.WellFormed) : t'.WellFormed := by
  cases h with
  | undirected hdirs => exact hdirs.wellFormed ht
  | unnamed hdirs _ => exact hdirs.wellFormed ht
  | unstaged hdirs _ hstaged hremoved =>
    exact hremoved.wellFormed (hstaged.wellFormed (hdirs.wellFormed ht))
  | unsynced hdirs _ hstaged hsynced =>
    exact hsynced.wellFormed (hstaged.wellFormed (hdirs.wellFormed ht))
  | written hdirs _ hstaged hsynced =>
    exact hsynced.wellFormed (hstaged.wellFormed (hdirs.wellFormed ht))

/-! ### The file during a write -/

theorem parts_of_fileName? {name : String} (h : path.fileName? = some name) :
    path.parts = path.parts.dropLast ++ [.name name] := by
  unfold Path.fileName? at h
  split at h
  · rename_i last hlast
    cases h
    exact (List.dropLast_append_getLast? _ (Option.mem_def.mpr hlast)).symm
  · cases h

/-- The file beside is another file. -/
theorem place?_ne_of_stage {name : String} (hname : path.fileName? = some name)
    (h : t.place? (Disk.stagePath path name) = some place) : t.place? path ≠ some place := by
  have hparts := parts_of_fileName? hname
  have hne : path.parts ≠ [] := by
    rw [hparts]
    simp
  have hstart : t.start (Disk.stagePath path name) = t.start path := rfl
  intro hpath
  rw [place?_eq_follow? (by simp [Disk.stagePath, Path.withFileName]), hstart] at h
  rw [place?_eq_follow? hne, hparts] at hpath
  simp only [Disk.stagePath, Path.withFileName] at h
  rw [follow?_append, Option.bind_eq_some_iff] at h hpath
  obtain ⟨d, hd, hstage⟩ := h
  obtain ⟨d', hd', hfile⟩ := hpath
  rw [hd] at hd'
  cases hd'
  rw [follow?_name_eq_some_iff] at hstage hfile
  have hsame := List.append_cancel_left (hstage.2.2.symm.trans hfile.2.2)
  have hlength := congrArg String.length (List.head_eq_of_cons_eq hsame)
  simp only [String.length_append] at hlength
  have hdot : ".".length = 1 := rfl
  omega

/-- Up to the moment at which the data takes the name of the file, only the file beside it
changes. -/
theorem Runs.changesFile_of_staging (h : t.Runs faulty (staging stage data ++ [.rename stage path])
    false t') : ChangesFile stage t t' := by
  rcases h.of_append with ⟨-, h⟩ | ⟨between, h, hrename⟩
  · exact h.changesFile file?_staging
  · rcases hrename.of_singleton.of_rename with ⟨-, rfl⟩ | ⟨hok, -⟩
    · exact h.changesFile file?_staging
    · cases hok

/-- From that moment on the file holds the data. -/
theorem Runs.of_rename (h : t.Runs faulty (staging stage data ++ [.rename stage path]) true t') :
    (∃ place, t'.filePlace? path = some place) ∧ t'.at? path = some (.file data) := by
  rcases h.of_append with ⟨hok, -⟩ | ⟨between, h, hrename⟩
  · cases hok
  · obtain ⟨place, hplace, hentry⟩ := h.of_staging
    rcases hrename.of_singleton.of_rename with ⟨hok, -⟩ |
      ⟨-, old, new, entry, hold, hnew, hentry', rfl⟩
    · cases hok
    · rw [hplace] at hold
      cases hold
      rw [hentry] at hentry'
      cases hentry'
      obtain ⟨hthere, hdata⟩ := filePlace?_after_rename hplace hnew hentry
      exact ⟨⟨new, hthere⟩, hdata⟩

theorem parent?_eq_none (h : path.parent? = none) : path.parts.dropLast = [] := by
  unfold Path.parent? at h
  split at h
  · rename_i hnil
    rw [hnil, List.dropLast_nil]
  · split at h
    · rename_i hone
      rw [Bool.and_eq_true, decide_eq_true_eq] at hone
      rw [← List.length_eq_zero_iff, List.length_dropLast, hone.1]
    · cases h

theorem parent?_eq_some {parent : Path} (h : path.parent? = some parent) : path.parts ≠ [] ∧
    parent.parts = path.parts.dropLast ∧ parent.isRooted = path.isRooted ∧
      (path.parts.length = 1 → path.isRooted = true) := by
  unfold Path.parent? at h
  split at h
  · cases h
  · rename_i hne
    split at h
    · cases h
    · rename_i hroot
      cases h
      exact ⟨hne, rfl, rfl, fun hlength => by simpa [hlength] using hroot⟩

/-- Around a file there is a directory. -/
theorem at?_parent {name : String} {parent : Path} (hfile : t.filePlace? path = some place)
    (hname : path.fileName? = some name) (hparent : path.parent? = some parent) :
    t.at? parent = some .directory := by
  obtain ⟨hne, hparts, hrooted, hroot⟩ := parent?_eq_some hparent
  obtain ⟨-, hplace, -, -⟩ := filePlace?_eq_some_iff.mp hfile
  have hlast := parts_of_fileName? hname
  rw [place?_eq_follow? hne, hlast, follow?_append, Option.bind_eq_some_iff] at hplace
  obtain ⟨d, hd, hfollow⟩ := hplace
  have hdirectory := (follow?_name_eq_some_iff.mp hfollow).1
  have hplace : t.place? parent = some d := by
    have hstart : t.start parent = t.start path := by rw [start, start, hrooted]
    unfold place?
    rw [if_neg, hstart, hparts, hd]
    rw [hparts, hrooted, Bool.and_eq_true, List.isEmpty_iff, Bool.not_eq_true']
    rintro ⟨hempty, hfree⟩
    rw [hempty] at hlast
    rw [hroot (by rw [hlast]; rfl)] at hfree
    cases hfree
  rw [at?, hplace, Option.bind_some, isDirectory_iff.mp hdirectory]
  simp [Entry.isDirectory]

/-! ### Directories around a file -/

/-- Some of the directories around a file have been made, and nothing else. -/
def Made (path : Path) (t t' : FileTree) : Prop :=
  ∃ made, made <+: path.parts.dropLast ∧ t' = (t.makeDirectories (t.start path) made).2

theorem made_of_runs {ss : List DiskStep}
    (hss : ss <+: path.parent?.toList.map .makeDirectories) (h : t.Runs faulty ss ok t') :
    Made path t t' := by
  have hrefl : Made path t t := ⟨[], List.nil_prefix, rfl⟩
  cases hparent : path.parent? with
  | none =>
    rw [hparent, Option.toList_none, List.map_nil, List.prefix_nil] at hss
    subst hss
    cases h
    exact hrefl
  | some parent =>
    obtain ⟨-, hparts, hrooted, -⟩ := parent?_eq_some hparent
    have hstart : t.start parent = t.start path := by rw [start, start, hrooted]
    rw [hparent, Option.toList_some, List.map_singleton, List.prefix_cons_iff] at hss
    rcases hss with rfl | ⟨rest, rfl, hrest⟩
    · cases h
      exact hrefl
    · rw [List.prefix_nil.mp hrest] at h
      obtain ⟨made, missing, hmade, rfl⟩ := h.of_singleton.of_makeDirectories
      rw [hstart]
      exact ⟨made, ⟨missing, hmade.trans hparts⟩, rfl⟩

namespace Made

theorem grows (ht : t.WellFormed) (h : Made path t t') : Grows t t' := by
  obtain ⟨made, -, rfl⟩ := h
  exact (walked_makeDirectories ht (ht.isDirectory_start path)).grows

theorem working_eq (ht : t.WellFormed) (h : Made path t t') : t'.working = t.working :=
  (h.grows ht).working_eq

theorem entry (ht : t.WellFormed) (h : Made path t t') (p : Place) : t'.entry? p = t.entry? p ∨
    t.entry? p = none ∧ t'.entry? p = some .directory ∧
      ∃ way, way <+: path.parts.dropLast ∧ p = spell (t.start path) way := by
  have hgrows := h.grows ht
  obtain ⟨made, hmade, rfl⟩ := h
  rcases hgrows.entry p with hsame | ⟨hnone, hnew⟩
  · exact .inl hsame
  · have hchanged : FileTree.entry? (t.makeDirectories (t.start path) made).2 p ≠ t.entry? p := by
      rw [hnone, hnew]
      exact nofun
    obtain ⟨way, hway, hp⟩ := spelt_of_makeDirectories hchanged
    exact .inr ⟨hnone, hnew, way, hway.trans hmade, hp⟩

/-- What stands at the path is as it was, unless the path leads up from a missing directory. -/
theorem at?_eq_or (ht : t.WellFormed)
    (hlast : path.parts.getLast? = some .here → path.parts.dropLast = []) (h : Made path t t') :
    t'.at? path = t.at? path ∨ .up ∈ path.parts ∧ t.place? path = none := by
  obtain ⟨made, ⟨rest, hmade⟩, rfl⟩ := h
  cases hparts : path.parts.getLast? with
  | none =>
    rw [List.getLast?_eq_none_iff.mp hparts, List.dropLast_nil, List.append_eq_nil_iff] at hmade
    rw [hmade.1]
    exact .inl rfl
  | some last =>
    by_cases hhere : last = .here
    · rw [hlast (hhere ▸ hparts), List.append_eq_nil_iff] at hmade
      rw [hmade.1]
      exact .inl rfl
    · have hall : path.parts = made ++ rest ++ [last] := by
        rw [hmade]
        exact (List.dropLast_append_getLast? _ (Option.mem_def.mpr hparts)).symm
      exact at?_makeDirectories ht hall hhere

end Made

/-- A path that leads up again from a directory that was missing. Where it leads afterwards there is
what was there before, or a directory has come where nothing was. -/
structure Misled (path : Path) (t t' : FileTree) : Prop where
  up_mem : .up ∈ path.parts
  place?_eq_none : t.place? path = none
  entry : ∀ place, t'.place? path = some place → t'.entry? place = t.entry? place ∨
    t.entry? place = none ∧ t'.entry? place = some .directory

/-- The directories around a file do not change what stands at its path, unless it is misled. -/
theorem Made.at?_eq_or_misled (ht : t.WellFormed)
    (hlast : path.parts.getLast? = some .here → path.parts.dropLast = []) (h : Made path t t') :
    t'.at? path = t.at? path ∨ Misled path t t' :=
  (h.at?_eq_or ht hlast).imp_right fun ⟨hup, hnone⟩ =>
    ⟨hup, hnone, fun place _ => (h.grows ht).entry place⟩

/-- A change of another file misleads no path. -/
theorem Misled.changesFile (h : Misled path t t') (hchanges : ChangesFile stage t' t'')
    (hother : ∀ place, t''.place? stage = some place → t''.place? path ≠ some place) :
    Misled path t t'' := by
  refine ⟨h.up_mem, h.place?_eq_none, fun place hplace => ?_⟩
  rw [hchanges.entry?_eq fun hstage => hother place hstage hplace]
  rw [hchanges.place?_eq] at hplace
  exact h.entry place hplace

/-- A write that fails leaves the file as it was, unless all that failed was to make the name
last, or the path is misled. -/
theorem Writes.at?_of_error {fault : WriteFault} (h : t.Writes faulty path data (.error fault) t')
    (ht : t.WellFormed)
    (hlast : path.parts.getLast? = some .here → path.parts.dropLast = []) :
    t'.at? path = t.at? path ∨ (faulty ∧ fault = .failed ∧ t'.at? path = some (.file data)) ∨
      Misled path t t' := by
  have hmade {ok : Bool} {t' : FileTree}
      (hdirs : t.Runs faulty (path.parent?.toList.map .makeDirectories) ok t') :=
    (made_of_runs (List.prefix_refl _) hdirs).at?_eq_or_misled ht hlast
  cases h with
  | undirected hdirs => exact (hmade hdirs).imp_right .inr
  | unnamed hdirs _ => exact (hmade hdirs).imp_right .inr
  | unstaged hdirs hname hstaged hremoved =>
    have hchanges := hstaged.changesFile_of_staging.trans (hremoved.changesFile rfl)
    have hother := fun place (hplace : t'.place? (Disk.stagePath path _) = some place) =>
      place?_ne_of_stage hname hplace
    rw [hchanges.at?_eq hother]
    exact (hmade hdirs).imp_right fun hmisled => .inr (hmisled.changesFile hchanges hother)
  | unsynced hdirs hname hstaged hsynced =>
    obtain ⟨⟨place, hplace⟩, hdata⟩ := hstaged.of_rename
    have hfaulty : faulty := hsynced.faulty_of_syncs fun p hp =>
      at?_parent hplace hname (Option.mem_toList.mp hp)
    rw [hsynced.of_syncs]
    exact .inr (.inl ⟨hfaulty, rfl, hdata⟩)

end FileTree

namespace PlannedDisk

/-- Steps fail by plan at most on a faulty disk. -/
def FailsOnlyIf (d : PlannedDisk) (faulty : Prop) : Prop := ∀ done, some done ∈ d.plan → faulty

variable {faulty : Prop}

theorem took_step (s : DiskStep) {d : PlannedDisk} (h : d.FailsOnlyIf faulty) :
    d.tree.Took faulty s (d.step s).1 (d.step s).2.tree ∧ (d.step s).2.FailsOnlyIf faulty := by
  obtain ⟨tree, plan⟩ := d
  cases plan with
  | nil => exact ⟨.whole rfl, h⟩
  | cons next rest =>
    have hrest : ∀ done, some done ∈ rest → faulty := fun done hdone =>
      h done (List.mem_cons_of_mem _ hdone)
    cases next with
    | none => exact ⟨.whole rfl, hrest⟩
    | some done => exact ⟨.part done (h done List.mem_cons_self) rfl rfl, hrest⟩

theorem bind_apply {α β : Type} (x : StateM PlannedDisk α) (f : α → StateM PlannedDisk β)
    (d : PlannedDisk) : (x >>= f) d = f (x d).1 (x d).2 := rfl

theorem step_apply (s : DiskStep) (d : PlannedDisk) :
    (Disk.step s : StateM PlannedDisk Bool) d = d.step s := rfl

theorem runs_steps (ss : List DiskStep) {d : PlannedDisk} (h : d.FailsOnlyIf faulty) :
    let result := (Disk.steps ss : StateM PlannedDisk Bool) d
    d.tree.Runs faulty ss result.1 result.2.tree ∧ result.2.FailsOnlyIf faulty := by
  induction ss generalizing d with
  | nil => exact ⟨.done d.tree, h⟩
  | cons s rest ih =>
    obtain ⟨htook, hnext⟩ := took_step s h
    simp only [Disk.steps, bind_apply, step_apply]
    cases hok : (d.step s).1 with
    | true =>
      obtain ⟨hruns, hlast⟩ := ih hnext
      rw [hok] at htook
      exact ⟨.next htook hruns, hlast⟩
    | false =>
      rw [hok] at htook
      exact ⟨.stop rest htook, hnext⟩

theorem runs_writeStaged (path stage : Path) (data : ByteArray) {d : PlannedDisk}
    (h : d.FailsOnlyIf faulty) :
    let result := (Disk.writeStaged path stage data : StateM PlannedDisk Bool) d
    let ss := FileTree.staging stage data ++ [.rename stage path]
    result.2.FailsOnlyIf faulty ∧
      (result.1 = true ∧ d.tree.Runs faulty ss true result.2.tree ∨
        result.1 = false ∧ ∃ (t : FileTree) (ok : Bool),
          d.tree.Runs faulty ss false t ∧ t.Took faulty (.remove stage) ok result.2.tree) := by
  have hsteps := runs_steps (FileTree.staging stage data ++ [.rename stage path]) h
  simp only [FileTree.staging, List.cons_append, List.nil_append] at hsteps ⊢
  simp only [Disk.writeStaged, bind_apply]
  generalize (Disk.steps [.openEmpty stage, .write stage data, .syncFile stage,
    .rename stage path] : StateM PlannedDisk Bool) d = r at hsteps ⊢
  obtain ⟨ok, d₁⟩ := r
  obtain ⟨hruns, hnext⟩ := hsteps
  cases ok with
  | true => exact ⟨hnext, .inl ⟨rfl, hruns⟩⟩
  | false =>
    obtain ⟨hremoved, hlast⟩ := took_step (.remove stage) hnext
    exact ⟨hlast, .inr ⟨rfl, _, _, hruns, hremoved⟩⟩

/-- Every run of a write is one of the ways in which a write may go. -/
theorem writes_writeFile (path : Path) (data : ByteArray) {d : PlannedDisk}
    (h : d.FailsOnlyIf faulty) :
    let result := (Disk.writeFile path data : StateM PlannedDisk (Except WriteFault Unit)) d
    d.tree.Writes faulty path data result.1 result.2.tree := by
  have hdirs := runs_steps (path.parent?.toList.map .makeDirectories) h
  simp only [Disk.writeFile, bind_apply]
  generalize (Disk.steps (path.parent?.toList.map .makeDirectories) :
    StateM PlannedDisk Bool) d = r at hdirs ⊢
  obtain ⟨ok, d₁⟩ := r
  obtain ⟨hdirs, h₁⟩ := hdirs
  cases ok with
  | false => exact .undirected hdirs
  | true =>
    cases hname : path.fileName? with
    | none => exact .unnamed hdirs hname
    | some name =>
      have hstaged := runs_writeStaged path (Disk.stagePath path name) data h₁
      simp only [Bool.not_true, Bool.false_eq_true, if_false, bind_apply]
      generalize (Disk.writeStaged path (Disk.stagePath path name) data :
        StateM PlannedDisk Bool) d₁ = r at hstaged ⊢
      obtain ⟨ok, d₂⟩ := r
      obtain ⟨h₂, ⟨hok, hstaged⟩ | ⟨hok, t, removed, hstaged, hremoved⟩⟩ := hstaged
      · have hsyncs := runs_steps (path.parent?.toList.flatMap fun p =>
          [.openDirectory p, .syncDirectory p]) h₂
        dsimp only at hok
        subst hok
        simp only [Bool.not_true, Bool.false_eq_true, if_false, bind_apply]
        generalize (Disk.steps (path.parent?.toList.flatMap fun p =>
          [.openDirectory p, .syncDirectory p]) : StateM PlannedDisk Bool) d₂ = r at hsyncs ⊢
        obtain ⟨ok, d₃⟩ := r
        cases ok with
        | true => exact .written hdirs hname hstaged hsyncs.1
        | false => exact .unsynced hdirs hname hstaged hsyncs.1
      · dsimp only at hok
        subst hok
        exact .unstaged hdirs hname hstaged hremoved

end PlannedDisk

end StoreClient
