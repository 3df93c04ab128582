-- The law of seen writes: at no moment of a write is the file half written, and nothing but the
-- file, the file beside it and the directories on the way is touched. The one exception is a path
-- that leads up again from a directory that was missing: what it leads to may come to be, or be a
-- directory itself, while the directories are made.
import StoreClient.Proofs.FailedRuns
import StoreClient.Proofs.WatchedDisks

namespace StoreClient

namespace FileTree

variable {t t₁ t₂ u : FileTree} {p q : Place} {path stage : Path} {name : String}
  {data : ByteArray} {ok : Bool} {ss : List DiskStep}

/-! ## Names in directories -/

/-- A name only leads on from a directory. -/
theorem isDirectory_dropLast_of_place? (hname : path.fileName? = some name)
    (h : t.place? path = some p) : t.isDirectory p.dropLast = true := by
  have hparts := parts_of_fileName? hname
  rw [place?_eq_follow? (by rw [hparts]; simp), hparts, follow?_append,
    Option.bind_eq_some_iff] at h
  obtain ⟨d, -, hfollow⟩ := h
  obtain ⟨hdirectory, -, rfl⟩ := follow?_name_eq_some_iff.mp hfollow
  rwa [List.dropLast_concat]

theorem fileName?_stagePath (path : Path) (name : String) :
    (Disk.stagePath path name).fileName? = some ("." ++ name ++ ".tmp") := by
  simp [Disk.stagePath, Path.withFileName, Path.fileName?]

theorem up_mem_stagePath (hname : path.fileName? = some name) :
    .up ∈ (Disk.stagePath path name).parts ↔ .up ∈ path.parts := by
  rw [parts_of_fileName? hname]
  simp [Disk.stagePath, Path.withFileName]

/-! ## The file beside -/

/-- When the data has taken the name of the file, it stands there, and nothing stands beside. -/
structure Renamed (path stage : Path) (data : ByteArray) (t u : FileTree) : Prop where
  working_eq : u.working = t.working
  isDirectory_eq : ∀ p, u.isDirectory p = t.isDirectory p
  at_path : u.at? path = some (.file data)
  at_stage : u.at? stage = none
  at_place : ∀ p, u.place? path = some p → u.entry? p = some (.file data)
  elsewhere : ∀ p, u.place? path ≠ some p → u.place? stage ≠ some p → u.entry? p = t.entry? p

/-- A rename takes the data from the one place to the other. -/
theorem renamed_of_places (hname : path.fileName? = some name)
    (hp : t.filePlace? (Disk.stagePath path name) = some p) (hq : t.filePlace? path = some q)
    (hentry : t.entry? p = some (.file data)) :
    Renamed path (Disk.stagePath path name) data t ((t.erase p).insert q (.file data)) := by
  obtain ⟨-, hstage, hfile, -⟩ := filePlace?_eq_some_iff.mp hp
  obtain ⟨hnoSlash, hpath, hfile', -⟩ := filePlace?_eq_some_iff.mp hq
  obtain ⟨herased, hinserted⟩ := changesOnly_rename hp hq hentry
  -- No directory comes or goes, so all paths lead where they led.
  have hdirectories (r : Place) :
      ((t.erase p).insert q (.file data)).isDirectory r = t.isDirectory r := by
    rw [hinserted.isDirectory_eq, herased.isDirectory_eq]
  have hplaces (other : Path) :
      ((t.erase p).insert q (.file data)).place? other = t.place? other :=
    place?_congr hdirectories rfl other
  have hne : p ≠ q := by
    rintro rfl
    exact place?_ne_of_stage hname hstage hpath
  have hentries (r : Place) : FileTree.entry? ((t.erase p).insert q (.file data)) r =
      if r = q then some (.file data) else if r = p then none else t.entry? r := by
    rw [entry?_insert (ne_nil_of_not_isDirectory hfile'),
      entry?_erase (ne_nil_of_not_isDirectory hfile)]
  refine ⟨rfl, hdirectories, ?_, at?_eq_none ?_, fun r hr => ?_, fun r hr hr' => ?_⟩
  · simp [at?, hplaces, hpath, hentries, hnoSlash]
  · rw [hplaces, hstage, Option.bind_some, hentries, if_neg hne, if_pos rfl]
  · rw [hplaces, hpath, Option.some.injEq] at hr
    rw [hentries, if_pos hr.symm]
  · rw [hplaces, hpath, Ne, Option.some.injEq] at hr
    rw [hplaces, hstage, Ne, Option.some.injEq] at hr'
    rw [hentries, if_neg (Ne.symm hr), if_neg (Ne.symm hr')]

/-- What changed beside the file before does not matter. -/
theorem Renamed.of_staged (hchanges : ChangesFile stage t t₁)
    (h : Renamed path stage data t₁ u) : Renamed path stage data t u where
  working_eq := h.working_eq.trans hchanges.working_eq
  isDirectory_eq p := (h.isDirectory_eq p).trans (hchanges.isDirectory_eq p)
  at_path := h.at_path
  at_stage := h.at_stage
  at_place := h.at_place
  elsewhere p hp hp' := by
    rw [h.elsewhere p hp hp']
    rw [place?_congr h.isDirectory_eq h.working_eq] at hp'
    exact hchanges.entry?_eq hp'

theorem renamed_of_runs (hname : path.fileName? = some name)
    (h : t.Runs True (staging (Disk.stagePath path name) data ++
      [.rename (Disk.stagePath path name) path]) true u) :
    Renamed path (Disk.stagePath path name) data t u := by
  rcases h.of_append with ⟨hok, -⟩ | ⟨t₁, hstaged, hrename⟩
  · cases hok
  · obtain ⟨place, hplace, hentry⟩ := hstaged.of_staging
    have hchanges := hstaged.changesFile file?_staging
    rcases hrename.of_singleton.of_rename with ⟨hok, -⟩ |
      ⟨-, old, new, entry, hold, hnew, hentry', rfl⟩
    · cases hok
    · rw [hplace] at hold
      cases hold
      rw [hentry] at hentry'
      cases hentry'
      exact (renamed_of_places hname hplace hnew hentry).of_staged hchanges

/-- What is removed is gone; only a directory is not removed. -/
theorem at?_of_removed (h : t.after (.remove (Disk.stagePath path name)) = (ok, u)) :
    u.at? (Disk.stagePath path name) = none ∨
      u = t ∧ t.at? (Disk.stagePath path name) = some .directory := by
  rw [after] at h
  split at h
  · rename_i place hplace
    have hnil := ne_nil_of_not_isDirectory (filePlace?_eq_some_iff.mp hplace).2.2.1
    split at h
    · cases h
      have herased : ChangesOnly place t (t.erase place) :=
        .erase (filePlace?_eq_some_iff.mp hplace).2.2.1
      left
      refine at?_eq_none ?_
      rw [place?_congr herased.isDirectory_eq rfl, (filePlace?_eq_some_iff.mp hplace).2.1,
        Option.bind_some, entry?_erase hnil, if_pos rfl]
    · rename_i hnone
      cases h
      left
      rw [at?_of_filePlace? hplace]
      simpa using hnone
  · rename_i hnoFile
    cases h
    cases hplace : t.place? (Disk.stagePath path name) with
    | none => exact .inl (at?_eq_none (by rw [hplace]; rfl))
    | some p =>
      have hparent := isDirectory_dropLast_of_place? (fileName?_stagePath path name) hplace
      cases hdirectory : t.isDirectory p with
      | false =>
        rw [filePlace?_eq_some_iff.mpr ⟨rfl, hplace, hdirectory, hparent⟩] at hnoFile
        cases hnoFile
      | true =>
        refine .inr ⟨rfl, ?_⟩
        rw [at?, hplace, Option.bind_some, isDirectory_iff.mp hdirectory]
        rfl

/-! ## What may stand while a file is written -/

/-- What stands at the path is what stood there, or all of the data. Only a path that leads up
from a missing directory may lead to something else, and even there nothing is half written. Apart
from the file and the file beside it, new directories have come on the way, and that is all. -/
structure Whole (path : Path) (data : ByteArray) (t u : FileTree) : Prop where
  working_eq : u.working = t.working
  at_path : u.at? path = t.at? path ∨ u.at? path = some (.file data) ∨
    .up ∈ path.parts ∧ t.place? path = none
  at_place : ∀ p, u.place? path = some p → u.entry? p = t.entry? p ∨
    u.entry? p = some (.file data) ∨ t.entry? p = none ∧ u.entry? p = some .directory
  elsewhere : ∀ p, u.place? path ≠ some p →
    (∀ name, path.fileName? = some name → u.place? (Disk.stagePath path name) ≠ some p) →
      u.entry? p = t.entry? p ∨ t.entry? p = none ∧ u.entry? p = some .directory ∧
        ∃ way, way <+: path.parts.dropLast ∧ p = spell (t.start path) way

theorem Made.whole (ht : t.WellFormed)
    (hlast : path.parts.getLast? = some .here → path.parts.dropLast = []) (h : Made path t t₁) :
    Whole path data t t₁ where
  working_eq := h.working_eq ht
  at_path := (h.at?_eq_or ht hlast).imp_right .inr
  at_place p _ := (h.entry ht p).imp_right fun ⟨hnone, hnew, _⟩ => .inr ⟨hnone, hnew⟩
  elsewhere p _ _ := h.entry ht p

theorem Made.whole_of_staging (ht : t.WellFormed) (hname : path.fileName? = some name)
    (hlast : path.parts.getLast? = some .here → path.parts.dropLast = []) (h : Made path t t₁)
    (hchanges : ChangesFile (Disk.stagePath path name) t₁ u) : Whole path data t u where
  working_eq := hchanges.working_eq.trans (h.working_eq ht)
  at_path := by
    rw [hchanges.at?_eq fun place => place?_ne_of_stage hname]
    exact (h.at?_eq_or ht hlast).imp_right .inr
  at_place p hp := by
    rw [hchanges.entry?_eq fun hstage => place?_ne_of_stage hname hstage hp]
    exact (h.entry ht p).imp_right fun ⟨hnone, hnew, _⟩ => .inr ⟨hnone, hnew⟩
  elsewhere p _ hp := by
    rw [hchanges.entry?_eq (hp name hname)]
    exact h.entry ht p

theorem Made.whole_of_renamed (ht : t.WellFormed) (hname : path.fileName? = some name)
    (h : Made path t t₁) (hrenamed : Renamed path (Disk.stagePath path name) data t₁ u) :
    Whole path data t u where
  working_eq := hrenamed.working_eq.trans (h.working_eq ht)
  at_path := .inr (.inl hrenamed.at_path)
  at_place p hp := .inr (.inl (hrenamed.at_place p hp))
  elsewhere p hp hp' := by
    rw [hrenamed.elsewhere p hp (hp' name hname)]
    exact h.entry ht p

/-- What is seen of a write. When it is done, the file holds the data and the file beside it is
gone; that file is gone also when it could not be written or renamed, if the disk lets it be
removed and it is no directory. -/
structure SeenWriting (path : Path) (data : ByteArray) (t : FileTree) (sights : List Sight)
    (result : Except WriteFault Unit) (t' : FileTree) : Prop where
  seen : ∀ sight ∈ sights, ∀ u ∈ sight.trees, Whole path data t u
  left : Whole path data t t'
  written : result = .ok () → t'.at? path = some (.file data) ∧
    ∀ name, path.fileName? = some name → t'.at? (Disk.stagePath path name) = none
  cleared : ∀ name, path.fileName? = some name →
    (∃ sight ∈ sights, sight.isTaken = false ∧ sight.step ∈
      staging (Disk.stagePath path name) data ++ [.rename (Disk.stagePath path name) path]) →
    (∀ sight ∈ sights, sight.step = .remove (Disk.stagePath path name) →
      sight.isFaulty = false) →
    result = .error .failed ∧ (t'.at? (Disk.stagePath path name) = none ∨
      t'.at? (Disk.stagePath path name) = some .directory ∧
        (t.at? (Disk.stagePath path name) = some .directory ∨
          .up ∈ path.parts ∧ t.place? (Disk.stagePath path name) = none))

/-! ## The ways of a write -/

/-- The steps that make the names around a file last. -/
def lasting (path : Path) : List DiskStep :=
  path.parent?.toList.flatMap fun p => [.openDirectory p, .syncDirectory p]

/-- What is seen of a write, step by step, what the write says, and what it leaves. -/
inductive ShowsWrite (path : Path) (data : ByteArray) (t : FileTree) :
    List Sight → Except WriteFault Unit → FileTree → Prop
  | undirected {dirs : List Sight} {t' : FileTree}
    (hdirs : t.Shows (path.parent?.toList.map .makeDirectories) dirs false t') :
    ShowsWrite path data t dirs (.error .failed) t'
  | unnamed {dirs : List Sight} {t' : FileTree}
    (hdirs : t.Shows (path.parent?.toList.map .makeDirectories) dirs true t')
    (hname : path.fileName? = none) : ShowsWrite path data t dirs (.error .noFileName) t'
  | unstaged {dirs staged : List Sight} {removal : Sight} {t₁ t₂ t₃ : FileTree} {name : String}
    {ok : Bool} (hdirs : t.Shows (path.parent?.toList.map .makeDirectories) dirs true t₁)
    (hname : path.fileName? = some name)
    (hstaged : t₁.Shows (staging (Disk.stagePath path name) data ++
      [.rename (Disk.stagePath path name) path]) staged false t₂)
    (hremoved : t₂.Showed (.remove (Disk.stagePath path name)) removal ok t₃) :
    ShowsWrite path data t (dirs ++ (staged ++ [removal])) (.error .failed) t₃
  | staged {dirs staged syncs : List Sight} {t₁ t₂ t₃ : FileTree} {name : String} {ok : Bool}
    (hdirs : t.Shows (path.parent?.toList.map .makeDirectories) dirs true t₁)
    (hname : path.fileName? = some name)
    (hstaged : t₁.Shows (staging (Disk.stagePath path name) data ++
      [.rename (Disk.stagePath path name) path]) staged true t₂)
    (hsynced : t₂.Shows (lasting path) syncs ok t₃) :
    ShowsWrite path data t (dirs ++ (staged ++ syncs))
      (if ok then .ok () else .error .failed) t₃

section

variable {dirs staged syncs : List Sight} {sight : Sight}

/-- The steps around the staging of the data are other steps. -/
theorem makeDirectories_not_staging :
    ∀ s ∈ path.parent?.toList.map DiskStep.makeDirectories,
      s ∉ staging stage data ++ [.rename stage path] := by
  intro s hs
  obtain ⟨parent, -, rfl⟩ := List.mem_map.mp hs
  simp [staging]

theorem lasting_not_staging :
    ∀ s ∈ lasting path, s ∉ staging stage data ++ [.rename stage path] := by
  intro s hs
  obtain ⟨parent, -, hs⟩ := List.mem_flatMap.mp hs
  rcases List.mem_pair.mp hs with rfl | rfl <;> simp [staging]

theorem Shows.made_of_mem (h : t.Shows (path.parent?.toList.map .makeDirectories) dirs ok t₁)
    (hsight : sight ∈ dirs) (hu : u ∈ sight.trees) : Made path t u := by
  obtain ⟨first, hfirst, _, hruns⟩ := h.runs_of_mem hsight hu
  exact made_of_runs hfirst hruns

/-- Until the data takes the name of the file, only the file beside it changes. -/
theorem Shows.staged_of_mem (hname : path.fileName? = some name)
    (h : t.Shows (staging (Disk.stagePath path name) data ++
      [.rename (Disk.stagePath path name) path]) staged ok t₂)
    (hsight : sight ∈ staged) (hu : u ∈ sight.trees) :
    ChangesFile (Disk.stagePath path name) t u ∨
      Renamed path (Disk.stagePath path name) data t u := by
  obtain ⟨first, hfirst, taken, hruns⟩ := h.runs_of_mem hsight hu
  rcases List.prefix_concat_iff.mp hfirst with rfl | hfirst
  · cases taken with
    | false => exact .inl hruns.changesFile_of_staging
    | true => exact .inr (renamed_of_runs hname hruns)
  · exact .inl (hruns.changesFile fun s hs => file?_staging s (hfirst.subset hs))

/-- Making names last changes no tree, wherever it stops. -/
theorem Took.eq_of_lasting {s : DiskStep} (h : t.Took True s ok u) (hs : s ∈ lasting path) :
    u = t := by
  obtain ⟨parent, -, hs⟩ := List.mem_flatMap.mp hs
  rcases List.mem_pair.mp hs with rfl | rfl
  · exact h.of_openDirectory
  · exact h.of_syncDirectory

theorem Runs.eq_of_lasting (h : t.Runs True ss ok u) (hss : ss ⊆ lasting path) : u = t := by
  induction h with
  | done t => rfl
  | stop rest h => exact h.eq_of_lasting (hss List.mem_cons_self)
  | next h _ ih =>
    rw [ih fun _ hs => hss (List.mem_cons_of_mem _ hs), h.eq_of_lasting (hss List.mem_cons_self)]

theorem Shows.eq_of_lasting (h : t.Shows (lasting path) syncs ok t₂) (hsight : sight ∈ syncs)
    (hu : u ∈ sight.trees) : u = t := by
  obtain ⟨first, hfirst, _, hruns⟩ := h.runs_of_mem hsight hu
  exact hruns.eq_of_lasting hfirst.subset

/-- Only in the way in which the data is not staged is a step of staging not taken. -/
theorem not_staging_of_staged
    (hdirs : t.Shows (path.parent?.toList.map .makeDirectories) dirs true t₁)
    (hstaged : t₁.Shows ss staged true t₂) (hsynced : t₂.Shows (lasting path) syncs ok u)
    (hsight : sight ∈ dirs ++ (staged ++ syncs)) (htaken : sight.isTaken = false) :
    sight.step ∉ staging stage data ++ [.rename stage path] := by
  rcases List.mem_append.mp hsight with hsight | hsight
  · exact makeDirectories_not_staging _ (hdirs.step_mem sight hsight)
  · rcases List.mem_append.mp hsight with hsight | hsight
    · rw [hstaged.isTaken rfl sight hsight] at htaken
      cases htaken
    · exact lasting_not_staging _ (hsynced.step_mem sight hsight)

end

/-- A directory that stands at the path of the file beside stood there before. -/
theorem Made.directory_of_stage (ht : t.WellFormed) (hname : path.fileName? = some name)
    (h : Made path t t₁) (hchanges : ChangesFile (Disk.stagePath path name) t₁ u)
    (hdirectory : u.at? (Disk.stagePath path name) = some .directory) :
    t.at? (Disk.stagePath path name) = some .directory ∨
      .up ∈ path.parts ∧ t.place? (Disk.stagePath path name) = none := by
  have hmade : Made (Disk.stagePath path name) t t₁ := by
    have hparts : (Disk.stagePath path name).parts.dropLast = path.parts.dropLast := by
      simp [Disk.stagePath, Path.withFileName]
    obtain ⟨made, hmade, he⟩ := h
    exact ⟨made, hparts ▸ hmade, he⟩
  have hlast : (Disk.stagePath path name).parts.getLast? = some .here →
      (Disk.stagePath path name).parts.dropLast = [] := by
    simp [Disk.stagePath, Path.withFileName]
  have hsame : t₁.at? (Disk.stagePath path name) = some .directory := by
    rcases hchanges with rfl | ⟨place, hfile, hchanged⟩
    · exact hdirectory
    · have hthere := (filePlace?_congr hchanged.isDirectory_eq hchanged.working_eq _).trans hfile
      obtain ⟨-, -, hnot, -⟩ := filePlace?_eq_some_iff.mp hthere
      rw [at?_of_filePlace? hthere] at hdirectory
      rw [isDirectory_iff.mpr hdirectory] at hnot
      cases hnot
  rcases hmade.at?_eq_or ht hlast with hat | ⟨hup, hnone⟩
  · exact .inl (hat ▸ hsame)
  · exact .inr ⟨(up_mem_stagePath hname).mp hup, hnone⟩

theorem Made.whole_of_staged_mem {staged : List Sight} {sight : Sight} (ht : t.WellFormed)
    (hname : path.fileName? = some name)
    (hlast : path.parts.getLast? = some .here → path.parts.dropLast = []) (h : Made path t t₁)
    (hstaged : t₁.Shows (staging (Disk.stagePath path name) data ++
      [.rename (Disk.stagePath path name) path]) staged ok t₂)
    (hsight : sight ∈ staged) (hu : u ∈ sight.trees) : Whole path data t u := by
  rcases hstaged.staged_of_mem hname hsight hu with hu | hu
  · exact h.whole_of_staging ht hname hlast hu
  · exact h.whole_of_renamed ht hname hu

/-- Every way of a write is seen to be whole. -/
theorem ShowsWrite.seenWriting {sights : List Sight} {result : Except WriteFault Unit}
    (ht : t.WellFormed) (hlast : path.parts.getLast? = some .here → path.parts.dropLast = [])
    (h : ShowsWrite path data t sights result u) :
    SeenWriting path data t sights result u := by
  cases h with
  | undirected hdirs =>
    refine ⟨fun sight hsight v hv => (hdirs.made_of_mem hsight hv).whole ht hlast,
      (made_of_runs (List.prefix_refl _) hdirs.runs).whole ht hlast, nofun, ?_⟩
    rintro name - ⟨sight, hsight, -, hstep⟩ -
    exact absurd hstep (makeDirectories_not_staging _ (hdirs.step_mem sight hsight))
  | unnamed hdirs hnone =>
    refine ⟨fun sight hsight v hv => (hdirs.made_of_mem hsight hv).whole ht hlast,
      (made_of_runs (List.prefix_refl _) hdirs.runs).whole ht hlast, nofun, ?_⟩
    intro name hname
    cases hnone.symm.trans hname
  | @unstaged dirs staged removal t₁ t₂ _ name ok hdirs hname hstaged hremoved =>
    have hmade := made_of_runs (List.prefix_refl _) hdirs.runs
    have hchanges := hstaged.runs.changesFile_of_staging
    refine ⟨fun sight hsight v hv => ?_, ?_, nofun, ?_⟩
    · rcases List.mem_append.mp hsight with hsight | hsight
      · exact (hdirs.made_of_mem hsight hv).whole ht hlast
      rcases List.mem_append.mp hsight with hsight | hsight
      · exact hmade.whole_of_staged_mem ht hname hlast hstaged hsight hv
      · rw [List.mem_singleton.mp hsight] at hv
        rcases hremoved.passes v hv with rfl | ⟨_, hv⟩
        · exact hmade.whole_of_staging ht hname hlast hchanges
        · exact hmade.whole_of_staging ht hname hlast (hchanges.trans (hv.changesFile rfl))
    · exact hmade.whole_of_staging ht hname hlast
        (hchanges.trans (hremoved.took.changesFile rfl))
    · rintro other hother - hremoval
      cases hname.symm.trans hother
      refine ⟨rfl, ?_⟩
      have hwhole := hremoved.whole (hremoval removal (by simp) hremoved.step_eq)
      rcases at?_of_removed hwhole with hgone | ⟨rfl, hdirectory⟩
      · exact .inl hgone
      · exact .inr ⟨hdirectory, hmade.directory_of_stage ht hname hchanges hdirectory⟩
  | @staged dirs staged syncs t₁ t₂ _ name ok hdirs hname hstaged hsynced =>
    have hmade := made_of_runs (List.prefix_refl _) hdirs.runs
    have hrenamed := renamed_of_runs hname hstaged.runs
    have hsame := hsynced.runs.eq_of_lasting (List.Subset.refl _)
    subst hsame
    refine ⟨fun sight hsight v hv => ?_, hmade.whole_of_renamed ht hname hrenamed, ?_, ?_⟩
    · rcases List.mem_append.mp hsight with hsight | hsight
      · exact (hdirs.made_of_mem hsight hv).whole ht hlast
      rcases List.mem_append.mp hsight with hsight | hsight
      · exact hmade.whole_of_staged_mem ht hname hlast hstaged hsight hv
      · rw [hsynced.eq_of_lasting hsight hv]
        exact hmade.whole_of_renamed ht hname hrenamed
    · rintro -
      refine ⟨hrenamed.at_path, fun other hother => ?_⟩
      cases hname.symm.trans hother
      exact hrenamed.at_stage
    · rintro other hother ⟨sight, hsight, htaken, hstep⟩ -
      exact absurd hstep (not_staging_of_staged hdirs hstaged hsynced hsight htaken)

end FileTree

namespace WatchedDisk

open FileTree (Shows Showed ShowsWrite SeenWriting)

theorem shows_writeStaged (path stage : Path) (data : ByteArray) (w : WatchedDisk) :
    let result := (Disk.writeStaged path stage data : StateM WatchedDisk Bool) w
    let ss := FileTree.staging stage data ++ [.rename stage path]
    ∃ staged,
      (result.1 = true ∧ result.2.sights = w.sights ++ staged ∧
        w.disk.tree.Shows ss staged true result.2.disk.tree) ∨
      (result.1 = false ∧ ∃ t removal ok, result.2.sights = w.sights ++ (staged ++ [removal]) ∧
        w.disk.tree.Shows ss staged false t ∧
          t.Showed (.remove stage) removal ok result.2.disk.tree) := by
  obtain ⟨staged, hsights, hshows⟩ :=
    shows_steps (FileTree.staging stage data ++ [.rename stage path]) w
  simp only [FileTree.staging, List.cons_append, List.nil_append] at hsights hshows ⊢
  simp only [Disk.writeStaged, bind_apply]
  generalize (Disk.steps [.openEmpty stage, .write stage data, .syncFile stage,
    .rename stage path] : StateM WatchedDisk Bool) w = r at hsights hshows ⊢
  obtain ⟨ok, w₁⟩ := r
  cases ok with
  | true => exact ⟨staged, .inl ⟨rfl, hsights, hshows⟩⟩
  | false =>
    refine ⟨staged, .inr ⟨rfl, w₁.disk.tree, w₁.disk.sight (.remove stage), _, ?_, hshows,
      showed_step (.remove stage) w₁⟩⟩
    rw [← List.append_assoc, ← hsights]
    rfl

/-- What is seen of a write is one of the ways in which a write may go. -/
theorem shows_writeFile (path : Path) (data : ByteArray) (d : PlannedDisk) :
    let result := (Disk.writeFile path data : StateM WatchedDisk (Except WriteFault Unit))
      (.ofDisk d)
    d.tree.ShowsWrite path data result.2.sights result.1 result.2.disk.tree := by
  obtain ⟨dirs, hsights, hdirs⟩ :=
    shows_steps (path.parent?.toList.map .makeDirectories) (.ofDisk d)
  simp only [Disk.writeFile, bind_apply]
  generalize (Disk.steps (path.parent?.toList.map .makeDirectories) : StateM WatchedDisk Bool)
    (.ofDisk d) = r at hsights hdirs ⊢
  obtain ⟨ok, w₁⟩ := r
  replace hsights : w₁.sights = dirs := hsights
  cases ok with
  | false =>
    subst hsights
    exact .undirected hdirs
  | true =>
    simp only [Bool.not_true, Bool.false_eq_true, if_false]
    cases hname : path.fileName? with
    | none =>
      subst hsights
      exact .unnamed hdirs hname
    | some name =>
      obtain ⟨staged, hstaged⟩ := shows_writeStaged path (Disk.stagePath path name) data w₁
      simp only [bind_apply]
      generalize (Disk.writeStaged path (Disk.stagePath path name) data :
        StateM WatchedDisk Bool) w₁ = r at hstaged ⊢
      obtain ⟨ok, w₂⟩ := r
      rcases hstaged with ⟨rfl, hsights', hstaged⟩ |
        ⟨rfl, t, removal, ok, hsights', hstaged, hremoved⟩
      · obtain ⟨syncs, hsights'', hsynced⟩ := shows_steps (FileTree.lasting path) w₂
        simp only [Bool.not_true, Bool.false_eq_true, if_false, bind_apply]
        rw [FileTree.lasting] at hsights'' hsynced
        generalize (Disk.steps _ : StateM WatchedDisk Bool) w₂ = r at hsights'' hsynced ⊢
        obtain ⟨ok, w₃⟩ := r
        have hall : w₃.sights = dirs ++ (staged ++ syncs) := by
          rw [hsights'', hsights', hsights, List.append_assoc]
        have hshows := ShowsWrite.staged hdirs hname hstaged hsynced
        rw [← hall] at hshows
        cases ok with
        | true => exact hshows
        | false => exact hshows
      · have hall : w₂.sights = dirs ++ (staged ++ [removal]) := by
          rw [hsights', hsights]
        have hshows := ShowsWrite.unstaged hdirs hname hstaged hremoved
        rw [← hall] at hshows
        exact hshows

/-- At every moment of a write the file is as it was or holds all of the data, and nothing else is
touched but the file beside it and the directories around. Only a path that leads up again from a
directory that was missing may lead to something else. -/
theorem a_write_never_shows_half_a_file (d : PlannedDisk) (hd : d.tree.WellFormed)
    (output : String) (data : ByteArray) :
    let path := Path.ofText output
    let result := (Disk.writeFile path data : StateM PlannedDisk (Except WriteFault Unit)) d
    let watched := (Disk.writeFile path data : StateM WatchedDisk (Except WriteFault Unit))
      (.ofDisk d)
    watched.1 = result.1 ∧ watched.2.disk = result.2 ∧
      d.tree.SeenWriting path data watched.2.sights result.1 result.2.tree := by
  intro path result watched
  obtain ⟨hvalue, hdisk⟩ := agrees_writeFile path data (.ofDisk d)
  have hshows := (shows_writeFile path data d).seenWriting hd Path.dropLast_of_here
  rw [hvalue, hdisk] at hshows
  exact ⟨hvalue, hdisk, hshows⟩

/-! ### A desk that is watched -/

/-- What the watched desk shows when the second step of a write fails by plan. -/
theorem desk_sights (data : ByteArray) :
    ((Disk.writeFile ⟨false, [.name "api.ts"], false⟩ data : StateM WatchedDisk _)
      (.ofDisk ⟨Run.desk, [none, some 3]⟩)).2.sights.map
        (fun sight => (sight.step, sight.isTaken, sight.isFaulty)) =
      [(.openEmpty ⟨false, [.name ".api.ts.tmp"], false⟩, true, false),
        (.write ⟨false, [.name ".api.ts.tmp"], false⟩ data, false, true),
        (.remove ⟨false, [.name ".api.ts.tmp"], false⟩, true, false)] := rfl

/-- A write that fails in its third byte is seen to leave the client that is there, and nothing
beside it. -/
theorem the_desk_shows_no_half_client :
    let d : PlannedDisk := ⟨Run.desk, [none, some 3]⟩
    let path := Path.ofText "api.ts"
    let watched := (Disk.writeFile path "// current".toUTF8 :
      StateM WatchedDisk (Except WriteFault Unit)) (.ofDisk d)
    d.tree.WellFormed ∧ watched.1 = .error .failed ∧
      watched.2.disk.tree.at? (Disk.stagePath path "api.ts") = none ∧
      ∀ sight ∈ watched.2.sights, ∀ u ∈ sight.trees,
        u.at? path = some (.file "// previous".toUTF8) ∨
          u.at? path = some (.file "// current".toUTF8) := by
  have hd : Run.desk.WellFormed := FileTree.wellFormed_of_entries (by decide) (by decide)
  have hpath : Path.ofText "api.ts" = ⟨false, [.name "api.ts"], false⟩ := by decide
  have hstage : Disk.stagePath ⟨false, [.name "api.ts"], false⟩ "api.ts" =
      ⟨false, [.name ".api.ts.tmp"], false⟩ := by decide
  have hprevious : Run.desk.at? ⟨false, [.name "api.ts"], false⟩ =
      some (.file "// previous".toUTF8) := rfl
  have hempty : Run.desk.at? ⟨false, [.name ".api.ts.tmp"], false⟩ = none := rfl
  obtain ⟨hvalue, hdisk, hseen⟩ := a_write_never_shows_half_a_file ⟨Run.desk, [none, some 3]⟩ hd
    "api.ts" "// current".toUTF8
  have hsights := desk_sights "// current".toUTF8
  dsimp only
  rw [hpath] at hvalue hdisk hseen ⊢
  rw [← hvalue, ← hdisk] at hseen
  clear hvalue hdisk
  generalize (Disk.writeFile ⟨false, [.name "api.ts"], false⟩ "// current".toUTF8 :
    StateM WatchedDisk (Except WriteFault Unit)) (.ofDisk ⟨Run.desk, [none, some 3]⟩) = watched
    at hsights hseen ⊢
  have hcleared := hseen.cleared "api.ts" rfl
  rw [hstage, hempty] at hcleared
  have hwrite : ∃ sight ∈ watched.2.sights, sight.isTaken = false ∧ sight.step =
      .write ⟨false, [.name ".api.ts.tmp"], false⟩ "// current".toUTF8 := by
    obtain ⟨sight, hsight, he⟩ := List.mem_map.mp
      (hsights ▸ List.mem_cons_of_mem _ List.mem_cons_self)
    obtain ⟨hstep, hfaults⟩ := Prod.mk.inj he
    exact ⟨sight, hsight, (Prod.mk.inj hfaults).1, hstep⟩
  have hremoval : ∀ sight ∈ watched.2.sights,
      sight.step = .remove ⟨false, [.name ".api.ts.tmp"], false⟩ → sight.isFaulty = false := by
    intro sight hsight hstep
    have hmem : (sight.step, sight.isTaken, sight.isFaulty) ∈ watched.2.sights.map fun sight =>
        (sight.step, sight.isTaken, sight.isFaulty) := List.mem_map.mpr ⟨sight, hsight, rfl⟩
    rw [hsights, hstep] at hmem
    simp only [List.mem_cons, Prod.mk.injEq, reduceCtorEq, false_and, List.not_mem_nil, or_false,
      false_or, true_and] at hmem
    exact hmem.2
  obtain ⟨sight, hsight, htaken, hstep⟩ := hwrite
  obtain ⟨hresult, hgone⟩ :=
    hcleared ⟨sight, hsight, htaken, by simp [hstep, FileTree.staging]⟩ hremoval
  refine ⟨hd, hresult, ?_, fun sight hsight u hu => ?_⟩
  · rcases hgone with hgone | ⟨-, hthere | ⟨hup, -⟩⟩
    · rw [hstage]
      exact hgone
    · cases hthere
    · exact absurd hup (by decide)
  · rcases (hseen.seen sight hsight u hu).at_path with hsame | hdata | ⟨hup, -⟩
    · exact .inl (hsame.trans hprevious)
    · exact .inr hdata
    · exact absurd hup (by decide)

/-- Where a path leads through itself nothing is there at first, and then a directory is seen. -/
theorem a_path_through_itself_shows_a_directory :
    let d := PlannedDisk.ofTree Run.desk
    let path := Path.ofText "a/../a"
    let watched := (Disk.writeFile path "t".toUTF8 :
      StateM WatchedDisk (Except WriteFault Unit)) (.ofDisk d)
    d.tree.WellFormed ∧ d.tree.at? path = none ∧ watched.1 = .error .failed ∧
      ∃ sight ∈ watched.2.sights, ∃ u ∈ sight.trees, u.at? path = some .directory := by
  intro d path watched
  have hdirectory : (watched.2.sights.any fun sight => sight.trees.any fun u =>
      (u.at? path).any Entry.isDirectory) = true := by
    decide +kernel
  have hpath : path = ⟨false, [.name "a", .up, .name "a"], false⟩ := by decide
  refine ⟨FileTree.wellFormed_of_entries (by decide) (by decide), ?_, by decide +kernel, ?_⟩
  · rw [hpath]
    rfl
  · obtain ⟨sight, hsight, hany⟩ := List.any_eq_true.mp hdirectory
    obtain ⟨u, hu, hany⟩ := List.any_eq_true.mp hany
    exact ⟨sight, hsight, u, hu, Entry.any_isDirectory_iff.mp hany⟩

end WatchedDisk

end StoreClient
