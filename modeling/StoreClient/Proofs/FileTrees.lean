-- The theory of file trees: what stands at a place after a change, how paths are followed, and
-- the shape that every step keeps: around each entry there is a directory.
import Mathlib.Data.List.Induction
import StoreClient.Disk.FileTree
import StoreClient.Proofs.Members

namespace StoreClient

theorem Entry.any_isDirectory_iff {e : Option Entry} :
    e.any isDirectory = true ↔ e = some .directory := by
  cases e with
  | none => simp
  | some e => cases e <;> simp [isDirectory]

namespace FileTree

/-! ## Entries -/

variable {t t' : FileTree} {place p q : Place} {entry : Entry}

@[simp] theorem entry?_nil (t : FileTree) : t.entry? [] = some .directory := rfl

@[simp] theorem isDirectory_nil (t : FileTree) : t.isDirectory [] = true := rfl

@[simp] theorem working_insert (t : FileTree) (place : Place) (entry : Entry) :
    (t.insert place entry).working = t.working := rfl

@[simp] theorem working_erase (t : FileTree) (place : Place) :
    (t.erase place).working = t.working := rfl

theorem entry?_of_ne_nil (h : p ≠ []) : t.entry? p = t.entries.lookup p := by
  unfold entry?
  rw [if_neg (by simpa using h)]

theorem entry?_insert (h : place ≠ []) :
    entry? (t.insert place entry) p = if p = place then some entry else t.entry? p := by
  by_cases hnil : p = []
  · rw [hnil, if_neg (fun he => h he.symm)]
    rfl
  · rw [entry?_of_ne_nil hnil, entry?_of_ne_nil hnil, insert, List.lookup_cons, lookup_filter_ne]
    by_cases hp : p = place
    · simp [hp]
    · have hpk : (p == place) = false := by simp [hp]
      simp [hp, hpk]

theorem entry?_erase (h : place ≠ []) :
    entry? (t.erase place) p = if p = place then none else t.entry? p := by
  by_cases hnil : p = []
  · rw [hnil, if_neg (fun he => h he.symm)]
    rfl
  · rw [entry?_of_ne_nil hnil, entry?_of_ne_nil hnil, erase, lookup_filter_ne]

theorem isDirectory_iff : t.isDirectory place = true ↔ t.entry? place = some .directory :=
  Entry.any_isDirectory_iff

theorem ne_nil_of_not_isDirectory (h : t.isDirectory place = false) : place ≠ [] := by
  rintro rfl
  cases h

/-! ## Well-formed trees -/

/-- Every entry stands in a directory, and so does whoever asks. -/
structure WellFormed (t : FileTree) : Prop where
  working : t.isDirectory t.working = true
  parents : ∀ place, (t.entry? place).isSome → t.isDirectory place.dropLast = true

theorem wellFormed_of_entries (hworking : t.isDirectory t.working = true)
    (hentries : ∀ e ∈ t.entries, t.isDirectory e.1.dropLast = true) : t.WellFormed where
  working := hworking
  parents place hplace := by
    by_cases hnil : place = []
    · rw [hnil]
      rfl
    · rw [entry?_of_ne_nil hnil, Option.isSome_iff_exists] at hplace
      obtain ⟨entry, hentry⟩ := hplace
      obtain ⟨before, after, heq, -⟩ := List.lookup_eq_some_iff.mp hentry
      exact hentries (place, entry) (by simp [heq])

/-- All directories around an entry are there. -/
theorem WellFormed.isDirectory_of_prefix (h : t.WellFormed) (hentry : (t.entry? q).isSome)
    (habove : p <+: q) (hne : p ≠ q) : t.isDirectory p = true := by
  obtain ⟨rest, rfl⟩ := habove
  induction rest using List.reverseRecOn with
  | nil => simp at hne
  | append_singleton rest name ih =>
    have hparent := h.parents _ hentry
    rw [← List.append_assoc, List.dropLast_concat] at hparent
    by_cases hrest : p = p ++ rest
    · rwa [← hrest] at hparent
    · refine ih ?_ hrest
      rw [isDirectory_iff.mp hparent]
      rfl

/-! ## Changes to files -/

/-- Only the entry at one place is another, and that is no directory before or after. -/
structure ChangesOnly (place : Place) (t t' : FileTree) : Prop where
  working_eq : t'.working = t.working
  entry_eq : ∀ p, p ≠ place → t'.entry? p = t.entry? p
  isDirectory_before : t.isDirectory place = false
  isDirectory_after : t'.isDirectory place = false

namespace ChangesOnly

theorem isDirectory_eq (h : ChangesOnly place t t') (p : Place) :
    t'.isDirectory p = t.isDirectory p := by
  by_cases hp : p = place
  · rw [hp, h.isDirectory_before, h.isDirectory_after]
  · rw [isDirectory, isDirectory, h.entry_eq p hp]

theorem refl (h : t.isDirectory place = false) : ChangesOnly place t t :=
  ⟨rfl, fun _ _ => rfl, h, h⟩

theorem trans {t'' : FileTree} (h : ChangesOnly place t t') (h' : ChangesOnly place t' t'') :
    ChangesOnly place t t'' where
  working_eq := h'.working_eq.trans h.working_eq
  entry_eq p hp := (h'.entry_eq p hp).trans (h.entry_eq p hp)
  isDirectory_before := h.isDirectory_before
  isDirectory_after := h'.isDirectory_after

theorem insert (h : t.isDirectory place = false) (hentry : entry.isDirectory = false) :
    ChangesOnly place t (t.insert place entry) := by
  have hne := ne_nil_of_not_isDirectory h
  refine ⟨rfl, fun p hp => ?_, h, ?_⟩
  · rw [entry?_insert hne, if_neg hp]
  · rw [isDirectory, entry?_insert hne, if_pos rfl]
    exact hentry

theorem erase (h : t.isDirectory place = false) : ChangesOnly place t (t.erase place) := by
  have hne := ne_nil_of_not_isDirectory h
  refine ⟨rfl, fun p hp => ?_, h, ?_⟩
  · rw [entry?_erase hne, if_neg hp]
  · rw [isDirectory, entry?_erase hne, if_pos rfl]
    rfl

/-- A file may come and go anywhere in a directory. -/
theorem wellFormed (h : ChangesOnly place t t') (ht : t.WellFormed)
    (hparent : t.isDirectory place.dropLast = true) : t'.WellFormed where
  working := by
    rw [h.working_eq, h.isDirectory_eq]
    exact ht.working
  parents p hp := by
    rw [h.isDirectory_eq]
    by_cases hplace : p = place
    · rw [hplace]
      exact hparent
    · rw [h.entry_eq p hplace] at hp
      exact ht.parents p hp

end ChangesOnly

/-! ## Following paths -/

theorem follow?_congr (h : ∀ p, t'.isDirectory p = t.isDirectory p) (parts : List PathPart) :
    t'.follow? place parts = t.follow? place parts := by
  induction parts generalizing place with
  | nil => rfl
  | cons part rest ih =>
    cases part <;> simp only [follow?, h place, ih]

theorem start_eq (h : t'.working = t.working) (path : Path) : t'.start path = t.start path := by
  rw [start, start, h]

theorem place?_congr (h : ∀ p, t'.isDirectory p = t.isDirectory p)
    (hworking : t'.working = t.working) (path : Path) : t'.place? path = t.place? path := by
  rw [place?, place?, start_eq hworking, follow?_congr h]

theorem follow?_append (xs ys : List PathPart) :
    t.follow? place (xs ++ ys) = (t.follow? place xs).bind fun q => t.follow? q ys := by
  induction xs generalizing place with
  | nil => rfl
  | cons part rest ih =>
    rw [List.cons_append]
    cases part with
    | here =>
      simp only [follow?, ih]
      split <;> rfl
    | up =>
      simp only [follow?, ih]
      split <;> rfl
    | name name =>
      simp only [follow?, ih]
      split
      · rfl
      · split <;> rfl

theorem isDirectory_of_follow?_ne_nil {parts : List PathPart} (hne : parts ≠ [])
    (h : t.follow? place parts = some q) : t.isDirectory place = true := by
  cases parts with
  | nil => exact absurd rfl hne
  | cons part rest =>
    by_contra hplace
    cases part <;> simp [follow?, hplace] at h

/-- All that is walked through on the way to a directory are directories. -/
theorem isDirectory_of_follow? {parts : List PathPart} (h : t.follow? place parts = some q)
    (hq : t.isDirectory q = true) : t.isDirectory place = true := by
  by_cases hne : parts = []
  · rw [hne] at h
    cases h
    exact hq
  · exact isDirectory_of_follow?_ne_nil hne h

theorem follow?_name_eq_some_iff {name : String} : t.follow? place [.name name] = some q ↔
    t.isDirectory place = true ∧ isUsable name = true ∧ q = place ++ [name] := by
  simp only [follow?]
  cases t.isDirectory place with
  | false => simp
  | true =>
    cases isUsable name with
    | false => simp
    | true => simp [eq_comm]

/-! ## What stands at a path -/

variable {path : Path}

theorem place?_eq_follow? (h : path.parts ≠ []) :
    t.place? path = t.follow? (t.start path) path.parts := by
  have hempty : path.parts.isEmpty = false := by simpa using h
  rw [place?, hempty]
  rfl

theorem at?_congr (h : (t'.place? path).bind t'.entry? = (t.place? path).bind t.entry?) :
    t'.at? path = t.at? path := by
  rw [at?, at?, h]

theorem at?_eq_none (h : (t.place? path).bind t.entry? = none) : t.at? path = none := by
  rw [at?, h]

theorem filePlace?_eq_some_iff : t.filePlace? path = some place ↔ path.isDirectory = false ∧
    t.place? path = some place ∧ t.isDirectory place = false ∧
      t.isDirectory place.dropLast = true := by
  constructor
  · intro h
    unfold filePlace? at h
    split at h
    · cases h
    · rename_i hfile
      split at h
      · rename_i q hplace
        split at h
        · cases h
        · rename_i hfree
          cases h
          simp only [Bool.or_eq_true, Bool.not_eq_true', not_or, Bool.not_eq_true,
            Bool.not_eq_false] at hfree
          exact ⟨by simpa using hfile, hplace, hfree.1, hfree.2⟩
      · cases h
  · rintro ⟨hfile, hplace, hfree, hparent⟩
    simp [filePlace?, hfile, hplace, hfree, hparent]

theorem filePlace?_congr (h : ∀ p, t'.isDirectory p = t.isDirectory p)
    (hworking : t'.working = t.working) (path : Path) :
    t'.filePlace? path = t.filePlace? path := by
  simp only [filePlace?, place?_congr h hworking, h]

theorem at?_of_filePlace? (h : t.filePlace? path = some place) :
    t.at? path = t.entry? place := by
  obtain ⟨hfile, hplace, -, -⟩ := filePlace?_eq_some_iff.mp h
  rw [at?, hplace, Option.bind_some, hfile]
  cases t.entry? place <;> rfl

/-- At most the file at a path has changed. -/
def ChangesFile (path : Path) (t t' : FileTree) : Prop :=
  t' = t ∨ ∃ place, t.filePlace? path = some place ∧ ChangesOnly place t t'

namespace ChangesFile

theorem working_eq (h : ChangesFile path t t') : t'.working = t.working := by
  rcases h with rfl | ⟨place, -, h⟩
  · rfl
  · exact h.working_eq

theorem isDirectory_eq (h : ChangesFile path t t') (p : Place) :
    t'.isDirectory p = t.isDirectory p := by
  rcases h with rfl | ⟨place, -, h⟩
  · rfl
  · exact h.isDirectory_eq p

theorem filePlace?_eq (h : ChangesFile path t t') (other : Path) :
    t'.filePlace? other = t.filePlace? other :=
  filePlace?_congr h.isDirectory_eq h.working_eq other

theorem trans {t'' : FileTree} (h : ChangesFile path t t') (h' : ChangesFile path t' t'') :
    ChangesFile path t t'' := by
  have hplace := h.filePlace?_eq path
  rcases h with rfl | ⟨place, hp, h⟩
  · exact h'
  · rcases h' with rfl | ⟨place', hp', h'⟩
    · exact .inr ⟨place, hp, h⟩
    · rw [hplace, hp] at hp'
      cases hp'
      exact .inr ⟨place, hp, h.trans h'⟩

theorem wellFormed (h : ChangesFile path t t') (ht : t.WellFormed) : t'.WellFormed := by
  rcases h with rfl | ⟨place, hp, h⟩
  · exact ht
  · exact h.wellFormed ht (filePlace?_eq_some_iff.mp hp).2.2.2

theorem place?_eq (h : ChangesFile path t t') (other : Path) : t'.place? other = t.place? other :=
  place?_congr h.isDirectory_eq h.working_eq other

/-- What stands at a place to which the path does not lead is as it was. -/
theorem entry?_eq (h : ChangesFile path t t') {p : Place} (hp : t'.place? path ≠ some p) :
    t'.entry? p = t.entry? p := by
  rw [h.place?_eq] at hp
  rcases h with rfl | ⟨place, hplace, h⟩
  · rfl
  · exact h.entry_eq p fun heq => hp (heq ▸ (filePlace?_eq_some_iff.mp hplace).2.1)

/-- What stands at a path that leads to another place is as it was. -/
theorem at?_eq (h : ChangesFile path t t') {other : Path}
    (hother : ∀ place, t'.place? path = some place → t'.place? other ≠ some place) :
    t'.at? other = t.at? other := by
  refine at?_congr ?_
  rw [← h.place?_eq]
  cases hplace : t'.place? other with
  | none => rfl
  | some q => exact h.entry?_eq fun hq => hother q hq hplace

end ChangesFile

/-! ## Steps -/

/-- What a step may do: all that it does by itself or, on a faulty disk, a part of it before it
fails. -/
inductive Took (faulty : Prop) (t : FileTree) (s : DiskStep) (ok : Bool) (t' : FileTree) : Prop
  | whole (h : t.after s = (ok, t'))
  | part (done : Nat) (hfaulty : faulty) (hok : ok = false) (h : t.afterPart done s = t')

end FileTree

/-- The path of the only file that a step may change. -/
def DiskStep.file? : DiskStep → Option Path
  | .openEmpty p | .write p _ | .syncFile p | .remove p => some p
  | _ => none

namespace FileTree

variable {faulty : Prop} {t t' : FileTree} {path : Path} {s : DiskStep} {ok : Bool}

theorem changesFile_insert {place : Place} (h : t.filePlace? path = some place) (data : ByteArray) :
    ChangesFile path t (t.insert place (.file data)) :=
  .inr ⟨place, h, .insert (filePlace?_eq_some_iff.mp h).2.2.1 rfl⟩

theorem changesFile_write (t : FileTree) (path : Path) (data : ByteArray) :
    ChangesFile path t (t.after (.write path data)).2 := by
  rw [after]
  split
  · rename_i place hplace
    exact changesFile_insert hplace data
  · exact .inl rfl

theorem changesFile_after (t : FileTree) (hs : s.file? = some path) :
    ChangesFile path t (t.after s).2 := by
  cases s with
  | openEmpty p =>
    cases hs
    rw [after]
    split
    · rename_i place hplace
      exact changesFile_insert hplace _
    · exact .inl rfl
  | write p data =>
    cases hs
    exact changesFile_write t path data
  | syncFile p => exact .inl rfl
  | remove p =>
    cases hs
    rw [after]
    split
    · rename_i place hplace
      split
      · exact .inr ⟨place, hplace, .erase (filePlace?_eq_some_iff.mp hplace).2.2.1⟩
      · exact .inl rfl
    · exact .inl rfl
  | _ => cases hs

/-- A step on a file changes at most that file, also when it fails half done. -/
theorem Took.changesFile (h : t.Took faulty s ok t') (hs : s.file? = some path) :
    ChangesFile path t t' := by
  cases h with
  | whole h =>
    have hafter := changesFile_after t hs
    rwa [h] at hafter
  | part done _ _ h =>
    subst h
    cases s with
    | write p data =>
      cases hs
      exact changesFile_write t path _
    | makeDirectories p => cases hs
    | _ => exact .inl rfl

end FileTree

end StoreClient
