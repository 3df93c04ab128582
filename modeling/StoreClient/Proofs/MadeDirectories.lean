-- Directories that are made on the way to a file. They come where nothing was, each on the way
-- that the parts of the path spell, and change nothing at the path of the file itself; but after
-- two dots a path may lead through a directory that was missing before.
import StoreClient.Proofs.FileTrees

namespace StoreClient

namespace FileTree

/-! ## Spelling -/

/-- One part further down, or up, from a place. -/
def onward (place : Place) : PathPart → Place
  | .here => place
  | .up => place.dropLast
  | .name name => place ++ [name]

/-- The place that some parts spell from a place on, whatever stands on the way. -/
def spell (place : Place) (parts : List PathPart) : Place := parts.foldl onward place

variable {t t' : FileTree} {place p q : Place} {path : Path} {parts : List PathPart}

theorem follow?_eq_spell (h : t.follow? place parts = some q) : q = spell place parts := by
  induction parts generalizing place with
  | nil =>
    cases h
    rfl
  | cons part rest ih =>
    cases part with
    | here =>
      simp only [follow?] at h
      split at h
      · cases h
      · exact ih h
    | up =>
      simp only [follow?] at h
      split at h
      · cases h
      · exact ih h
    | name name =>
      simp only [follow?] at h
      split at h
      · cases h
      · split at h
        · exact ih h
        · cases h

theorem prefix_spell (h : .up ∉ parts) : place <+: spell place parts := by
  induction parts generalizing place with
  | nil => exact List.prefix_refl place
  | cons part rest ih =>
    rw [List.mem_cons, not_or] at h
    cases part with
    | here => exact ih h.2
    | up => exact absurd rfl h.1
    | name name => exact (List.prefix_append place [name]).trans (ih h.2)

/-- Where the directories spelt out are all there, a path that is followed in one tree is followed
in another. -/
theorem follow?_of_directories (hup : .up ∉ parts)
    (hdirectories : ∀ p, p <+: spell place parts → t.isDirectory p = true)
    (h : t'.follow? place parts = some q) : t.follow? place parts = some q := by
  induction parts generalizing place with
  | nil => exact h
  | cons part rest ih =>
    have hplace := hdirectories place (prefix_spell hup)
    rw [List.mem_cons, not_or] at hup
    cases part with
    | here =>
      simp only [follow?] at h ⊢
      split at h
      · cases h
      · rw [hplace]
        exact ih hup.2 hdirectories h
    | up => exact absurd rfl hup.1
    | name name =>
      simp only [follow?] at h ⊢
      split at h
      · cases h
      · split at h
        · rename_i husable
          rw [hplace, husable]
          exact ih hup.2 hdirectories h
        · cases h

/-! ## Walking and making -/

/-- New directories have come where nothing was. -/
structure Grows (t t' : FileTree) : Prop where
  working_eq : t'.working = t.working
  entry : ∀ p, t'.entry? p = t.entry? p ∨ t.entry? p = none ∧ t'.entry? p = some .directory

theorem Grows.refl (t : FileTree) : Grows t t := ⟨rfl, fun _ => .inl rfl⟩

theorem Grows.trans {t'' : FileTree} (h : Grows t t') (h' : Grows t' t'') : Grows t t'' where
  working_eq := h'.working_eq.trans h.working_eq
  entry p := by
    rcases h.entry p with heq | ⟨hnone, hnew⟩
    · rw [← heq]
      exact h'.entry p
    · rcases h'.entry p with heq | ⟨hnone', -⟩
      · exact .inr ⟨hnone, heq.trans hnew⟩
      · rw [hnew] at hnone'
        cases hnone'

theorem Grows.isDirectory (h : Grows t t') (hp : t.isDirectory p = true) :
    t'.isDirectory p = true := by
  rw [isDirectory_iff] at hp ⊢
  rcases h.entry p with heq | ⟨hnone, -⟩
  · rw [heq, hp]
  · rw [hp] at hnone
    cases hnone

theorem entry?_eq_none_ne_nil (h : t.entry? p = none) : p ≠ [] := by
  rintro rfl
  cases h

theorem grows_insert (h : t.entry? p = none) : Grows t (t.insert p .directory) := by
  refine ⟨rfl, fun q => ?_⟩
  rw [entry?_insert (entry?_eq_none_ne_nil h)]
  split
  · rename_i hq
    exact .inr ⟨hq ▸ h, rfl⟩
  · exact .inl rfl

theorem WellFormed.insert_directory (ht : t.WellFormed) (h : t.entry? p = none)
    (hparent : t.isDirectory p.dropLast = true) : (t.insert p .directory).WellFormed where
  working := (grows_insert h).isDirectory ht.working
  parents q hq := by
    refine (grows_insert h).isDirectory ?_
    rw [entry?_insert (entry?_eq_none_ne_nil h)] at hq
    split at hq
    · rename_i hqp
      rw [hqp]
      exact hparent
    · exact ht.parents q hq

/-- What the walk that makes directories keeps, and where it makes them. -/
structure Walked (place : Place) (parts : List PathPart) (t t' : FileTree) : Prop where
  grows : Grows t t'
  wellFormed : t'.WellFormed
  elsewhere : .up ∉ parts → ∀ p, ¬ p <+: spell place parts → t'.entry? p = t.entry? p

theorem walked_makeDirectories (ht : t.WellFormed) (hplace : t.isDirectory place = true) :
    Walked place parts t (t.makeDirectories place parts).2 := by
  induction parts generalizing t place with
  | nil => exact ⟨.refl t, ht, fun _ _ _ => rfl⟩
  | cons part rest ih =>
    cases part with
    | here =>
      obtain ⟨hgrows, hwell, helse⟩ := ih ht hplace
      exact ⟨hgrows, hwell, fun hup => helse fun hmem => hup (List.mem_cons_of_mem _ hmem)⟩
    | up =>
      have hparent := ht.parents place (by rw [isDirectory_iff.mp hplace]; rfl)
      obtain ⟨hgrows, hwell, -⟩ := ih ht hparent
      exact ⟨hgrows, hwell, fun hup => absurd List.mem_cons_self hup⟩
    | name name =>
      simp only [makeDirectories]
      split
      · rename_i hnext
        obtain ⟨hgrows, hwell, helse⟩ := ih ht (isDirectory_iff.mpr hnext)
        exact ⟨hgrows, hwell, fun hup => helse fun hmem => hup (List.mem_cons_of_mem _ hmem)⟩
      · exact ⟨.refl t, ht, fun _ _ _ => rfl⟩
      · rename_i hnext
        split
        · have hmade := ht.insert_directory hnext (by rwa [List.dropLast_concat])
          have hnew : (t.insert (place ++ [name]) .directory).isDirectory (place ++ [name]) =
              true := by
            rw [isDirectory_iff, entry?_insert (entry?_eq_none_ne_nil hnext), if_pos rfl]
          obtain ⟨hgrows, hwell, helse⟩ := ih hmade hnew
          refine ⟨(grows_insert hnext).trans hgrows, hwell, fun hup p hp => ?_⟩
          have hrest : .up ∉ rest := fun hmem => hup (List.mem_cons_of_mem _ hmem)
          rw [helse hrest p hp, entry?_insert (entry?_eq_none_ne_nil hnext), if_neg]
          -- The new directory is on the way to what is spelt.
          rintro rfl
          exact hp (prefix_spell hrest)
        · exact ⟨.refl t, ht, fun _ _ _ => rfl⟩

/-- A directory that is made stands where the first parts lead. -/
theorem spelt_of_makeDirectories
    (h : FileTree.entry? (t.makeDirectories place parts).2 p ≠ t.entry? p) :
    ∃ way, way <+: parts ∧ p = spell place way := by
  induction parts generalizing t place with
  | nil => exact absurd rfl h
  | cons part rest ih =>
    have further {place : Place} (hrest : ∃ way, way <+: rest ∧ p = spell (onward place part) way) :
        ∃ way, way <+: part :: rest ∧ p = spell place way := by
      obtain ⟨way, hway, rfl⟩ := hrest
      exact ⟨part :: way, (List.prefix_cons_inj part).mpr hway, rfl⟩
    cases part with
    | here => exact further (ih h)
    | up => exact further (ih h)
    | name name =>
      simp only [makeDirectories] at h
      split at h
      · exact further (ih h)
      · exact absurd rfl h
      · rename_i hnext
        split at h
        · by_cases hp : p = place ++ [name]
          · exact ⟨[.name name], List.prefix_append [_] rest, hp⟩
          · have hsame : FileTree.entry? (t.insert (place ++ [name]) .directory) p =
                t.entry? p := by
              rw [entry?_insert (entry?_eq_none_ne_nil hnext), if_neg hp]
            exact further (ih (hsame ▸ h))
        · exact absurd rfl h

/-- No directory is missing on a way that can be followed. -/
theorem makeDirectories_eq_self (h : t.follow? place parts = some q)
    (hq : t.isDirectory q = true) : t.makeDirectories place parts = (true, t) := by
  induction parts generalizing place with
  | nil => rfl
  | cons part rest ih =>
    cases part with
    | here =>
      simp only [follow?] at h
      split at h
      · cases h
      · exact ih h
    | up =>
      simp only [follow?] at h
      split at h
      · cases h
      · exact ih h
    | name name =>
      simp only [follow?] at h
      split at h
      · cases h
      · split at h
        · have hnext := isDirectory_iff.mp (isDirectory_of_follow? h hq)
          simp only [makeDirectories, hnext]
          exact ih h
        · cases h

theorem WellFormed.isDirectory_start (ht : t.WellFormed) (path : Path) :
    t.isDirectory (t.start path) = true := by
  unfold start
  split
  · rfl
  · exact ht.working

/-! ## What stands at the path of a file -/

theorem spell_append (place : Place) (xs ys : List PathPart) :
    spell place (xs ++ ys) = spell (spell place xs) ys := List.foldl_append

/-- What has an entry in directories that were made can be followed in the tree before. -/
theorem follow?_of_makeDirectories (ht : t.WellFormed) {made rest : List PathPart} {name : String}
    (hplace : t.isDirectory place = true) (hup : .up ∉ made ++ rest)
    (h : (t.makeDirectories place made).2.follow? place (made ++ rest ++ [.name name]) = some q)
    (hentry : (FileTree.entry? (t.makeDirectories place made).2 q).isSome) :
    t.follow? place (made ++ rest ++ [.name name]) = some q := by
  have hspell := follow?_eq_spell h
  rw [spell_append] at hspell
  have hmade : .up ∉ made := fun hmem => hup (List.mem_append_left _ hmem)
  have hrest : .up ∉ rest := fun hmem => hup (List.mem_append_right _ hmem)
  -- What is spelt without the name is one shorter, so no directory was made in the place of it.
  have hlength : q.length = (spell place (made ++ rest)).length + 1 := by
    rw [hspell]
    simp [spell, onward]
  have hshort : spell place made <+: spell place (made ++ rest) := by
    rw [spell_append]
    exact prefix_spell hrest
  have hbefore : (t.entry? q).isSome := by
    rw [(walked_makeDirectories ht hplace).elsewhere hmade] at hentry
    · exact hentry
    · intro habove
      have := habove.length_le
      have := hshort.length_le
      omega
  -- So all directories on the way were there.
  have hdirectories : ∀ p, p <+: spell place (made ++ rest) → t.isDirectory p = true := by
    intro p hp
    refine ht.isDirectory_of_prefix hbefore (hp.trans ?_) ?_
    · rw [hspell]
      exact List.prefix_append _ _
    · rintro rfl
      have := hp.length_le
      omega
  rw [follow?_append, Option.bind_eq_some_iff] at h ⊢
  obtain ⟨d, hd, hq⟩ := h
  refine ⟨d, follow?_of_directories hup hdirectories hd, ?_⟩
  rw [follow?_name_eq_some_iff] at hq ⊢
  refine ⟨?_, hq.2⟩
  rw [follow?_eq_spell hd]
  exact hdirectories _ (List.prefix_refl _)

/-- Making directories around a file does not change what stands at its path, unless the path
leads up again from a directory that was missing. -/
theorem at?_makeDirectories (ht : t.WellFormed) {made rest : List PathPart} {last : PathPart}
    (hparts : path.parts = made ++ rest ++ [last]) (hlast : last ≠ .here) :
    ((t.makeDirectories (t.start path) made).2.at? path = t.at? path) ∨
      .up ∈ path.parts ∧ t.place? path = none := by
  have hne : path.parts ≠ [] := by simp [hparts]
  cases hplace : t.place? path with
  | some q =>
    left
    rw [place?_eq_follow? hne, hparts, List.append_assoc, follow?_append,
      Option.bind_eq_some_iff] at hplace
    obtain ⟨d, hd, hq⟩ := hplace
    rw [makeDirectories_eq_self hd (isDirectory_of_follow?_ne_nil (by simp) hq)]
  | none =>
    by_cases hup : .up ∈ path.parts
    · exact .inr ⟨hup, rfl⟩
    · left
      have hbefore : t.at? path = none := at?_eq_none (by rw [hplace]; rfl)
      have hwalked : Walked (t.start path) made t (t.makeDirectories (t.start path) made).2 :=
        walked_makeDirectories ht (ht.isDirectory_start path)
      rw [hbefore]
      refine at?_eq_none ?_
      rw [Option.bind_eq_none_iff]
      intro q hq
      by_contra hentry
      cases last with
      | here => exact absurd rfl hlast
      | up => exact hup (by simp [hparts])
      | name name =>
        have hstart := start_eq hwalked.grows.working_eq path
        rw [place?_eq_follow? hne, hstart, hparts] at hq
        have hfollow := follow?_of_makeDirectories ht (ht.isDirectory_start path)
          (fun hmem => hup (hparts ▸ List.mem_append_left _ hmem)) hq
          (Option.isSome_iff_ne_none.mpr hentry)
        rw [place?_eq_follow? hne, hparts, hfollow] at hplace
        cases hplace

end FileTree

end StoreClient
