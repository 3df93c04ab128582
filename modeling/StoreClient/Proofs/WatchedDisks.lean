-- A disk that is watched: every tree that stands while a step is done is seen, those in the
-- middle of a step included. Whatever is seen of a series of steps is a tree that the series
-- could have left, had it stopped there.
import StoreClient.Proofs.StagedWrites

namespace StoreClient

/-! ## Watching a step -/

/-- How many parts a step is done in: a directory at a time, or a byte at a time. -/
def DiskStep.parts : DiskStep → Nat
  | .makeDirectories p => p.parts.length
  | .write _ data => data.size
  | _ => 0

/-- A step as it was seen. -/
structure Sight where
  step : DiskStep
  /-- Whether the step failed by plan. -/
  isFaulty : Bool
  isTaken : Bool
  /-- The trees that stood meanwhile, from the one before the step to the one after it. -/
  trees : List FileTree

/-- The trees that stand while a step is done, from none of its parts up to some of them. -/
def FileTree.meanwhile (t : FileTree) (s : DiskStep) (done : Nat) : List FileTree :=
  (List.range (done + 1)).map fun n => t.afterPart n s

/-- What is seen of the next step. -/
def PlannedDisk.sight (s : DiskStep) (d : PlannedDisk) : Sight :=
  match d.plan with
  | some done :: _ => ⟨s, true, false, d.tree :: d.tree.meanwhile s done⟩
  | _ =>
    ⟨s, false, (d.tree.after s).1, d.tree :: d.tree.meanwhile s s.parts ++ [(d.tree.after s).2]⟩

/-- A disk with all that has been seen of it. -/
structure WatchedDisk where
  disk : PlannedDisk
  sights : List Sight

namespace WatchedDisk

def ofDisk (d : PlannedDisk) : WatchedDisk := ⟨d, []⟩

/-- An answer of the disk that changes nothing. -/
def answer {α : Type} (question : StateM PlannedDisk α) : StateM WatchedDisk α :=
  fun w => ((question w.disk).1, w)

def step (s : DiskStep) (w : WatchedDisk) : Bool × WatchedDisk :=
  ((w.disk.step s).1, ⟨(w.disk.step s).2, w.sights ++ [w.disk.sight s]⟩)

end WatchedDisk

instance : Disk (StateM WatchedDisk) where
  read p := WatchedDisk.answer (Disk.read p)
  isThere p := WatchedDisk.answer (Disk.isThere p)
  dataFile p := WatchedDisk.answer (Disk.dataFile p)
  step s := fun w => w.step s

/-! ## What is seen of steps -/

namespace FileTree

variable {t t' u : FileTree} {s : DiskStep} {sight : Sight} {ok : Bool}

/-- A tree that stands before a step, after it, or when part of it is done. -/
def Passes (t : FileTree) (s : DiskStep) (u : FileTree) : Prop :=
  u = t ∨ ∃ ok, t.Took True s ok u

theorem passes_of_mem_meanwhile {done : Nat} (h : u ∈ t.meanwhile s done) : t.Passes s u := by
  obtain ⟨n, -, rfl⟩ := List.mem_map.mp h
  exact .inr ⟨false, .part n trivial rfl rfl⟩

/-- What a sight shows of a step from one tree to another. -/
structure Showed (t : FileTree) (s : DiskStep) (sight : Sight) (ok : Bool) (t' : FileTree) :
    Prop where
  step_eq : sight.step = s
  isTaken_eq : sight.isTaken = ok
  took : t.Took True s ok t'
  whole : sight.isFaulty = false → t.after s = (ok, t')
  passes : ∀ u ∈ sight.trees, t.Passes s u

/-- What sights show of a series of steps: the first that fails ends it. -/
inductive Shows : FileTree → List DiskStep → List Sight → Bool → FileTree → Prop
  | done (t : FileTree) : Shows t [] [] true t
  | stop {t t' : FileTree} {s : DiskStep} {sight : Sight} (rest : List DiskStep)
    (h : t.Showed s sight false t') : Shows t (s :: rest) [sight] false t'
  | next {t t' t'' : FileTree} {s : DiskStep} {sight : Sight} {rest : List DiskStep}
    {sights : List Sight} {ok : Bool} (h : t.Showed s sight true t')
    (hrest : Shows t' rest sights ok t'') : Shows t (s :: rest) (sight :: sights) ok t''

variable {ss : List DiskStep} {sights : List Sight}

theorem Shows.runs (h : t.Shows ss sights ok t') : t.Runs True ss ok t' := by
  induction h with
  | done t => exact .done t
  | stop rest h => exact .stop rest h.took
  | next h _ ih => exact .next h.took ih

theorem Shows.step_mem (h : t.Shows ss sights ok t') : ∀ sight ∈ sights, sight.step ∈ ss := by
  induction h with
  | done t =>
    intro sight hsight
    cases hsight
  | stop rest h =>
    intro sight hsight
    rw [List.mem_singleton.mp hsight, h.step_eq]
    exact List.mem_cons_self
  | next h _ ih =>
    rw [List.forall_mem_cons]
    refine ⟨?_, fun sight hsight => List.mem_cons_of_mem _ (ih sight hsight)⟩
    rw [h.step_eq]
    exact List.mem_cons_self

/-- In a series that comes to its end every step is taken. -/
theorem Shows.isTaken (h : t.Shows ss sights ok t') (hok : ok = true) :
    ∀ sight ∈ sights, sight.isTaken = true := by
  induction h with
  | done t =>
    intro sight hsight
    cases hsight
  | stop rest h => cases hok
  | next h _ ih =>
    rw [List.forall_mem_cons]
    exact ⟨h.isTaken_eq, ih hok⟩

/-- What is seen of a series of steps is what its first steps could have left. -/
theorem Shows.runs_of_mem (h : t.Shows ss sights ok t') {sight : Sight} (hsight : sight ∈ sights)
    (hu : u ∈ sight.trees) : ∃ first, first <+: ss ∧ ∃ ok, t.Runs True first ok u := by
  have one {t : FileTree} {s : DiskStep} {rest : List DiskStep} (h : t.Passes s u) :
      ∃ first, first <+: s :: rest ∧ ∃ ok, t.Runs True first ok u := by
    rcases h with rfl | ⟨ok, h⟩
    · exact ⟨[], List.nil_prefix, true, .done u⟩
    · refine ⟨[s], List.prefix_append [s] rest, ok, ?_⟩
      cases ok with
      | true => exact .next h (.done u)
      | false => exact .stop [] h
  induction h with
  | done t => cases hsight
  | stop rest h =>
    rw [List.mem_singleton.mp hsight] at hu
    exact one (h.passes u hu)
  | next h _ ih =>
    rcases List.mem_cons.mp hsight with rfl | hsight
    · exact one (h.passes u hu)
    · obtain ⟨first, hfirst, ok, hruns⟩ := ih hsight
      exact ⟨_, (List.prefix_cons_inj _).mpr hfirst, ok, .next h.took hruns⟩

end FileTree

/-! ## Watching does not change anything -/

namespace WatchedDisk

open FileTree (Showed Shows)

theorem showed_step (s : DiskStep) (w : WatchedDisk) :
    w.disk.tree.Showed s (w.disk.sight s) (w.disk.step s).1 (w.disk.step s).2.tree := by
  obtain ⟨⟨tree, plan⟩, sights⟩ := w
  have hafter : tree.Passes s (tree.after s).2 := .inr ⟨_, .whole rfl⟩
  have hunplanned (u : FileTree)
      (hu : u ∈ tree :: tree.meanwhile s s.parts ++ [(tree.after s).2]) : tree.Passes s u := by
    rcases List.mem_append.mp hu with hu | hu
    · rcases List.mem_cons.mp hu with rfl | hu
      · exact .inl rfl
      · exact FileTree.passes_of_mem_meanwhile hu
    · rw [List.mem_singleton.mp hu]
      exact hafter
  cases plan with
  | nil => exact ⟨rfl, rfl, .whole rfl, fun _ => rfl, hunplanned⟩
  | cons next rest =>
    cases next with
    | none => exact ⟨rfl, rfl, .whole rfl, fun _ => rfl, hunplanned⟩
    | some done =>
      have hfaulty : (PlannedDisk.sight s ⟨tree, some done :: rest⟩).isFaulty = true := rfl
      refine ⟨rfl, rfl, .part done trivial rfl rfl, fun h => ?_, fun u hu => ?_⟩
      · cases hfaulty.symm.trans h
      rcases List.mem_cons.mp hu with rfl | hu
      · exact .inl rfl
      · exact FileTree.passes_of_mem_meanwhile hu

variable {α β : Type}

/-- A program gives the same on a disk that is watched, and leaves it the same. -/
def Agrees (x : StateM WatchedDisk α) (y : StateM PlannedDisk α) : Prop :=
  ∀ w, (x w).1 = (y w.disk).1 ∧ (x w).2.disk = (y w.disk).2

theorem agrees_pure (a : α) : Agrees (pure a) (pure a) := fun _ => ⟨rfl, rfl⟩

theorem agrees_step (s : DiskStep) : Agrees (Disk.step s) (Disk.step s) := fun _ => ⟨rfl, rfl⟩

theorem Agrees.bind {x : StateM WatchedDisk α} {y : StateM PlannedDisk α}
    {f : α → StateM WatchedDisk β} {g : α → StateM PlannedDisk β} (h : Agrees x y)
    (hfg : ∀ a, Agrees (f a) (g a)) : Agrees (x >>= f) (y >>= g) := by
  intro w
  obtain ⟨hvalue, hdisk⟩ := h w
  have hnext := hfg (x w).1 (x w).2
  rw [hvalue, hdisk] at hnext
  change (f (x w).1 (x w).2).1 = (g (y w.disk).1 (y w.disk).2).1 ∧
    (f (x w).1 (x w).2).2.disk = (g (y w.disk).1 (y w.disk).2).2
  rw [hvalue]
  exact hnext

theorem agrees_steps (ss : List DiskStep) : Agrees (Disk.steps ss) (Disk.steps ss) := by
  induction ss with
  | nil => exact agrees_pure true
  | cons s rest ih =>
    refine (agrees_step s).bind fun ok => ?_
    cases ok with
    | true => exact ih
    | false => exact agrees_pure false

theorem agrees_writeStaged (path stage : Path) (data : ByteArray) :
    Agrees (Disk.writeStaged path stage data) (Disk.writeStaged path stage data) := by
  refine (agrees_steps _).bind fun ok => ?_
  cases ok with
  | true => exact agrees_pure true
  | false => exact (agrees_step _).bind fun _ => agrees_pure false

theorem agrees_writeFile (path : Path) (data : ByteArray) :
    Agrees (Disk.writeFile path data) (Disk.writeFile path data) := by
  refine (agrees_steps _).bind fun ok => ?_
  cases ok with
  | false => exact agrees_pure _
  | true =>
    simp only [Bool.not_true, Bool.false_eq_true, if_false]
    split
    · exact agrees_pure _
    · refine (agrees_writeStaged _ _ _).bind fun ok => ?_
      cases ok with
      | false => exact agrees_pure _
      | true =>
        refine (agrees_steps _).bind fun ok => ?_
        cases ok <;> exact agrees_pure _

/-! ## What is seen of a series -/

theorem bind_apply (x : StateM WatchedDisk α) (f : α → StateM WatchedDisk β) (w : WatchedDisk) :
    (x >>= f) w = f (x w).1 (x w).2 := rfl

theorem step_apply (s : DiskStep) (w : WatchedDisk) :
    (Disk.step s : StateM WatchedDisk Bool) w = w.step s := rfl

/-- What a series of steps adds to the sights is what it shows. -/
theorem shows_steps (ss : List DiskStep) (w : WatchedDisk) :
    let result := (Disk.steps ss : StateM WatchedDisk Bool) w
    ∃ sights, result.2.sights = w.sights ++ sights ∧
      w.disk.tree.Shows ss sights result.1 result.2.disk.tree := by
  induction ss generalizing w with
  | nil => exact ⟨[], (List.append_nil _).symm, .done _⟩
  | cons s rest ih =>
    have hshowed := showed_step s w
    simp only [Disk.steps, bind_apply, step_apply]
    cases hok : (w.step s).1 with
    | true =>
      obtain ⟨sights, hsights, hshows⟩ := ih (w.step s).2
      rw [show (w.disk.step s).1 = true from hok] at hshowed
      refine ⟨w.disk.sight s :: sights, ?_, .next hshowed hshows⟩
      rw [← List.singleton_append, ← List.append_assoc]
      exact hsights
    | false =>
      rw [show (w.disk.step s).1 = false from hok] at hshowed
      exact ⟨[w.disk.sight s], rfl, .stop rest hshowed⟩

end WatchedDisk

end StoreClient
