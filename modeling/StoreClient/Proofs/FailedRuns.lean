-- The law of failed runs: a run that stops at a fault leaves its output as it was. There are two
-- exceptions. Once the data has the name of the output, making that name last may still fail; and
-- a path that leads up again may lead through directories that the run makes before it fails.
import StoreClient.Proofs.StagedWrites
import StoreClient.Run.Task

namespace StoreClient

/-! ## Paths of texts -/

theorem Path.partOf?_ne_here (piece : List Char) : partOf? false piece ≠ some .here := by
  unfold partOf?
  split <;> simp

/-- A single dot only counts at the start of a path, where there is nothing around it. -/
theorem Path.parent?_of_here {text : String}
    (h : (ofText text).parts.getLast? = some .here) : (ofText text).parent? = none := by
  unfold ofText at h ⊢
  split
  · rfl
  · rename_i first rest hpieces
    rw [hpieces] at h
    dsimp only at h ⊢
    have hrest : .here ∉ rest.filterMap (partOf? false) := by
      intro hmem
      obtain ⟨piece, -, hpiece⟩ := List.mem_filterMap.mp hmem
      exact partOf?_ne_here piece hpiece
    cases hparts : rest.filterMap (partOf? false) with
    | cons part parts =>
      rw [hparts] at hrest h
      rw [List.getLast?_append_of_ne_nil _ (by simp)] at h
      exact absurd (List.mem_of_getLast? h) hrest
    | nil =>
      rw [hparts, List.append_nil] at h
      cases hfirst : partOf? true first with
      | none => rfl
      | some part =>
        rw [hfirst] at h
        cases h
        have hempty : first.isEmpty = false := by
          cases first with
          | nil => cases hfirst
          | cons c cs => rfl
        simp [parent?, hempty]

/-- In a path that is read from a text only the first part may stay where it is. -/
theorem Path.dropLast_of_here {text : String}
    (h : (ofText text).parts.getLast? = some .here) : (ofText text).parts.dropLast = [] :=
  FileTree.parent?_eq_none (Path.parent?_of_here h)

namespace Run

/-! ## Runs that read -/

variable {α β : Type}

theorem bind_apply (r : Run (StateM PlannedDisk) α) (f : α → Run (StateM PlannedDisk) β)
    (log : List Event) (d : PlannedDisk) : (r >>= f) log d = match (r log d).1.1 with
      | .ok a => f a (r log d).1.2 (r log d).2
      | .error fault => ((.error fault, (r log d).1.2), (r log d).2) := by
  change (ExceptT.bindCont f (r log d).1.1) (r log d).1.2 (r log d).2 = _
  cases (r log d).1.1 <;> rfl

theorem outcome_apply (r : Run (StateM PlannedDisk) α) (d : PlannedDisk) :
    r.outcome d = r [] d := rfl

/-- A run that reads leaves the disk alone, and what comes of it does not depend on what has been
logged. -/
def Reads (r : Run (StateM PlannedDisk) α) : Prop :=
  ∀ log d, r log d = (((r.outcome d).1.1, log ++ (r.outcome d).1.2), d)

theorem reads_pure (a : α) : Reads (pure a) := by
  intro log d
  change ((Except.ok a, log), d) = ((.ok a, log ++ []), d)
  rw [List.append_nil]

theorem reads_throw (fault : RunFault) : Reads (throw fault : Run (StateM PlannedDisk) α) := by
  intro log d
  change ((Except.error fault, log), d) = ((.error fault, log ++ []), d)
  rw [List.append_nil]

theorem reads_logAll (events : List Event) : Reads (logAll events) := fun _ _ => rfl

theorem reads_ask {question : StateM PlannedDisk α} (h : ∀ d, (question d).2 = d) :
    Reads (ask question) := by
  intro log d
  change ((Except.ok (question d).1, log), (question d).2) = ((.ok (question d).1, log ++ []), d)
  rw [List.append_nil, h d]

theorem Reads.bind {r : Run (StateM PlannedDisk) α} {f : α → Run (StateM PlannedDisk) β}
    (hr : r.Reads) (hf : ∀ a, (f a).Reads) : (r >>= f).Reads := by
  intro log d
  rw [outcome_apply, bind_apply, bind_apply, hr log d, hr [] d]
  dsimp only
  cases (r.outcome d).1.1 with
  | error fault => rfl
  | ok a =>
    dsimp only
    rw [hf a (log ++ (r.outcome d).1.2) d, hf a ([] ++ (r.outcome d).1.2) d, List.nil_append,
      List.append_assoc]

theorem reads_orStop {ε : Type} (fault : ε → RunFault) (e : Except ε α) :
    Reads (orStop fault e : Run (StateM PlannedDisk) α) := by
  cases e with
  | ok a => exact reads_pure a
  | error e => exact reads_throw (fault e)

/-! ### Tasks up to what they write -/

theorem reads_log (event : Event) : Reads (log event) := reads_logAll [event]

theorem reads_askText (path : String) : Reads (ask (Disk.readText (Path.ofText path))) := by
  refine reads_ask fun d => ?_
  simp only [Disk.readText, PlannedDisk.bind_apply]
  generalize hread : (Disk.read (Path.ofText path) : StateM PlannedDisk (Option ByteArray)) d = r
  obtain ⟨data, d'⟩ := r
  obtain rfl : d = d' := congrArg Prod.snd hread
  cases data <;> rfl

theorem reads_readText (path : String) : Reads (readText path) :=
  (reads_askText path).bind fun
    | some text => reads_pure text
    | none => reads_throw _

theorem reads_loadStore (path : String) (options : CatalogOptions) :
    Reads (loadStore path options) := by
  refine (reads_ask fun _ => rfl).bind fun
    | .unopened => reads_throw _
    | .unreadable => (reads_log _).bind fun _ => reads_throw _
    | .catalog rows => ?_
  exact (reads_log _).bind fun _ => (reads_logAll _).bind fun _ => reads_orStop _ _

theorem reads_loadText (path : String) : Reads (loadText path) := by
  unfold loadText
  split
  · exact reads_throw _
  · refine (reads_log _).bind fun _ => (reads_askText path).bind fun
      | none => reads_throw _
      | some text => ?_
    exact (reads_orStop _ _).bind fun _ => (reads_log _).bind fun _ => reads_pure _

theorem reads_load (path : String) (choice : SourceChoice) (options : CatalogOptions) :
    Reads (load path choice options) := by
  unfold load
  split
  · exact reads_loadStore path options
  · exact reads_loadText path

theorem reads_compile (policy : EmptyListPolicy) (d : Document) : Reads (compile policy d) := by
  unfold compile
  refine (reads_logAll _).bind fun _ => ?_
  split
  · exact reads_pure _
  · exact (reads_log _).bind fun _ => reads_throw _

theorem reads_loadSchema (r : Request) : Reads (loadSchema r) :=
  (reads_load _ _ _).bind fun _ => reads_compile _ _

theorem reads_clientText (s : Schema) : ∀ template, Reads (clientText s template)
  | none => reads_pure s.clientText
  | some path => (reads_readText path).bind fun _ => reads_orStop _ _

/-! ## Runs that write -/

/-- How a run that stops at a fault leaves its output. -/
inductive Spared (d : PlannedDisk) (after : FileTree) (output : String) (made : String → Prop)
    (fault : RunFault) : Prop
  /-- What was there is still there, or still nothing is. -/
  | untouched (h : after.at? (Path.ofText output) = d.tree.at? (Path.ofText output))
  /-- All was done, until a step failed that makes the name of the file last. -/
  | complete {text : String} (hmade : made text) (hplan : ∃ done, some done ∈ d.plan)
    (hfault : fault = .unwritable output)
    (h : after.at? (Path.ofText output) = some (.file text.toUTF8))
  /-- The path leads up again from a directory that was not there. At most a directory has come to
  the place where it leads now. -/
  | misled (h : d.tree.Misled (Path.ofText output) after)

/-- A run on this disk leaves a well-formed tree, and whenever it stops at a fault it spares its
output. -/
def Spares (r : Run (StateM PlannedDisk) α) (d : PlannedDisk) (output : String)
    (made : String → Prop) : Prop :=
  ∀ log, (r log d).2.tree.WellFormed ∧
    ∀ fault, (r log d).1.1 = .error fault → Spared d (r log d).2.tree output made fault

variable {d : PlannedDisk} {output : String} {made : String → Prop}

/-- What is only read for does not touch the output. -/
theorem Reads.spares_bind (hd : d.tree.WellFormed) {r : Run (StateM PlannedDisk) α}
    {f : α → Run (StateM PlannedDisk) β} (hr : r.Reads)
    (hf : ∀ a, (r.outcome d).1.1 = .ok a → (f a).Spares d output made) :
    (r >>= f).Spares d output made := by
  intro log
  rw [bind_apply, hr log d]
  cases ha : (r.outcome d).1.1 with
  | error fault => exact ⟨hd, fun _ _ => .untouched rfl⟩
  | ok a => exact hf a ha _

/-- What a run says of a write that failed. -/
def ofWriteFault (output : String) : WriteFault → RunFault
  | .noFileName => .badOutput output
  | .failed => .unwritable output

theorem writeText_apply (output text : String) (log : List Event) (d : PlannedDisk) :
    let written := (Disk.writeFile (Path.ofText output) text.toUTF8 :
      StateM PlannedDisk (Except WriteFault Unit)) d
    (writeText output text : Run (StateM PlannedDisk) Unit) log d =
      ((written.1.mapError (ofWriteFault output), log), written.2) := by
  intro written
  have hask : (ask (Disk.writeFile (Path.ofText output) text.toUTF8) :
      Run (StateM PlannedDisk) (Except WriteFault Unit)) log d =
        ((.ok written.1, log), written.2) := rfl
  rw [writeText, bind_apply, hask]
  dsimp only
  cases written.1 with
  | ok _ => rfl
  | error fault => cases fault <;> rfl

/-- The only step that touches the output is the one that writes it, and what follows it never
fails. -/
theorem spares_writeText {text : String} {finish : Run (StateM PlannedDisk) α}
    (hd : d.tree.WellFormed) (hmade : made text)
    (hfinish : ∀ log d, ∃ a log', finish log d = ((.ok a, log'), d)) :
    (writeText output text >>= fun _ => finish).Spares d output made := by
  intro log
  have hplan : d.FailsOnlyIf (∃ done, some done ∈ d.plan) := fun done h => ⟨done, h⟩
  have hwrites := PlannedDisk.writes_writeFile (Path.ofText output) text.toUTF8 hplan
  rw [bind_apply, writeText_apply]
  generalize (Disk.writeFile (Path.ofText output) text.toUTF8 :
    StateM PlannedDisk (Except WriteFault Unit)) d = written at hwrites ⊢
  obtain ⟨result, d'⟩ := written
  have hafter := hwrites.wellFormed hd
  cases result with
  | ok _ =>
    obtain ⟨a, log', hok⟩ := hfinish log d'
    simp only [Except.mapError, hok]
    exact ⟨hafter, fun fault h => nomatch h⟩
  | error writeFault =>
    refine ⟨hafter, fun fault h => ?_⟩
    have hfault : fault = ofWriteFault output writeFault := by
      cases h
      rfl
    rcases hwrites.at?_of_error hd Path.dropLast_of_here with
      hsame | ⟨hplan, hfailed, hdata⟩ | hmisled
    · exact .untouched hsame
    · exact .complete hmade hplan (by rw [hfault, hfailed, ofWriteFault]) hdata
    · exact .misled hmisled

/-- A run that stops at a fault leaves its output as it was, unless all was done and a step failed
that makes the name of the file last, or the path leads up again from a directory that was not
there; then at most a directory has come to where it leads. The tree that a run leaves is
well-formed again, as the next run needs it. This is said of trees without links, in which to read
the data file of a store changes nothing. -/
theorem a_failed_run_spares_its_output {d : PlannedDisk} (hd : d.tree.WellFormed)
    (output : String) :
    (∀ (r : Request) (template : Option String),
      (generate r output template).Spares d output fun text => ∃ s,
        ((loadSchema r : Run (StateM PlannedDisk) Schema).outcome d).1.1 = .ok s ∧
          ((clientText s template : Run (StateM PlannedDisk) String).outcome d).1.1 = .ok text) ∧
    (∀ r : Request, (writeBundle r output).Spares d output fun text => ∃ s,
      ((loadSchema r : Run (StateM PlannedDisk) Schema).outcome d).1.1 = .ok s ∧ text = s.text) ∧
    ∀ ofDocument : Bool, (writePublished output ofDocument).Spares d output fun text =>
      text = (if ofDocument then Document.published else Schema.published).toJson.prettyText := by
  refine ⟨fun r template => ?_, fun r => ?_, fun ofDocument => ?_⟩
  · refine (reads_loadSchema r).spares_bind hd fun s hs => ?_
    refine (reads_clientText s template).spares_bind hd fun text htext => ?_
    refine (reads_log _).spares_bind hd fun _ _ => ?_
    exact spares_writeText hd ⟨s, hs, htext⟩ fun _ _ => ⟨_, _, rfl⟩
  · refine (reads_loadSchema r).spares_bind hd fun s hs => ?_
    exact spares_writeText hd ⟨s, hs, rfl⟩ fun _ _ => ⟨_, _, rfl⟩
  · exact spares_writeText hd rfl fun _ _ => ⟨_, _, rfl⟩

/-! ### A desk with a client on it -/

/-- A client from an earlier run, and no source. -/
def desk : FileTree :=
  ⟨[(["desk"], .directory), (["desk", "api.ts"], .file "// previous".toUTF8)], ["desk"]⟩

/-- The source is missing, so the client stays. -/
theorem the_desk_keeps_its_client :
    let r : Run (StateM PlannedDisk) Generated :=
      generate ⟨"draft.yaml", .auto, .null, default⟩ "api.ts" none
    let result := r.outcome (.ofTree desk)
    desk.WellFormed ∧ result.1.1 = .error (.source (.unreadable "draft.yaml")) ∧
      result.2.tree.at? (Path.ofText "api.ts") = some (.file "// previous".toUTF8) := by
  intro r result
  have hd : desk.WellFormed := FileTree.wellFormed_of_entries (by decide) (by decide)
  have hresult : result.1.1 = .error (.source (.unreadable "draft.yaml")) := rfl
  have hspares := (a_failed_run_spares_its_output (d := .ofTree desk) hd "api.ts").1
    ⟨"draft.yaml", .auto, .null, default⟩ none
  refine ⟨hd, hresult, ?_⟩
  cases (hspares []).2 _ hresult with
  | untouched h => exact h
  | complete _ _ hfault _ => cases hfault
  | misled h => exact absurd h.up_mem (by decide)

/-- When the last step of a write fails, which is to make the name last, nothing is there before
and the published schema after. And where the path leads through itself, a directory is there
after, and no step has failed by plan. -/
theorem a_late_fault_leaves_another_output :
    (let d : PlannedDisk := ⟨desk, [none, none, none, none, none, none, some 0]⟩
      let r : Run (StateM PlannedDisk) Unit := writePublished "./schema.json" false
      (r.outcome d).1.1 = .error (.unwritable "./schema.json") ∧
        d.tree.at? (Path.ofText "./schema.json") = none ∧
        (r.outcome d).2.tree.at? (Path.ofText "./schema.json") =
          some (.file Schema.published.toJson.prettyText.toUTF8)) ∧
    (let d := PlannedDisk.ofTree desk
      let r : Run (StateM PlannedDisk) Unit := writePublished "a/../a" false
      (r.outcome d).1.1 = .error (.unwritable "a/../a") ∧
        d.tree.at? (Path.ofText "a/../a") = none ∧
        (r.outcome d).2.tree.at? (Path.ofText "a/../a") = some .directory) := by
  constructor
  · have hhere : Path.ofText "./schema.json" = ⟨false, [.here, .name "schema.json"], false⟩ := by
      decide
    have hlate (data : ByteArray) :
        (Disk.writeFile ⟨false, [.here, .name "schema.json"], false⟩ data : StateM PlannedDisk _)
          ⟨desk, [none, none, none, none, none, none, some 0]⟩ =
            (.error .failed, .ofTree (desk.insert ["desk", "schema.json"] (.file data))) := rfl
    simp only [writePublished, outcome_apply, bind_apply, writeText_apply, hhere, hlate]
    exact ⟨rfl, rfl, rfl⟩
  · have haround : Path.ofText "a/../a" = ⟨false, [.name "a", .up, .name "a"], false⟩ := by decide
    have hfault (data : ByteArray) :
        ((Disk.writeFile ⟨false, [.name "a", .up, .name "a"], false⟩ data : StateM PlannedDisk _)
          (.ofTree desk)).1 = .error .failed := rfl
    have hdirectory : (((writePublished "a/../a" false : Run (StateM PlannedDisk) Unit).outcome
        (.ofTree desk)).2.tree.at? (Path.ofText "a/../a")).any Entry.isDirectory = true := by
      decide +kernel
    refine ⟨?_, rfl, Entry.any_isDirectory_iff.mp hdirectory⟩
    simp only [writePublished, outcome_apply, bind_apply, writeText_apply, haround, hfault]
    rfl

end Run

end StoreClient
