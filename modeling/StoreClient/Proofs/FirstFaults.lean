-- The law of the first fault: of all that may be wrong with a document exactly one fault is
-- reported. A collection that is not valid by itself goes before all clashes of names, and these
-- go before relations that lead nowhere; among faults of one sort the order of the document
-- decides.
import Mathlib.Data.List.Nodup
import StoreClient.Proofs.Expansions

namespace StoreClient

/-! ## Which of several faults comes first -/

section

variable {α ε : Type} {p p' q q' : ε → Prop} {fault : ε}

/-- A fault of the first sort, or one of the second sort if there is none of the first. -/
def FirstOf (p q : ε → Prop) (fault : ε) : Prop := p fault ∨ (∀ other, ¬ p other) ∧ q fault

/-- The fault of the first element of a list that has one. What is wrong with an element may
depend on its position. -/
def FirstIn (faulty : Nat → α → ε → Prop) (as : List α) (fault : ε) : Prop :=
  ∃ i a, as[i]? = some a ∧ faulty i a fault ∧
    ∀ j < i, ∀ b, as[j]? = some b → ∀ other, ¬ faulty j b other

/-- Whether a fault of the second sort is there only matters if there is none of the first. -/
theorem firstOf_congr (hp : ∀ f, p f ↔ p' f) (hq : (∀ other, ¬ p other) → ∀ f, q f ↔ q' f) :
    FirstOf p q fault ↔ FirstOf p' q' fault := by
  have hnone : (∀ other, ¬ p other) ↔ ∀ other, ¬ p' other := by simp only [hp]
  unfold FirstOf
  rw [hp, ← hnone]
  apply or_congr_right
  apply and_congr_right
  intro h
  exact hq h fault

theorem firstOf_congr_left (hp : ∀ f, p f ↔ p' f) : FirstOf p q fault ↔ FirstOf p' q fault :=
  firstOf_congr hp fun _ _ => Iff.rfl

theorem firstOf_of_none (h : ∀ other, ¬ p other) : FirstOf p q fault ↔ q fault := by
  simp [FirstOf, h]

@[simp]
theorem firstOf_false : FirstOf (fun _ => False) q fault ↔ q fault :=
  firstOf_of_none fun _ h => h

@[simp]
theorem firstOf_eq {e : ε} : FirstOf (fun f => e = f) q fault ↔ e = fault := by
  constructor
  · rintro (h | ⟨hnone, -⟩)
    · exact h
    · exact absurd rfl (hnone e)
  · exact Or.inl

theorem not_firstIn_nil (faulty : Nat → α → ε → Prop) : ¬ FirstIn faulty [] fault := by
  rintro ⟨i, a, ha, -⟩
  cases ha

/-- The first element goes before the rest. -/
theorem firstIn_cons {faulty : Nat → α → ε → Prop} {a : α} {as : List α} :
    FirstIn faulty (a :: as) fault ↔
      FirstOf (faulty 0 a) (FirstIn (fun i => faulty (i + 1)) as) fault := by
  constructor
  · rintro ⟨i, b, hb, hfault, hbefore⟩
    cases i with
    | zero =>
      cases hb
      exact Or.inl hfault
    | succ i =>
      refine Or.inr ⟨hbefore 0 (Nat.succ_pos i) a rfl, i, b, hb, hfault, ?_⟩
      intro j hj c hc
      exact hbefore (j + 1) (Nat.succ_lt_succ hj) c hc
  · rintro (hfault | ⟨hnone, i, b, hb, hfault, hbefore⟩)
    · exact ⟨0, a, rfl, hfault, fun j hj => absurd hj (Nat.not_lt_zero j)⟩
    · refine ⟨i + 1, b, hb, hfault, ?_⟩
      intro j hj c hc
      cases j with
      | zero =>
        cases hc
        exact hnone
      | succ j => exact hbefore j (Nat.lt_of_succ_lt_succ hj) c hc

/-- Elements side by side that have the same faults. -/
theorem firstIn_congr {β : Type} {r : α → β → Prop} {faulty : Nat → α → ε → Prop}
    {faulty' : Nat → β → ε → Prop} {as : List α} {bs : List β} (h : List.Forall₂ r as bs)
    (hsame : ∀ i a b, r a b → ∀ f, faulty i a f ↔ faulty' i b f) :
    FirstIn faulty as fault ↔ FirstIn faulty' bs fault := by
  induction h generalizing faulty faulty' fault with
  | nil => simp [not_firstIn_nil]
  | cons hab _ ih =>
    rw [firstIn_cons, firstIn_cons]
    apply firstOf_congr
    · exact hsame 0 _ _ hab
    · intro _ f
      apply ih
      intro i
      exact hsame (i + 1)

end

/-! ## Collections by themselves -/

namespace Collection

theorem allFrom_error_iff (position : Nat) (ds : List CollectionDeclaration)
    (fault : SchemaFault) :
    allFrom position ds = .error fault ↔
      FirstIn (fun i d f => ofDeclaration (position + i) d = .error f) ds fault := by
  induction ds generalizing position with
  | nil => simp [allFrom, not_firstIn_nil]
  | cons d rest ih =>
    simp only [firstIn_cons, allFrom, Nat.add_zero]
    cases hd : ofDeclaration position d with
    | error f => simp
    | ok c =>
      have hrest := ih (position + 1)
      simp only [Nat.add_assoc, Nat.add_comm 1] at hrest
      simp only [reduceCtorEq, firstOf_false, ← hrest]
      cases allFrom (position + 1) rest <;> simp

end Collection

/-! ## Names that clash with earlier ones -/

namespace CollectionDeclaration

/-- An earlier collection has the name. -/
def RepeatsName (earlier : List CollectionDeclaration) (d : CollectionDeclaration)
    (fault : SchemaFault) : Prop :=
  (∃ e ∈ earlier, e.name = d.name) ∧ fault = .duplicateCollection d.name

/-- An earlier collection has the id. -/
def RepeatsId (earlier : List CollectionDeclaration) (d : CollectionDeclaration)
    (fault : SchemaFault) : Prop :=
  ∃ id, d.id = some id ∧ (∃ e ∈ earlier, e.id = some id) ∧ fault = .duplicateId d.name id

/-- A type name cannot be used. -/
def HasUnusable (typeName : CollectionDeclaration → String) (d : CollectionDeclaration)
    (fault : SchemaFault) : Prop :=
  ¬ IsTypeName (typeName d) ∧ fault = .invalidTypeName d.name (typeName d)

/-- A type name is that of an earlier collection, which the fault names. -/
def RepeatsTypeName (typeName : CollectionDeclaration → String)
    (earlier : List CollectionDeclaration) (d : CollectionDeclaration) (fault : SchemaFault) :
    Prop :=
  ∃ e ∈ earlier, typeName e = typeName d ∧ fault = .duplicateTypeName d.name e.name (typeName d)

/-- What is wrong with a type name: it cannot be used, or else it is taken. -/
def TypeNameFault (typeName : CollectionDeclaration → String)
    (earlier : List CollectionDeclaration) (d : CollectionDeclaration) : SchemaFault → Prop :=
  FirstOf (d.HasUnusable typeName) (d.RepeatsTypeName typeName earlier)

/-- What is wrong with the names of a collection beside earlier ones: first its own name, then its
id, then the two type names. -/
def NameFault (earlier : List CollectionDeclaration) (d : CollectionDeclaration) :
    SchemaFault → Prop :=
  FirstOf (d.RepeatsName earlier) (FirstOf (d.RepeatsId earlier)
    (FirstOf (d.TypeNameFault typeName earlier) (d.TypeNameFault pluralTypeName earlier)))

end CollectionDeclaration

namespace Collection

section

variable {ds : List CollectionDeclaration} {cs : List Collection} {d : CollectionDeclaration}
  {c : Collection} {fault : SchemaFault}

theorem claimTypeName_error_iff {declared : CollectionDeclaration → String}
    {name : Collection → String} (hname : ∀ d c, d.Declares c → declared d = name c)
    (hcs : List.Forall₂ CollectionDeclaration.Declares ds cs) (hnodup : (cs.map name).Nodup)
    (hd : d.Declares c) :
    claimTypeName cs name c = .error fault ↔ d.TypeNameFault declared ds fault := by
  have hc : declared d = name c := hname d c hd
  unfold claimTypeName CollectionDeclaration.TypeNameFault
  by_cases husable : IsTypeName (name c)
  · have hvalid := (Identifier.isTypeName_iff (name c)).mpr husable
    rw [firstOf_of_none (by simp [CollectionDeclaration.HasUnusable, hc, husable])]
    simp only [hvalid, Bool.not_true, Bool.false_eq_true, if_false]
    cases hfind : cs.find? (fun other => name other = name c) with
    | none =>
      simp only [reduceCtorEq, false_iff]
      rintro ⟨e, he, heq, -⟩
      obtain ⟨x, hx, hex⟩ := exists_partner hcs he
      apply List.find?_eq_none.mp hfind x hx
      simp only [decide_eq_true_eq]
      rw [← hname e x hex, heq, hc]
    | some other =>
      have hmem := List.mem_of_find?_eq_some hfind
      have hother : name other = name c := by simpa using List.find?_some hfind
      constructor
      · rintro ⟨⟩
        obtain ⟨e, he, heother⟩ := exists_partner hcs.flip hmem
        refine ⟨e, he, ?_, ?_⟩
        · rw [hname e other heother, hother, hc]
        · rw [hd.name_eq, heother.name_eq, hc]
      · -- No two of the earlier collections have the type name, so the fault names the same one.
        rintro ⟨e, he, heq, rfl⟩
        obtain ⟨x, hx, hex⟩ := exists_partner hcs he
        have hsame : x = other := by
          apply List.inj_on_of_nodup_map hnodup hx hmem
          rw [← hname e x hex, heq, hc, hother]
        rw [hc, ← hd.name_eq, ← hex.name_eq, hsame]
  · have hinvalid : Identifier.isTypeName (name c).toList = false := by
      rw [← Bool.not_eq_true, Identifier.isTypeName_iff]
      exact husable
    have hfault (f : SchemaFault) :
        d.HasUnusable declared f ↔ .invalidTypeName c.name (name c) = f := by
      rw [CollectionDeclaration.HasUnusable, hc, hd.name_eq, eq_comm]
      exact and_iff_right husable
    rw [firstOf_congr_left hfault]
    simp [hinvalid]

theorem repeatsName_iff (hcs : List.Forall₂ CollectionDeclaration.Declares ds cs)
    (hd : d.Declares c) : d.RepeatsName ds fault ↔
      cs.any (fun x => x.name = c.name) = true ∧ .duplicateCollection c.name = fault := by
  have hname : (∃ e ∈ ds, e.name = d.name) ↔ cs.any (fun x => x.name = c.name) = true := by
    rw [List.any_eq_true]
    apply exists_mem_iff_of_forall₂ hcs
    intro e x hex
    rw [hex.name_eq, hd.name_eq, decide_eq_true_eq]
  rw [CollectionDeclaration.RepeatsName, hname, hd.name_eq, eq_comm (a := fault)]

theorem repeatsId_iff (hcs : List.Forall₂ CollectionDeclaration.Declares ds cs)
    (hd : d.Declares c) : d.RepeatsId ds fault ↔
      ∃ id, c.id.filter (fun id => cs.any fun x => x.id = some id) = some id ∧
        .duplicateId c.name id = fault := by
  have hid (id : String) :
      (∃ e ∈ ds, e.id = some id) ↔ cs.any (fun x => x.id = some id) = true := by
    rw [List.any_eq_true]
    apply exists_mem_iff_of_forall₂ hcs
    intro e x hex
    rw [hex.id_eq, decide_eq_true_eq]
  simp only [CollectionDeclaration.RepeatsId, hid, Option.filter_eq_some_iff, hd.id_eq, hd.name_eq,
    and_assoc, eq_comm (a := fault)]

/-- The names of a collection are checked beside those of earlier collections, which keep apart. -/
theorem claimNames_error_iff (hcs : List.Forall₂ CollectionDeclaration.Declares ds cs)
    (hapart : cs.Pairwise Apart) (hd : d.Declares c) :
    claimNames cs c = .error fault ↔ d.NameFault ds fault := by
  obtain ⟨-, -, htypes, hplurals⟩ := (pairwise_apart_iff cs).mp hapart
  have htype (f : SchemaFault) : claimTypeName cs typeName c = .error f ↔
      d.TypeNameFault (·.typeName) ds f :=
    claimTypeName_error_iff (fun _ _ hc => hc.typeName_eq) hcs htypes hd
  have hplural (f : SchemaFault) : claimTypeName cs pluralTypeName c = .error f ↔
      d.TypeNameFault (·.pluralTypeName) ds f :=
    claimTypeName_error_iff (fun _ _ hc => hc.pluralTypeName_eq) hcs hplurals hd
  unfold claimNames CollectionDeclaration.NameFault
  rw [firstOf_congr_left fun f => repeatsName_iff hcs hd]
  by_cases hname : cs.any (fun x => x.name = c.name) = true
  · simp only [hname, if_true, true_and, firstOf_eq, Except.error.injEq]
  · simp only [hname, if_false, false_and, firstOf_false, Bool.false_eq_true]
    rw [firstOf_congr_left fun f => repeatsId_iff hcs hd]
    cases c.id.filter fun id => cs.any fun x => x.id = some id with
    | some id => simp
    | none =>
      simp only [reduceCtorEq, false_and, exists_false, firstOf_false]
      rw [← firstOf_congr htype fun _ => hplural]
      cases claimTypeName cs typeName c <;> simp

/-- The claims of some collections fail at the first one whose names clash with earlier ones,
those before all of them included. -/
theorem claimAll_error_iff {before : List CollectionDeclaration} {earlier : List Collection}
    (hearlier : List.Forall₂ CollectionDeclaration.Declares before earlier)
    (hapart : earlier.Pairwise Apart) (hcs : List.Forall₂ CollectionDeclaration.Declares ds cs) :
    claimAll earlier cs = .error fault ↔
      FirstIn (fun i d => d.NameFault (before ++ ds.take i)) ds fault := by
  induction hcs generalizing before earlier with
  | nil => simp [claimAll, not_firstIn_nil]
  | @cons d c ds cs hd _ ih =>
    simp only [firstIn_cons, claimAll, List.take_zero, List.append_nil, List.take_succ_cons]
    rw [firstOf_congr_left fun f => (claimNames_error_iff hearlier hapart hd).symm]
    cases hclaim : claimNames earlier c with
    | error f => simp
    | ok u =>
      have hnew := ((claimNames_ok_iff earlier c).mp hclaim).2
      have hapart' : (earlier ++ [c]).Pairwise Apart := by
        refine List.pairwise_append.mpr ⟨hapart, List.pairwise_singleton _ _, ?_⟩
        intro e he x hx
        rw [List.mem_singleton.mp hx]
        exact hnew e he
      have hnext := ih (List.rel_append hearlier (.cons hd .nil)) hapart'
      simpa using hnext

end

end Collection

/-! ## Relations that lead nowhere -/

/-- A relation whose target is neither the id nor the name of a collection. -/
def Field.LeadsNowhere (all : List Collection) (collection : String) (f : Field)
    (fault : SchemaFault) : Prop :=
  ∃ target mode, f.relation? = some (target, mode) ∧ Collection.target? all target = none ∧
    fault = .unresolvedRelation collection f.name target

/-- A declaration of a relation whose target is neither the id nor the name of a collection. -/
def Document.LeadsNowhere (d : Document) (c : CollectionDeclaration) (j : Json)
    (fault : SchemaFault) : Prop :=
  ∃ name target mode, DeclaresRelation j name target mode ∧
    (∀ other ∈ d.collections, other.id ≠ some target ∧ other.name ≠ target) ∧
    fault = .unresolvedRelation c.name name target

theorem target?_eq_none_iff {ds : List CollectionDeclaration} {cs : List Collection}
    (hcs : List.Forall₂ CollectionDeclaration.Declares ds cs) (target : String) :
    Collection.target? cs target = none ↔
      ∀ other ∈ ds, other.id ≠ some target ∧ other.name ≠ target := by
  have hfound : (∃ other ∈ ds, other.id = some target ∨ other.name = target) ↔
      (Collection.target? cs target).isSome := by
    rw [Collection.target?_isSome_iff]
    apply exists_mem_iff_of_forall₂ hcs
    intro d c hc
    rw [hc.id_eq, hc.name_eq]
  rw [← Option.not_isSome_iff_eq_none, ← hfound]
  simp only [not_exists, not_and, not_or]

/-- A field leads nowhere exactly when its declaration does. -/
theorem Field.leadsNowhere_iff {d : Document} {cs : List Collection}
    (hcs : List.Forall₂ CollectionDeclaration.Declares d.collections cs)
    (c : CollectionDeclaration) {j : Json} {f : Field} (hf : Field.ofDeclaration j = .ok f)
    (fault : SchemaFault) : f.LeadsNowhere cs c.name fault ↔ d.LeadsNowhere c j fault := by
  constructor
  · rintro ⟨target, mode, hrel, htarget, rfl⟩
    have htype := ((relates_iff_declared hf target).mp ⟨mode, hrel⟩).1
    obtain ⟨target', mode', hrel', hdeclares⟩ := declaresRelation hf htype
    rw [hrel, Option.some.injEq, Prod.mk.injEq] at hrel'
    rw [← hrel'.1] at hdeclares
    exact ⟨f.name, target, mode', hdeclares, (target?_eq_none_iff hcs target).mp htarget, rfl⟩
  · rintro ⟨name, target, mode, hdeclares, htarget, rfl⟩
    obtain ⟨target', mode', hrel, hdeclares'⟩ := declaresRelation hf hdeclares.type_eq
    have hname := hdeclares.name_eq.symm.trans hdeclares'.name_eq
    have hsame := hdeclares.target_eq.symm.trans hdeclares'.target_eq
    simp only [Option.some.injEq, Json.text.injEq] at hname hsame
    subst hname hsame
    exact ⟨target, mode', hrel, (target?_eq_none_iff hcs target).mpr htarget, rfl⟩

namespace Collection

/-- The relations of a collection fail at the first field that leads nowhere. -/
theorem expansions_error_iff (all : List Collection) (collection : String) (fs : List Field)
    (fault : SchemaFault) :
    expansions all collection fs = .error fault ↔
      FirstIn (fun _ f => f.LeadsNowhere all collection) fs fault := by
  induction fs with
  | nil => simp [expansions, not_firstIn_nil]
  | cons f rest ih =>
    simp only [firstIn_cons, expansions]
    cases hrel : f.relation? with
    | none =>
      rw [firstOf_of_none (by simp [Field.LeadsNowhere, hrel])]
      exact ih
    | some r =>
      obtain ⟨target, mode⟩ := r
      simp only
      cases htarget : target? all target with
      | none =>
        have hfault (o : SchemaFault) : f.LeadsNowhere all collection o ↔
            .unresolvedRelation collection f.name target = o := by
          simp [Field.LeadsNowhere, hrel, htarget, eq_comm]
        rw [firstOf_congr_left hfault, firstOf_eq, Except.error.injEq]
      | some c =>
        rw [firstOf_of_none (by simp [Field.LeadsNowhere, hrel, htarget]), ← ih]
        cases expansions all collection rest <;> simp

theorem bundle_error_iff (policy : EmptyListPolicy) (all : List Collection) (c : Collection)
    (fault : SchemaFault) :
    c.bundle policy all = .error fault ↔ expansions all c.name c.fields = .error fault := by
  unfold bundle
  cases expansions all c.name c.fields <;> simp

/-- Whether shapes can be made does not depend on the policy. -/
theorem bundles_error_iff (policy : EmptyListPolicy) (all cs : List Collection)
    (fault : SchemaFault) :
    bundles policy all cs = .error fault ↔
      FirstIn (fun _ c f => expansions all c.name c.fields = .error f) cs fault := by
  induction cs with
  | nil => simp [bundles, not_firstIn_nil]
  | cons c rest ih =>
    simp only [firstIn_cons, bundles, ← bundle_error_iff policy]
    cases c.bundle policy all with
    | error f => simp
    | ok b =>
      simp only [reduceCtorEq, firstOf_false, bundle_error_iff policy, ← ih]
      cases bundles policy all rest <;> simp

end Collection

/-! ## The law -/

namespace Document

/-- The fault of the first collection that is not valid by itself. -/
def Invalid (d : Document) : SchemaFault → Prop :=
  FirstIn (fun i c fault => Collection.ofDeclaration i c = .error fault) d.collections

/-- The fault of the first collection whose names clash with earlier ones or cannot be used. -/
def Clashing (d : Document) : SchemaFault → Prop :=
  FirstIn (fun i c => c.NameFault (d.collections.take i)) d.collections

/-- The fault of the first collection with a relation that leads nowhere, for the first such
relation in it. -/
def Dangling (d : Document) : SchemaFault → Prop :=
  FirstIn (fun _ c => FirstIn (fun _ j => d.LeadsNowhere c j) c.fields) d.collections

theorem invalid_iff (d : Document) (fault : SchemaFault) :
    d.Invalid fault ↔ Collection.ofDocument d = .error fault := by
  have h := Collection.allFrom_error_iff 0 d.collections fault
  simp only [Nat.zero_add] at h
  exact h.symm

variable {d : Document} {cs : List Collection}

theorem clashing_iff (hcs : List.Forall₂ CollectionDeclaration.Declares d.collections cs)
    (fault : SchemaFault) : d.Clashing fault ↔ Collection.claimAll [] cs = .error fault :=
  (Collection.claimAll_error_iff .nil .nil hcs).symm

theorem dangling_iff (hcs : List.Forall₂ CollectionDeclaration.Declares d.collections cs)
    (policy : EmptyListPolicy) (fault : SchemaFault) :
    d.Dangling fault ↔ Collection.bundles policy cs cs = .error fault := by
  rw [Collection.bundles_error_iff]
  apply firstIn_congr hcs
  intro _ c x hx o
  rw [Collection.expansions_error_iff, hx.name_eq]
  apply firstIn_congr hx.fields
  intro _ j f hf o
  exact (Field.leadsNowhere_iff hcs c hf o).symm

end Document

/-- A document that does not compile is refused for its first fault: a collection that is not
valid by itself, or else names that clash, or else a relation that leads nowhere. -/
theorem the_first_fault_is_reported (policy : EmptyListPolicy) (d : Document)
    (fault : SchemaFault) :
    d.compile policy = .error fault ↔
      FirstOf d.Invalid (FirstOf d.Clashing d.Dangling) fault := by
  unfold Document.compile
  rw [firstOf_congr_left d.invalid_iff]
  cases hcs : Collection.ofDocument d with
  | error f => simp
  | ok cs =>
    have hall := (Collection.ofDocument_ok_iff d cs).mp hcs
    simp only [reduceCtorEq, firstOf_false]
    rw [firstOf_congr (Document.clashing_iff hall) fun _ => Document.dangling_iff hall policy]
    cases Collection.claimAll [] cs with
    | error f => simp
    | ok u =>
      simp only [reduceCtorEq, firstOf_false]
      cases Collection.bundles policy cs cs <;> simp

/-- The second sack has a name that is taken and a type name that cannot be used, and the first
leads nowhere. The name comes first. -/
example : Document.compile .null
    ⟨[{ id := none, name := "sack", singular := none, plural := none, fields := [
        .object [("name", .text "mill"), ("type", .text "relation"), ("to", .text "mills"),
          ("mode", .text "single")]] },
      { id := none, name := "sack", singular := some "1", plural := none, fields := [] }]⟩ =
    .error (.duplicateCollection "sack") := rfl

end StoreClient
