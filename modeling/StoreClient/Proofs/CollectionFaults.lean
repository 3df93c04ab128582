-- The law of one collection: which declarations are read as a collection, what the collection
-- keeps of them, and which fault is reported of all others. The name comes first, then the fields
-- one after the other, each beside the names before it, and last the names of the patches. What
-- a declaration reserves is said in its own words, so a name can clash in any of them.
import StoreClient.Proofs.FirstFaults

namespace StoreClient

/-! ## The names of a declaration -/

/-- The name that a value gives a field. -/
def Json.fieldName? (raw : Json) : Option String := (raw.get? "name").bind (·.asText?)

/-- The names that a value reserves for the patches of a field: a list of files has three patches,
each with a name in memory and a key for the store. -/
def Json.patchNames (raw : Json) : List String :=
  match raw.fieldName?, raw.get? "type", raw.get? "mode" with
  | some n, some (.text "file"), some (.text "multiple") =>
    [n ++ "Append", n ++ "+", n ++ "Prepend", "+" ++ n, n ++ "Remove", n ++ "-"]
  | _, _, _ => []

namespace CollectionDeclaration

/-- The names of the fields. -/
def fieldNames (d : CollectionDeclaration) : List String := d.fields.filterMap (·.fieldName?)

/-- The names and keys of the patches. -/
def patchNames (d : CollectionDeclaration) : List String := d.fields.flatMap (·.patchNames)

/-- A declaration that is read as a collection. -/
structure IsValid (d : CollectionDeclaration) : Prop where
  named : d.name ≠ ""
  fields_declared : ∀ j ∈ d.fields, ∃ f, Field.ofDeclaration j = .ok f
  names_differ : d.fieldNames.Nodup
  patches_differ : d.patchNames.Nodup
  patches_are_new : ∀ n ∈ d.patchNames, n ∉ d.fieldNames

/-- The declaration at a position of the document has no name. -/
def IsUnnamed (position : Nat) (d : CollectionDeclaration) (fault : SchemaFault) : Prop :=
  d.name = "" ∧ fault = .emptyName position

/-- A value at a position declares no field. -/
def Misdeclares (d : CollectionDeclaration) (position : Nat) (j : Json) (fault : SchemaFault) :
    Prop :=
  ∃ e, Field.ofDeclaration j = .error e ∧ fault = .field d.name position e

/-- A value gives a field the name of an earlier one. -/
def RepeatsField (d : CollectionDeclaration) (earlier : List Json) (j : Json)
    (fault : SchemaFault) : Prop :=
  ∃ n, j.fieldName? = some n ∧ n ∈ earlier.filterMap (·.fieldName?) ∧
    fault = .duplicateField d.name n

/-- The name of a patch is that of a field or of an earlier patch. -/
def RepeatsPatch (d : CollectionDeclaration) (earlier : List String) (n : String)
    (fault : SchemaFault) : Prop :=
  (n ∈ d.fieldNames ∨ n ∈ earlier) ∧ fault = .duplicateField d.name n

/-- The fault of the first field that is not declared or has the name of an earlier one. -/
def IsMisdeclared (d : CollectionDeclaration) : SchemaFault → Prop :=
  FirstIn (fun i j => FirstOf (d.Misdeclares i j) (d.RepeatsField (d.fields.take i) j)) d.fields

/-- The fault of the first name of a patch that is taken. -/
def IsCrowded (d : CollectionDeclaration) : SchemaFault → Prop :=
  FirstIn (fun i => d.RepeatsPatch (d.patchNames.take i)) d.patchNames

end CollectionDeclaration

/-- A collection has what is declared, with the fields in their order. -/
structure Collection.Keeps (c : Collection) (d : CollectionDeclaration) : Prop where
  id_eq : c.id = d.id
  name_eq : c.name = d.name
  singular_eq : c.singular = d.singular
  plural_eq : c.plural = d.plural
  fields : List.Forall₂ (fun j f => Field.ofDeclaration j = .ok f) d.fields c.fields

/-! ## The names of the fields that are read -/

namespace Field

variable {j : Json} {f : Field}

theorem fieldName?_of_ok (h : ofDeclaration j = .ok f) : j.fieldName? = some f.name := by
  rw [Json.fieldName?, name_of_declaration h]
  rfl

theorem patchNames_of_ok (h : ofDeclaration j = .ok f) : j.patchNames = f.companionNames := by
  have hfiles := holds_files_iff_declared h .multiple
  unfold Json.patchNames companionNames
  rw [fieldName?_of_ok h]
  split
  · rename_i n hn htype hmode
    cases hn
    obtain ⟨required, hform⟩ := hfiles.mpr ⟨htype, hmode⟩
    rw [hform]
    rfl
  · rename_i hnot
    split
    · rename_i required hform
      obtain ⟨htype, hmode⟩ := hfiles.mp ⟨required, hform⟩
      exact absurd hmode (hnot f.name rfl htype)
    · rfl

end Field

namespace CollectionDeclaration

variable {d : CollectionDeclaration} {fs : List Field}

theorem fieldNames_of_ok (h : List.Forall₂ (fun j f => Field.ofDeclaration j = .ok f) d.fields fs) :
    d.fieldNames = fs.map (·.name) := by
  have hsame := filterMap_eq_of_forall₂ (h.imp fun _ _ hf => Field.fieldName?_of_ok hf)
  rw [fieldNames, hsame, ← List.filterMap_eq_map]
  rfl

theorem patchNames_of_ok (h : List.Forall₂ (fun j f => Field.ofDeclaration j = .ok f) d.fields fs) :
    d.patchNames = fs.flatMap (·.companionNames) := by
  have hsame := map_eq_of_forall₂ (h.imp fun _ _ hf => Field.patchNames_of_ok hf)
  rw [patchNames, List.flatMap_def, hsame, List.flatMap_def]

end CollectionDeclaration

namespace Collection

variable {d : CollectionDeclaration} {fault : SchemaFault}

/-- The fields are refused at the first one that is not declared or has the name of an earlier one,
those before all of them included. -/
theorem fieldsFrom_error_iff (position : Nat) {earlier : List String} {before : List Json}
    (hearlier : ∀ n, n ∈ earlier ↔ n ∈ before.filterMap (·.fieldName?)) (js : List Json) :
    fieldsFrom d.name position earlier js = .error fault ↔
      FirstIn (fun i j => FirstOf (d.Misdeclares (position + i) j)
        (d.RepeatsField (before ++ js.take i) j)) js fault := by
  induction js generalizing position earlier before with
  | nil => simp [fieldsFrom, not_firstIn_nil]
  | cons j rest ih =>
    simp only [firstIn_cons, fieldsFrom, Nat.add_zero, List.take_zero, List.append_nil,
      List.take_succ_cons]
    cases hj : Field.ofDeclaration j with
    | error e =>
      have hfault (f : SchemaFault) :
          d.Misdeclares position j f ↔ .field d.name position e = f := by
        simp [CollectionDeclaration.Misdeclares, hj, eq_comm]
      rw [firstOf_congr_left fun f => firstOf_congr_left hfault]
      simp
    | ok f =>
      have hdeclared (e : SchemaFault) : ¬ d.Misdeclares position j e := by
        simp [CollectionDeclaration.Misdeclares, hj]
      have hrepeats (e : SchemaFault) : d.RepeatsField before j e ↔
          f.name ∈ earlier ∧ .duplicateField d.name f.name = e := by
        simp [CollectionDeclaration.RepeatsField, Field.fieldName?_of_ok hj, hearlier, eq_comm]
      rw [firstOf_congr_left fun e => (firstOf_of_none hdeclared).trans (hrepeats e)]
      by_cases hname : f.name ∈ earlier
      · simp [hname]
      · have hnext := @ih (position + 1) (f.name :: earlier) (before ++ [j]) (by
          intro n
          simp [hearlier, Field.fieldName?_of_ok hj, or_comm])
        simp only [Nat.add_assoc, Nat.add_comm 1, List.append_assoc, List.singleton_append]
          at hnext
        simp only [hname, if_false, false_and, firstOf_false, ← hnext]
        cases fieldsFrom d.name (position + 1) (f.name :: earlier) rest <;> simp

/-- The first name that is taken is the first one that is among the taken ones or earlier. -/
theorem firstTaken?_some_iff {ε : Type} (refused : String → ε) (taken names : List String) (e : ε) :
    (∃ n, firstTaken? taken names = some n ∧ refused n = e) ↔
      FirstIn (fun i n e => (n ∈ taken ∨ n ∈ names.take i) ∧ e = refused n) names e := by
  induction names generalizing taken with
  | nil => simp [firstTaken?, not_firstIn_nil]
  | cons m rest ih =>
    simp only [firstIn_cons, firstTaken?, List.take_zero, List.not_mem_nil, or_false,
      List.take_succ_cons]
    by_cases hm : m ∈ taken
    · rw [firstOf_congr_left fun e => (and_iff_right hm).trans eq_comm]
      simp [hm]
    · simp only [hm, if_false, false_and, firstOf_false, ih, List.mem_cons, or_assoc, or_left_comm]

/-- What is wrong with a collection, from its name to the names of its patches. -/
theorem ofDeclaration_error_iff (position : Nat) :
    ofDeclaration position d = .error fault ↔
      FirstOf (d.IsUnnamed position) (FirstOf d.IsMisdeclared d.IsCrowded) fault := by
  have hmisdeclared (e : SchemaFault) :
      d.IsMisdeclared e ↔ fieldsFrom d.name 0 [] d.fields = .error e := by
    have hfields := @fieldsFrom_error_iff d e 0 [] [] (fun _ => Iff.rfl) d.fields
    simp only [Nat.zero_add, List.nil_append] at hfields
    exact hfields.symm
  unfold ofDeclaration
  by_cases hname : d.name = ""
  · have hunnamed (e : SchemaFault) : d.IsUnnamed position e ↔ .emptyName position = e :=
      (and_iff_right hname).trans eq_comm
    rw [firstOf_congr_left hunnamed]
    simp [hname]
  · have hnamed (e : SchemaFault) : ¬ d.IsUnnamed position e := fun h => hname h.1
    rw [firstOf_of_none hnamed, firstOf_congr_left hmisdeclared, if_neg (by simpa using hname)]
    cases hfs : fieldsFrom d.name 0 [] d.fields with
    | error e => simp
    | ok fs =>
      have hall := ((fieldsFrom_ok_iff _ _ _ _ _).mp hfs).1
      have htaken := firstTaken?_some_iff (SchemaFault.duplicateField d.name) d.fieldNames
        d.patchNames fault
      have hcrowded : d.IsCrowded fault ↔ _ := htaken.symm
      simp only [reduceCtorEq, firstOf_false, hcrowded, ← d.fieldNames_of_ok hall,
        ← d.patchNames_of_ok hall]
      cases firstTaken? d.fieldNames d.patchNames <;> simp

end Collection

namespace CollectionDeclaration

variable {d : CollectionDeclaration} {c : Collection}

/-- What the fields of a collection must be can be seen from what is declared. -/
theorem declares_iff : d.Declares c ↔ d.IsValid ∧ c.Keeps d := by
  constructor
  · intro h
    have hfields := d.fieldNames_of_ok h.fields
    have hpatches := d.patchNames_of_ok h.fields
    have hvalid : d.IsValid :=
      { named := h.named
        fields_declared := exists_forall₂_iff.mp ⟨_, h.fields⟩
        names_differ := by rw [hfields]; exact h.names_differ
        patches_differ := by rw [hpatches]; exact h.patches_differ
        patches_are_new := by rw [hfields, hpatches]; exact h.patches_are_new }
    exact ⟨hvalid, h.id_eq, h.name_eq, h.singular_eq, h.plural_eq, h.fields⟩
  · rintro ⟨hvalid, hkeeps⟩
    have hfields := d.fieldNames_of_ok hkeeps.fields
    have hpatches := d.patchNames_of_ok hkeeps.fields
    exact
      { hkeeps with
        named := hvalid.named
        names_differ := by rw [← hfields]; exact hvalid.names_differ
        patches_differ := by rw [← hpatches]; exact hvalid.patches_differ
        patches_are_new := by rw [← hfields, ← hpatches]; exact hvalid.patches_are_new }

theorem IsValid.exists_kept (h : d.IsValid) : ∃ c : Collection, c.Keeps d := by
  obtain ⟨fs, hfs⟩ := exists_forall₂_iff.mpr h.fields_declared
  exact ⟨⟨d.id, d.name, d.singular, d.plural, fs⟩, rfl, rfl, rfl, rfl, hfs⟩

end CollectionDeclaration

/-! ## The law -/

/-- A declaration is read as a collection exactly if it is valid; the collection then keeps what is
declared. Any other declaration is refused for the first thing that is wrong with it. -/
theorem a_collection_is_read_or_refused_for_its_first_fault (position : Nat)
    (d : CollectionDeclaration) :
    ((∃ c, Collection.ofDeclaration position d = .ok c) ↔ d.IsValid) ∧
      (∀ c, Collection.ofDeclaration position d = .ok c ↔ d.IsValid ∧ c.Keeps d) ∧
      ∀ fault, Collection.ofDeclaration position d = .error fault ↔
        FirstOf (d.IsUnnamed position) (FirstOf d.IsMisdeclared d.IsCrowded) fault := by
  have hok (c : Collection) :
      Collection.ofDeclaration position d = .ok c ↔ d.IsValid ∧ c.Keeps d := by
    rw [Collection.ofDeclaration_ok_iff, CollectionDeclaration.declares_iff]
  refine ⟨?_, hok, fun _ => Collection.ofDeclaration_error_iff position⟩
  constructor
  · rintro ⟨c, hc⟩
    exact ((hok c).mp hc).1
  · intro hvalid
    obtain ⟨c, hc⟩ := hvalid.exists_kept
    exact ⟨c, (hok c).mpr ⟨hvalid, hc⟩⟩

/-- Two patches of one list of files have the same key if the list has the name of a sign. -/
example : Collection.ofDeclaration 0 ⟨none, "sack", none, none, [
      .object [("name", .text "+"), ("type", .text "file"), ("mode", .text "multiple")]]⟩ =
    .error (.duplicateField "sack" "++") := rfl

end StoreClient
