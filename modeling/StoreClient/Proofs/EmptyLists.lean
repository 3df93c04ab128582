-- The law of the policy: how empty lists are kept decides on the entries of relations that may be
-- left empty, and on nothing else. What is exchanged with the store stays the same, and so does
-- every fault.
import StoreClient.Proofs.FirstFaults
import StoreClient.Proofs.TypedRules

namespace StoreClient

/-! ## Relations that may be left empty -/

/-- A declaration of a relation to several records, none of which has to be there. -/
structure DeclaresOptionalList (j : Json) (name : String) : Prop where
  type_eq : j.get? "type" = some (.text "relation")
  name_eq : j.get? "name" = some (.text name)
  mode_eq : j.get? "mode" = some (.text "multiple")
  not_required : j.get? "required" ≠ some (.bool true)

/-- The field of this name is declared as such a relation. -/
def CollectionDeclaration.HasOptionalList (c : CollectionDeclaration) (name : String) : Prop :=
  ∃ j ∈ c.fields, DeclaresOptionalList j name

namespace Field

/-- A relation to several records, none of which has to be there. -/
def IsOptionalList (f : Field) : Prop := ∃ target, f.form = .relation target .multiple false

theorem optionalList_iff_declared {j : Json} {f : Field} (h : ofDeclaration j = .ok f)
    (name : String) : DeclaresOptionalList j name ↔ f.name = name ∧ f.IsOptionalList := by
  have hname := name_of_declaration h
  have hkind := kind_iff_declared h .relation
  obtain ⟨members, rfl, -, -, hform⟩ := (ofDeclaration_ok_iff j f).mp h
  constructor
  · intro hj
    rw [hkind.mpr hj.type_eq, Declaration.relation_form_ok_iff] at hform
    obtain ⟨target, mode, required, -, hmode, hrequired, hform⟩ := hform
    rw [Declaration.named_ok_iff, Declaration.cardinality_ok_iff] at hmode
    rw [Declaration.named_ok_iff, Declaration.flag_ok_iff] at hrequired
    have hmultiple : mode = .multiple := by
      have hname := hmode.symm.trans hj.mode_eq
      cases mode with
      | single => simp [Cardinality.name] at hname
      | multiple => rfl
    have hoptional : required = false := by
      rcases hrequired with hflag | ⟨-, hflag⟩
      · cases required with
        | false => rfl
        | true => exact absurd hflag hj.not_required
      · exact hflag
    have hsame := hname.symm.trans hj.name_eq
    rw [Option.some.injEq, Json.text.injEq] at hsame
    rw [hmultiple, hoptional] at hform
    exact ⟨hsame, target, hform⟩
  · rintro ⟨rfl, target, hlist⟩
    have hrelation : f.kind = .relation := by rw [kind, hlist]; rfl
    rw [hrelation, Declaration.relation_form_ok_iff, hlist] at hform
    obtain ⟨target, mode, required, -, hmode, hrequired, hform⟩ := hform
    cases hform
    rw [Declaration.named_ok_iff, Declaration.cardinality_ok_iff] at hmode
    rw [Declaration.named_ok_iff, Declaration.flag_ok_iff] at hrequired
    refine ⟨hkind.mp hrelation, hname, hmode, ?_⟩
    intro htrue
    rcases hrequired with hfalse | ⟨hnone, -⟩
    · cases hfalse.symm.trans htrue
    · cases hnone.symm.trans htrue

/-- For every other field the policy does not matter. -/
theorem types_eq_of_not_optionalList {f : Field} (h : ¬ f.IsOptionalList)
    (policy policy' : EmptyListPolicy) :
    f.readType? policy = f.readType? policy' ∧ f.codec? policy = f.codec? policy' := by
  obtain ⟨name, form⟩ := f
  cases form with
  | relation target c required =>
    cases c with
    | single => cases required <;> exact ⟨rfl, rfl⟩
    | multiple =>
      cases required with
      | true => exact ⟨rfl, rfl⟩
      | false => exact absurd ⟨target, rfl⟩ h
  | richText required | email required | url required | dateTime required =>
    cases required <;> exact ⟨rfl, rfl⟩
  | _ => exact ⟨rfl, rfl⟩

end Field

/-- Whether a name is that of a relation that may be left empty, said of the fields. -/
theorem CollectionDeclaration.Declares.hasOptionalList_iff {d : CollectionDeclaration}
    {c : Collection} (h : d.Declares c) (name : String) :
    d.HasOptionalList name ↔ ∃ f ∈ c.fields, f.name = name ∧ f.IsOptionalList :=
  exists_mem_iff_of_forall₂ h.fields fun _ _ hf => Field.optionalList_iff_declared hf name

/-! ## Entries under both policies -/

/-- Two rules that read every value but the empty list and null as the same value in memory, and
write that value as it was. -/
def Codec.AgreeOnFilled (rule rule' : Option Codec) : Prop :=
  ∀ w, w ≠ .array [] → w ≠ .null → ∃ m, toModel? rule w = .ok m ∧ toModel? rule' w = .ok m ∧
    toWire? rule m = .ok w ∧ toWire? rule' m = .ok w

theorem Codec.agreeOnFilled : AgreeOnFilled (some (.emptyAsNull .emptyList)) none := by
  intro w hlist hnull
  have hmatch : ¬ Sentinel.emptyList.isMatch w = true := by
    rw [Sentinel.isMatch_iff]
    exact hlist
  have hvalue : ModelValue.ofWire w = .value w := by
    cases w with
    | null => exact absurd rfl hnull
    | _ => rfl
  refine ⟨.value w, ?_, ?_, rfl, rfl⟩
  · simp [toModel?, toModel, hmatch]
  · simp [toModel?, hvalue]

/-- A read entry that turns the empty list into nothing, and the same entry as it keeps it. -/
structure ReadField.KeepsList (e e' : ReadField) : Prop where
  nullable : e.modelType = .nullable (.list .recordId)
  parse_eq : e.parse = some (.emptyAsNull .emptyList)
  serialize_eq : e.serialize = some (.emptyAsNull .emptyList)
  kept : e' = { e with modelType := .list .recordId, parse := none, serialize := none }
  parse_agree : Codec.AgreeOnFilled e.parse e'.parse
  serialize_agree : Codec.AgreeOnFilled e.serialize e'.serialize

/-- An entry to be written that takes nothing for the empty list, and the same entry as it takes
the list itself. -/
structure WriteField.KeepsList (e e' : WriteField) : Prop where
  nullable : e.modelType = .nullable (.list .recordId)
  serialize_eq : e.serialize = some (.emptyAsNull .emptyList)
  kept : e' = { e with modelType := .list .recordId, serialize := none }
  serialize_agree : Codec.AgreeOnFilled e.serialize e'.serialize

/-- Two entries that differ in a way if a condition holds, and are the same otherwise. -/
def DifferIf {α : Type} (condition : Prop) (differ : α → α → Prop) (e e' : α) : Prop :=
  condition ∧ differ e e' ∨ ¬ condition ∧ e' = e

namespace Field

section

variable {f : Field} {optional : String → Prop} (hown : optional f.name ↔ f.IsOptionalList)

include hown

theorem readField?_policies :
    Option.Rel (fun e e' => DifferIf (optional e.name) ReadField.KeepsList e e')
      (f.readField? .null) (f.readField? .emptyList) := by
  by_cases h : f.IsOptionalList
  · have hname := hown.mpr h
    obtain ⟨name, form⟩ := f
    obtain ⟨target, rfl⟩ := h
    exact .some (Or.inl ⟨hname, rfl, rfl, rfl, rfl, Codec.agreeOnFilled, Codec.agreeOnFilled⟩)
  · obtain ⟨htype, hcodec⟩ := types_eq_of_not_optionalList h .null .emptyList
    have hsame : f.readField? .null = f.readField? .emptyList := by
      simp only [readField?, htype, hcodec]
    rw [hsame]
    cases hread : f.readField? .emptyList with
    | none => exact .none
    | some e =>
      refine .some (Or.inr ⟨?_, rfl⟩)
      rw [name_of_readField hread, hown]
      exact h

theorem createField?_policies :
    Option.Rel (fun e e' => DifferIf (optional e.name) WriteField.KeepsList e e')
      (f.createField? .null) (f.createField? .emptyList) := by
  by_cases h : f.IsOptionalList
  · have hname := hown.mpr h
    obtain ⟨name, form⟩ := f
    obtain ⟨target, rfl⟩ := h
    exact .some (Or.inl ⟨hname, rfl, rfl, rfl, Codec.agreeOnFilled⟩)
  · obtain ⟨htype, hcodec⟩ := types_eq_of_not_optionalList h .null .emptyList
    have hsame : f.createField? .null = f.createField? .emptyList := by
      simp only [createField?, htype, hcodec]
    rw [hsame]
    cases hcreate : f.createField? .emptyList with
    | none => exact .none
    | some e =>
      refine .some (Or.inr ⟨?_, rfl⟩)
      rw [(createField_eq_some hcreate).1, hown]
      exact h

theorem updateFields_policies (hpatches : ∀ n ∈ f.companionNames, ¬ optional n) :
    List.Forall₂ (fun e e' => DifferIf (optional e.name) WriteField.KeepsList e e')
      (f.updateFields .null) (f.updateFields .emptyList) := by
  by_cases h : f.IsOptionalList
  · have hname := hown.mpr h
    obtain ⟨name, form⟩ := f
    obtain ⟨target, rfl⟩ := h
    exact .cons (Or.inl ⟨hname, rfl, rfl, rfl, Codec.agreeOnFilled⟩) .nil
  · obtain ⟨htype, hcodec⟩ := types_eq_of_not_optionalList h .null .emptyList
    have hsame : f.updateFields .null = f.updateFields .emptyList := by
      simp only [updateFields, createField?, htype, hcodec]
    rw [hsame, List.forall₂_same]
    intro e he
    refine Or.inr ⟨?_, rfl⟩
    obtain ⟨own, heq, hnames⟩ := updateFields_eq .emptyList f
    rw [heq, List.mem_append, Option.mem_toList] at he
    rcases he with he | he
    · rw [(hnames e he).1, hown]
      exact h
    · apply hpatches
      rw [← keys_of_patches]
      exact List.mem_flatMap.mpr ⟨e, he, List.mem_cons_self⟩

end

end Field

/-! ## Bundles under both policies -/

/-- Two bundles of a collection that differ only in the entries of relations that may be left
empty: the first turns empty lists into nothing and the second keeps them. -/
structure Bundle.KeepsLists (c : CollectionDeclaration) (b b' : Bundle) : Prop where
  name_eq : b.name = c.name
  same_name : b'.name = b.name
  same_id : b'.id = b.id
  same_typeName : b'.typeName = b.typeName
  same_pluralTypeName : b'.pluralTypeName = b.pluralTypeName
  same_expand : b'.expand = b.expand
  read : List.Forall₂ (fun e e' => DifferIf (c.HasOptionalList e.name) ReadField.KeepsList e e')
    b.read b'.read
  create : List.Forall₂
    (fun e e' => DifferIf (c.HasOptionalList e.name) WriteField.KeepsList e e') b.create b'.create
  update : List.Forall₂
    (fun e e' => DifferIf (c.HasOptionalList e.name) WriteField.KeepsList e e') b.update b'.update

theorem Collection.keepsLists {all : List Collection} {d : CollectionDeclaration} {c : Collection}
    (h : d.Declares c) :
    (c.shapes .null all).KeepsLists d (c.shapes .emptyList all) := by
  have hown : ∀ f ∈ c.fields, d.HasOptionalList f.name ↔ f.IsOptionalList := by
    intro f hf
    rw [h.hasOptionalList_iff]
    constructor
    · rintro ⟨g, hg, hname, hlist⟩
      rwa [List.inj_on_of_nodup_map h.names_differ hf hg hname.symm]
    · exact fun hlist => ⟨f, hf, rfl, hlist⟩
  have hpatches : ∀ f ∈ c.fields, ∀ n ∈ f.companionNames, ¬ d.HasOptionalList n := by
    intro f hf n hn
    rw [h.hasOptionalList_iff]
    rintro ⟨g, hg, rfl, -⟩
    exact h.patches_are_new _ (List.mem_flatMap.mpr ⟨f, hf, hn⟩) (List.mem_map_of_mem hg)
  have hsame : List.Forall₂ (fun f g => f = g ∧ f ∈ c.fields) c.fields c.fields :=
    List.forall₂_same.mpr fun _ hf => ⟨rfl, hf⟩
  refine ⟨h.name_eq, rfl, rfl, rfl, rfl, rfl, ?_, ?_, ?_⟩
  · apply List.rel_filterMap _ hsame
    rintro f _ ⟨rfl, hf⟩
    exact Field.readField?_policies (hown f hf)
  · apply List.rel_filterMap _ hsame
    rintro f _ ⟨rfl, hf⟩
    exact Field.createField?_policies (hown f hf)
  · apply List.rel_flatMap hsame
    rintro f _ ⟨rfl, hf⟩
    exact Field.updateFields_policies (hown f hf) (hpatches f hf)

/-! ## The law -/

/-- Two schemas of a document that differ only in the entries of relations that may be left empty,
bundle by bundle. -/
def Document.KeepsLists (d : Document) (s s' : Schema) : Prop :=
  ∃ pairs : List (Bundle × Bundle), pairs.map (·.1) = s.bundles ∧ pairs.map (·.2) = s'.bundles ∧
    List.Forall₂ (fun c p => p.1.KeepsLists c p.2) d.collections pairs

/-- Faults do not depend on the policy. -/
theorem Document.compile_error_iff_of_policy (d : Document) (policy policy' : EmptyListPolicy)
    (fault : SchemaFault) :
    d.compile policy = .error fault ↔ d.compile policy' = .error fault := by
  unfold compile
  cases Collection.ofDocument d with
  | error f => exact Iff.rfl
  | ok cs =>
    cases hclaims : Collection.claimAll [] cs with
    | error f => simp only [hclaims]
    | ok u =>
      have hsame (f : SchemaFault) : Collection.bundles policy cs cs = .error f ↔
          Collection.bundles policy' cs cs = .error f := by
        rw [Collection.bundles_error_iff, Collection.bundles_error_iff]
      simp only [hclaims]
      cases hbundles : Collection.bundles policy cs cs with
      | error f => rw [(hsame f).mp hbundles]
      | ok bs =>
        cases hbundles' : Collection.bundles policy' cs cs with
        | error f =>
          rw [(hsame f).mpr hbundles'] at hbundles
          cases hbundles
        | ok bs' => simp

/-- The policy decides on the entries of relations that may be left empty, and on nothing else: a
document is refused for the same fault under both, or it compiles under both. -/
theorem the_policy_decides_on_empty_lists_only (d : Document) :
    (∃ fault, d.compile .null = .error fault ∧ d.compile .emptyList = .error fault) ∨
      ∃ s s', d.compile .null = .ok s ∧ d.compile .emptyList = .ok s' ∧ d.KeepsLists s s' := by
  cases hs : d.compile .null with
  | error fault =>
    have hs' := (d.compile_error_iff_of_policy .null .emptyList fault).mp hs
    exact Or.inl ⟨fault, rfl, hs'⟩
  | ok s =>
    obtain ⟨cs, hcs, husable, hapart, hresolve, rfl⟩ := (d.compile_ok_iff .null s).mp hs
    have hs' := (d.compile_ok_iff .emptyList _).mpr ⟨cs, hcs, husable, hapart, hresolve, rfl⟩
    refine Or.inr ⟨_, _, rfl, hs',
      cs.map fun c => (c.shapes .null cs, c.shapes .emptyList cs), ?_, ?_, ?_⟩
    · simp only [List.map_map, Function.comp_def]
    · simp only [List.map_map, Function.comp_def]
    · rw [List.forall₂_map_right_iff]
      exact hcs.imp fun _ _ hc => Collection.keepsLists hc

/-- In the library the single shelf of a book may be missing under both policies, and only the
list of the shelves that follow is kept in two ways. -/
example : ([.null, .emptyList].map fun policy =>
      (library.compile policy).map fun s => s.bundles.map fun b => b.read.map (·.modelType)) =
    [.ok [[.nullable .recordId], [.nullable (.list .recordId)], []],
      .ok [[.nullable .recordId], [.list .recordId], []]] := rfl

end StoreClient
