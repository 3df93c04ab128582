-- Documents that differ only in the texts of names and options. What such a document says apart
-- from these texts fixes how many lines each part of its client has.
import StoreClient.Proofs.ClientLines

namespace StoreClient

/-! ## Documents that differ in names -/

/-- A form without the target of its relation. -/
def FieldForm.untargeted : FieldForm → FieldForm
  | .relation _ c required => .relation "" c required
  | form => form

/-- A form without its texts: how many options there are counts, but not what they say. -/
def FieldForm.bare : FieldForm → FieldForm
  | .select options c => .select (options.map fun _ => "") c
  | form => form.untargeted

def Field.untargeted (f : Field) : Field := ⟨f.name, f.form.untargeted⟩

def Field.bare (f : Field) : Field := ⟨"", f.form.bare⟩

/-- Two fields that differ at most in their names, in what their options say and in how they name
the collection that they lead to. -/
structure Field.Alike (d d' : Document) (f f' : Field) : Prop where
  bare_eq : f.bare = f'.bare
  id_iff : f.name = "id" ↔ f'.name = "id"
  leads : ∀ target mode target' mode', f.relation? = some (target, mode) →
    f'.relation? = some (target', mode') →
    ∃ p ∈ d.collections.zip d'.collections, d.LeadsTo target p.1 ∧ d'.LeadsTo target' p.2

/-- Two declarations of fields that are related. -/
def DeclareBoth (r : Field → Field → Prop) (j j' : Json) : Prop :=
  ∃ f f', Field.ofDeclaration j = .ok f ∧ Field.ofDeclaration j' = .ok f' ∧ r f f'

structure CollectionDeclaration.Alike (d d' : Document) (c c' : CollectionDeclaration) : Prop where
  id_eq : c.id = c'.id
  singular_eq : c.singular = c'.singular
  plural_eq : c.plural = c'.plural
  typeName_eq : c.typeName = c'.typeName
  pluralTypeName_eq : c.pluralTypeName = c'.pluralTypeName
  fields : List.Forall₂ (DeclareBoth (Field.Alike d d')) c.fields c'.fields

/-- Two documents that differ only in the names of collections and fields and in what options
say; the types have the same names, and relations lead to corresponding collections. -/
def Document.Alike (d d' : Document) : Prop :=
  List.Forall₂ (CollectionDeclaration.Alike d d') d.collections d'.collections

/-- The fields of two documents are the same, but for how they name where they lead. -/
def Document.SameFields (d d' : Document) : Prop :=
  List.Forall₂ (fun c c' => List.Forall₂ (DeclareBoth fun f f' => f.untargeted = f'.untargeted)
    c.fields c'.fields) d.collections d'.collections

/-! ## From declarations to collections -/

theorem forall₂_between {α β γ δ : Type} {r : α → β → Prop} {s : α → γ → Prop} {t : γ → δ → Prop}
    {as : List α} {bs : List β} {cs : List γ} {ds : List δ} (hr : List.Forall₂ r as bs)
    (hs : List.Forall₂ s as cs) (ht : List.Forall₂ t cs ds) :
    List.Forall₂ (fun b d => ∃ a c, r a b ∧ s a c ∧ t c d) bs ds := by
  induction hr generalizing cs ds with
  | nil =>
    cases hs
    cases ht
    exact .nil
  | cons hr _ ih =>
    cases hs with
    | cons hs hss =>
      cases ht with
      | cons ht hts => exact .cons ⟨_, _, hr, hs, ht⟩ (ih hss hts)

theorem DeclareBoth.fields {r : Field → Field → Prop} {c c' : CollectionDeclaration}
    {x x' : Collection} (h : List.Forall₂ (DeclareBoth r) c.fields c'.fields) (hc : c.Declares x)
    (hc' : c'.Declares x') : List.Forall₂ r x.fields x'.fields := by
  refine (forall₂_between hc.fields h hc'.fields).imp ?_
  rintro f f' ⟨j, j', hj, ⟨g, g', hg, hg', hr⟩, hj'⟩
  rw [hj] at hg
  rw [hj'] at hg'
  cases hg
  cases hg'
  exact hr

theorem Document.LeadsTo.unique {d : Document} {target : String} {c c' : CollectionDeclaration}
    (h : d.LeadsTo target c) (h' : d.LeadsTo target c') : c = c' := by
  rcases h with hid | ⟨hfree, hname⟩
  · rcases h' with hid' | ⟨hfree', -⟩
    · rw [hid] at hid'
      exact List.head_eq_of_cons_eq hid'
    · rw [hid] at hfree'
      cases hfree'
  · rcases h' with hid' | ⟨-, hname'⟩
    · rw [hfree] at hid'
      cases hid'
    · rw [hname] at hname'
      exact List.head_eq_of_cons_eq hname'

/-! ## What the lines of a collection depend on -/

/-- What a field adds to the lines of the client besides its property. -/
structure Marks where
  parses : Bool
  serializes : Bool
  documented : Bool
deriving DecidableEq

def FieldView.marks (v : FieldView) : Marks :=
  ⟨v.parser.isSome, v.serializer.isSome, v.doc.isSome⟩

def ReadField.marks (f : ReadField) : Marks := ⟨f.parse.isSome, f.serialize.isSome, f.doc.isSome⟩

def WriteField.marks (f : WriteField) : Marks := ⟨false, f.serialize.isSome, f.doc.isSome⟩

/-- What the number of the lines of a collection depends on. -/
structure BundleView.SameFrame (v v' : BundleView) : Prop where
  hasIdField_eq : v.hasIdField = v'.hasIdField
  read_eq : v.read.map (·.marks) = v'.read.map (·.marks)
  create_eq : v.create.map (·.marks) = v'.create.map (·.marks)
  update_eq : v.update.map (·.marks) = v'.update.map (·.marks)
  bindings_eq : v.companionBindings.length = v'.companionBindings.length
  expand_eq : v.expand.length = v'.expand.length

namespace ClientText

theorem length_modelProperties (fs : List FieldView) :
    (fs.flatMap modelProperty).length =
      (fs.map (·.marks)).length + (fs.map (·.marks)).countP (·.documented) := by
  induction fs with
  | nil => rfl
  | cons f fs ih =>
    rw [List.flatMap_cons, List.length_append, ih, List.map_cons, List.length_cons,
      List.countP_cons]
    cases hdoc : f.doc with
    | none =>
      simp [modelProperty, docLines, FieldView.marks, hdoc]
      omega
    | some doc =>
      simp [modelProperty, docLines, FieldView.marks, hdoc]
      omega

theorem length_replacements (fs : List FieldView) {marked : Marks → Bool}
    {expression : FieldView → Option String} {key : FieldView → String}
    (h : ∀ f, marked f.marks = (expression f).isSome) :
    (fs.filterMap fun f => (expression f).map (replacement (key f))).length =
      (fs.map (·.marks)).countP marked := by
  rw [List.length_filterMap_eq_countP, List.countP_map]
  refine List.countP_congr fun f _ => ?_
  simp [h]

theorem length_parsed (fs : List FieldView) :
    (fs.filterMap parsed).length = (fs.map (·.marks)).countP (·.parses) :=
  length_replacements fs fun _ => rfl

theorem length_serialized (fs : List FieldView) :
    (fs.filterMap serialized).length = (fs.map (·.marks)).countP (·.serializes) :=
  length_replacements fs fun _ => rfl

theorem isEmpty_eq_of_length_eq {α : Type} {as bs : List α} (h : as.length = bs.length) :
    as.isEmpty = bs.isEmpty := by
  rw [Bool.eq_iff_iff, List.isEmpty_iff_length_eq_zero, List.isEmpty_iff_length_eq_zero, h]

theorem length_objectType (name : String) (properties : List String) :
    (objectType name properties).length = properties.length + 3 := by
  simp only [objectType, List.length_append, List.length_cons, List.length_nil]
  omega

theorem length_function (name recordType resultType : String) (body : List String) :
    (function name recordType resultType body).length = body.length + 3 := by
  simp only [function, List.length_append, List.length_cons, List.length_nil]
  omega

theorem length_returnWith (source : String) (replaced : List String) :
    (returnWith source replaced).length = replaced.length + 3 := by
  simp only [returnWith, List.length_append, List.length_cons, List.length_nil]
  omega

section

variable {v v' : BundleView} (h : v.SameFrame v')

include h

theorem hasExpansion_eq : v.hasExpansion = v'.hasExpansion :=
  congrArg not (isEmpty_eq_of_length_eq h.expand_eq)

theorem hasCompanions_eq : v.hasCompanions = v'.hasCompanions :=
  congrArg not (isEmpty_eq_of_length_eq h.bindings_eq)

theorem length_recordTypes : (recordTypes v).length = (recordTypes v').length := by
  have hread := congrArg List.length h.read_eq
  have hcreate := congrArg List.length h.create_eq
  have hupdate := congrArg List.length h.update_eq
  simp only [List.length_map] at hread hcreate hupdate
  have hid (type : String) : (idProperty v type).length = (idProperty v' type).length := by
    simp only [idProperty, h.hasIdField_eq]
  simp only [recordTypes, List.length_append, length_objectType, length_modelProperties,
    List.length_map, hid, hread, hcreate, hupdate, h.read_eq, h.create_eq, h.update_eq]

theorem length_expandedTypes : (expandedTypes v).length = (expandedTypes v').length := by
  simp only [expandedTypes, hasExpansion_eq h]
  split
  · simp only [List.length_append, length_objectType, List.length_map, h.expand_eq]
    rfl
  · rfl

theorem length_optionTypes : (optionTypes v).length = (optionTypes v').length := by
  simp only [optionTypes, hasExpansion_eq h, List.length_append]
  split
  · simp only [length_objectType, List.length_map, h.expand_eq]
    rfl
  · rfl

theorem length_parseExpandedBody :
    (parseExpandedBody v).length = (parseExpandedBody v').length := by
  simp only [parseExpandedBody, hasExpansion_eq h]
  split
  · simp only [List.length_append, List.length_map, h.expand_eq, List.length_cons]
  · rfl

theorem length_serializeUpdateBody :
    (serializeUpdateBody v).length = (serializeUpdateBody v').length := by
  simp only [serializeUpdateBody, hasCompanions_eq h]
  split
  · simp only [List.length_cons, length_returnWith, length_serialized, h.update_eq]
  · simp only [length_returnWith, length_serialized, h.update_eq]

theorem length_functions : (functions v).length = (functions v').length := by
  simp only [functions, List.length_append, length_function, length_returnWith, length_parsed,
    length_serialized, h.read_eq, h.create_eq, length_parseExpandedBody h,
    length_serializeUpdateBody h]

theorem length_collection : (collection v).length = (collection v').length := by
  simp only [collection, List.length_append, List.length_cons, length_recordTypes h,
    length_expandedTypes h, length_optionTypes h, length_functions h]

end

theorem length_lines {vs vs' : List BundleView} (h : List.Forall₂ BundleView.SameFrame vs vs') :
    (lines vs).length = (lines vs').length := by
  have hentry (v v' : BundleView) : (tableEntry v).length = (tableEntry v').length := rfl
  have hparts : (vs.flatMap collection).length = (vs'.flatMap collection).length ∧
      (vs.flatMap tableEntry).length = (vs'.flatMap tableEntry).length := by
    induction h with
    | nil => exact ⟨rfl, rfl⟩
    | @cons v v' vs vs' hv _ ih =>
      simp only [List.flatMap_cons, List.length_append, length_collection hv, ih, hentry v v',
        and_self]
  simp only [lines, table, List.length_append, List.length_cons, hparts]

end ClientText

/-! ## Frames of collections -/

namespace FieldView

theorem marks_ofRead (f : ReadField) : (ofRead f).marks = f.marks := by
  simp [marks, ReadField.marks, ofRead]

theorem marks_ofWrite (f : WriteField) : (ofWrite f).marks = f.marks := by
  simp [marks, WriteField.marks, ofWrite]

theorem marks_ofCompanion {f : WriteField} (h : f.isCompanion = true) (localName : String) :
    (ofCompanion f localName).marks = f.marks := by
  have hrule : f.serialize.isSome = true := by
    unfold WriteField.isCompanion WriteField.patch? at h
    split at h
    · rename_i hrule
      rw [hrule]
      rfl
    · cases h
  simp [marks, WriteField.marks, ofCompanion, ofWrite, hrule]

theorem frame_ofUpdates (number : Nat) (fs : List WriteField) :
    (ofUpdates number fs).1.map (·.marks) = fs.map (·.marks) ∧
      (ofUpdates number fs).2.length = fs.countP (·.isCompanion) := by
  induction fs generalizing number with
  | nil => exact ⟨rfl, rfl⟩
  | cons f rest ih =>
    unfold ofUpdates
    split
    · rename_i hcompanion
      obtain ⟨hmarks, hlength⟩ := ih (number + 1)
      simp only [List.map_cons, hmarks, marks_ofCompanion hcompanion, List.length_cons, hlength,
        List.countP_cons_of_pos hcompanion, and_self]
    · rename_i hplain
      obtain ⟨hmarks, hlength⟩ := ih number
      simp only [List.map_cons, hmarks, marks_ofWrite, hlength,
        List.countP_cons_of_neg hplain, and_self]

end FieldView

namespace Field

variable (policy : EmptyListPolicy) (f : Field)

/-- The marks of a fetched field depend on the bare form. -/
theorem map_marks_readField? : (f.readField? policy).map (·.marks) =
    (f.bare.readField? policy).map (·.marks) := by
  obtain ⟨name, form⟩ := f
  cases form with
  | relation target c required => cases c <;> cases required <;> rfl
  | _ => rfl

theorem map_marks_createField? : (f.createField? policy).map (·.marks) =
    (f.bare.createField? policy).map (·.marks) := by
  obtain ⟨name, form⟩ := f
  cases form with
  | relation target c required => cases c <;> cases required <;> rfl
  | _ => rfl

theorem map_marks_updateFields :
    (f.updateFields policy).map (fun e => (e.marks, e.isCompanion)) =
      (f.bare.updateFields policy).map fun e => (e.marks, e.isCompanion) := by
  obtain ⟨name, form⟩ := f
  cases form with
  | relation target c required => cases c <;> cases required <;> rfl
  | file c required => cases c <;> rfl
  | _ => rfl

theorem isSome_relation? : f.relation?.isSome = f.bare.relation?.isSome := by
  obtain ⟨name, form⟩ := f
  cases form <;> rfl

variable {policy} {fs fs' : List Field} {key : Field → Field}

/-- What depends on a part of each field only is the same for fields that share that part. -/
theorem filterMap_eq_of_key {α : Type} {made? : Field → Option α}
    (h : ∀ f, made? f = made? (key f)) (hkey : fs.map key = fs'.map key) :
    fs.filterMap made? = fs'.filterMap made? := by
  have hkeys (gs : List Field) : gs.filterMap made? = (gs.map key).filterMap made? := by
    rw [List.filterMap_map]
    exact List.filterMap_congr fun f _ => h f
  rw [hkeys fs, hkeys fs', hkey]

theorem flatMap_eq_of_key {α : Type} {made : Field → List α}
    (h : ∀ f, made f = made (key f)) (hkey : fs.map key = fs'.map key) :
    fs.flatMap made = fs'.flatMap made := by
  have hkeys (gs : List Field) : gs.flatMap made = (gs.map key).flatMap made := by
    rw [List.flatMap_map]
    exact List.flatMap_congr fun f _ => h f
  rw [hkeys fs, hkeys fs', hkey]

theorem isSome_expansion? {all : List Collection} {f : Field} (h : f.Resolves all) :
    (f.expansion? all).isSome = f.relation?.isSome := by
  unfold expansion?
  cases hrel : f.relation? with
  | none => rfl
  | some r => simpa using h r.1 r.2 hrel

/-- Whether a field is the fetched id. -/
theorem any_readField_id (f : Field) : (f.readField? policy).any (·.name = "id") =
    ((f.bare.readField? policy).isSome && decide (f.name = "id")) := by
  obtain ⟨name, form⟩ := f
  cases form with
  | relation target c required => cases c <;> rfl
  | _ => rfl

theorem Alike.any_readField_id {d d' : Document} {f f' : Field} (h : Alike d d' f f') :
    (f.readField? policy).any (·.name = "id") = (f'.readField? policy).any (·.name = "id") := by
  rw [Field.any_readField_id, Field.any_readField_id, h.bare_eq, decide_eq_decide.mpr h.id_iff]

end Field

theorem BundleView.sameFrame_ofBundle {b b' : Bundle}
    (hid : b.read.any (·.name = "id") = b'.read.any (·.name = "id"))
    (hread : b.read.map (·.marks) = b'.read.map (·.marks))
    (hcreate : b.create.map (·.marks) = b'.create.map (·.marks))
    (hupdate : b.update.map (fun e => (e.marks, e.isCompanion)) =
      b'.update.map fun e => (e.marks, e.isCompanion))
    (hexpand : b.expand.length = b'.expand.length) :
    (ofBundle b).SameFrame (ofBundle b') where
  hasIdField_eq := by
    simpa only [ofBundle, Bundle.readField?, List.isSome_find?] using hid
  read_eq := by
    simpa only [ofBundle, List.map_map, Function.comp_def, FieldView.marks_ofRead] using hread
  create_eq := by
    simpa only [ofBundle, List.map_map, Function.comp_def, FieldView.marks_ofWrite] using hcreate
  update_eq := by
    have hmarks := congrArg (List.map Prod.fst) hupdate
    simpa only [ofBundle, (FieldView.frame_ofUpdates 0 _).1, List.map_map, Function.comp_def]
      using hmarks
  bindings_eq := by
    have hcount := congrArg (List.countP Prod.snd) hupdate
    simpa only [ofBundle, (FieldView.frame_ofUpdates 0 _).2, List.countP_map, Function.comp_def]
      using hcount
  expand_eq := by
    simpa only [ofBundle, List.length_map] using hexpand

section

variable {policy : EmptyListPolicy} {d d' : Document} {cs cs' : List Collection}
  {c c' : Collection}

/-- Collections with alike fields have views of the same frame. -/
theorem Collection.sameFrame (h : List.Forall₂ (Field.Alike d d') c.fields c'.fields)
    (hresolve : ∀ f ∈ c.fields, f.Resolves cs) (hresolve' : ∀ f ∈ c'.fields, f.Resolves cs') :
    (BundleView.ofBundle (c.shapes policy cs)).SameFrame
      (BundleView.ofBundle (c'.shapes policy cs')) := by
  have hbare : c.fields.map (·.bare) = c'.fields.map (·.bare) :=
    map_eq_of_forall₂ (h.imp fun _ _ h => h.bare_eq)
  apply BundleView.sameFrame_ofBundle
  · have hids : c.fields.map (fun f => (f.readField? policy).any (·.name = "id")) =
        c'.fields.map fun f => (f.readField? policy).any (·.name = "id") :=
      map_eq_of_forall₂ (h.imp fun _ _ h => h.any_readField_id)
    have hany := congrArg (List.any · fun b => b) hids
    simp only [List.any_map, Function.comp_def] at hany
    simp only [shapes, List.any_filterMap]
    exact hany
  · simp only [shapes, List.map_filterMap]
    exact Field.filterMap_eq_of_key (Field.map_marks_readField? policy) hbare
  · simp only [shapes, List.map_filterMap]
    exact Field.filterMap_eq_of_key (Field.map_marks_createField? policy) hbare
  · simp only [shapes, List.map_flatMap]
    exact Field.flatMap_eq_of_key (Field.map_marks_updateFields policy) hbare
  · have hcount {all : List Collection} {fs : List Field} (hfs : ∀ f ∈ fs, f.Resolves all) :
        (fs.filterMap (·.expansion? all)).length =
          (fs.map (·.bare)).countP (·.relation?.isSome) := by
      rw [List.length_filterMap_eq_countP, List.countP_map]
      refine List.countP_congr fun f hf => ?_
      rw [Field.isSome_expansion? (hfs f hf), Field.isSome_relation?]
      rfl
    simp only [shapes, hcount hresolve, hcount hresolve', hbare]

end

end StoreClient
