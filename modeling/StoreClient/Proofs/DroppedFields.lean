-- The law of dropped fields: a document without the fields of one name compiles to the bundles
-- without the entries of that field. No check rests on a field that is there; the names that
-- collections share and the targets of relations belong to collections, which all stay.
import StoreClient.Catalog.Basic
import StoreClient.Proofs.CatalogFields
import StoreClient.Proofs.EntryKeys

namespace StoreClient

/-! ## Entries of a field -/

/-- A patch tells of which field it is. -/
theorem Field.companion_eq_iff {field other : String} {op op' : Patch} :
    companion field op = companion other op' ↔ field = other ∧ op = op' := by
  constructor
  · intro h
    have hop : op = op' := by
      have hrule := congrArg WriteField.serialize h
      simpa [companion] using hrule
    subst hop
    have hkey := congrArg WriteField.wireKey h
    refine ⟨?_, rfl⟩
    cases op <;> simpa [companion, Patch.wireKey] using hkey
  · rintro ⟨rfl, rfl⟩
    rfl

/-- Whether an entry of a change is of a field: it is the field itself, or one of the patches of
its list of files. -/
def WriteField.isOf (field : String) (e : WriteField) : Bool :=
  if e.isCompanion then e ∈ Patch.all.map (Field.companion field) else e.name = field

/-- A bundle without the entries of a field. -/
def Bundle.withoutField (field : String) (b : Bundle) : Bundle :=
  { b with
    read := b.read.filter (·.name ≠ field)
    create := b.create.filter (·.name ≠ field)
    update := b.update.filter fun e => !e.isOf field
    expand := b.expand.filter (·.field ≠ field) }

/-- The entries that a field gives to a change are its own. -/
theorem Field.isOf_of_mem_updateFields {policy : EmptyListPolicy} {f : Field} {e : WriteField}
    (he : e ∈ f.updateFields policy) (field : String) :
    e.isOf field = decide (f.name = field) := by
  obtain ⟨own, heq, hown⟩ := f.updateFields_eq policy
  rw [heq, List.mem_append] at he
  rcases he with he | he
  · obtain ⟨hname, -, hplain⟩ := hown e (Option.mem_toList.mp he)
    simp [WriteField.isOf, hplain, hname]
  · obtain ⟨-, op, rfl⟩ := (f.mem_patches_iff e).mp he
    have hop : op ∈ Patch.all := by cases op <;> decide
    have hcompanion : (companion f.name op).isCompanion = true := rfl
    rw [WriteField.isOf, if_pos hcompanion, decide_eq_decide, List.mem_map]
    constructor
    · rintro ⟨op', -, h⟩
      exact (companion_eq_iff.mp h).1.symm
    · rintro rfl
      exact ⟨op, hop, rfl⟩

theorem Field.field_of_expansion {all : List Collection} {f : Field} {e : Expansion}
    (h : f.expansion? all = some e) : e.field = f.name := by
  unfold expansion? at h
  obtain ⟨r, -, h⟩ := Option.bind_eq_some_iff.mp h
  obtain ⟨c, -, rfl⟩ := Option.map_eq_some_iff.mp h
  rfl

/-! ## Leaving out before and after -/

section

variable {α β : Type} {p : α → Bool} {q : β → Bool}

/-- What comes of elements is left out with them. -/
theorem flatMap_filter_eq {made : α → List β} (h : ∀ a, ∀ b ∈ made a, q b = p a) (as : List α) :
    (as.filter p).flatMap made = (as.flatMap made).filter q := by
  induction as with
  | nil => rfl
  | cons a as ih =>
    rw [List.flatMap_cons, List.filter_append, ← ih]
    by_cases hp : p a = true
    · have hmade : (made a).filter q = made a := by
        refine List.filter_eq_self.mpr fun b hb => ?_
        rw [h a b hb, hp]
      rw [List.filter_cons_of_pos hp, List.flatMap_cons, hmade]
    · have hmade : (made a).filter q = [] := by
        refine List.filter_eq_nil_iff.mpr fun b hb => ?_
        rwa [h a b hb]
      rw [List.filter_cons_of_neg hp, hmade, List.nil_append]

theorem filterMap_filter_eq {made? : α → Option β} (h : ∀ a, ∀ b ∈ made? a, q b = p a)
    (as : List α) : (as.filter p).filterMap made? = (as.filterMap made?).filter q := by
  rw [List.filterMap_eq_flatMap_toList, List.filterMap_eq_flatMap_toList]
  exact flatMap_filter_eq (fun a b hb => h a b (Option.mem_toList.mp hb)) as

end

/-! ## Collections without a field -/

/-- Whether a value has this name. -/
def Json.isNamed (name : String) (j : Json) : Bool :=
  match j.get? "name" with
  | some (.text other) => other = name
  | _ => false

def CollectionDeclaration.withoutField (field : String) (d : CollectionDeclaration) :
    CollectionDeclaration :=
  { d with fields := d.fields.filter fun j => !j.isNamed field }

def Document.withoutField (field : String) (d : Document) : Document where
  collections := d.collections.map (·.withoutField field)

def Collection.withoutField (field : String) (c : Collection) : Collection :=
  { c with fields := c.fields.filter (·.name ≠ field) }

variable {field : String}

theorem Field.isNamed_of_declaration {j : Json} {f : Field} (h : Field.ofDeclaration j = .ok f) :
    j.isNamed field = decide (f.name = field) := by
  rw [Json.isNamed, Field.name_of_declaration h]

theorem CollectionDeclaration.Declares.withoutField {d : CollectionDeclaration} {c : Collection}
    (h : d.Declares c) : (d.withoutField field).Declares (c.withoutField field) := by
  have hfields : (c.withoutField field).fields.Sublist c.fields := List.filter_sublist
  have hnames := hfields.map (·.name)
  have hpatches : ((c.withoutField field).fields.flatMap (·.companionNames)).Sublist
      (c.fields.flatMap (·.companionNames)) := hfields.flatMap _
  refine ⟨h.named, ?_, h.names_differ.sublist hnames, h.patches_differ.sublist hpatches, ?_,
    h.id_eq, h.name_eq, h.singular_eq, h.plural_eq⟩
  · refine List.rel_filter ?_ h.fields
    intro j f hf
    simp [Field.isNamed_of_declaration hf]
  · intro n hn hname
    exact h.patches_are_new n (hpatches.subset hn) (hnames.subset hname)

namespace Collection

variable (all : List Collection)

theorem target?_withoutField (target : String) :
    target? (all.map (·.withoutField field)) target =
      (target? all target).map (·.withoutField field) := by
  unfold target?
  rw [List.find?_map, List.find?_map, Option.map_or]
  rfl

theorem expansion?_withoutField (f : Field) :
    f.expansion? (all.map (·.withoutField field)) = f.expansion? all := by
  unfold Field.expansion?
  simp only [target?_withoutField, Option.map_map]
  rfl

theorem resolves_withoutField {f : Field} (h : f.Resolves all) :
    f.Resolves (all.map (·.withoutField field)) := by
  intro target mode hrel
  rw [target?_withoutField, Option.isSome_map]
  exact h target mode hrel

/-- Without a field the shapes of a collection are without its entries. -/
theorem shapes_withoutField (policy : EmptyListPolicy) (c : Collection) :
    (c.withoutField field).shapes policy (all.map (·.withoutField field)) =
      (c.shapes policy all).withoutField field := by
  have hread : (c.withoutField field).fields.filterMap (·.readField? policy) =
      (c.fields.filterMap (·.readField? policy)).filter (·.name ≠ field) := by
    refine filterMap_filter_eq (fun f e he => ?_) c.fields
    rw [Field.name_of_readField he]
  have hcreate : (c.withoutField field).fields.filterMap (·.createField? policy) =
      (c.fields.filterMap (·.createField? policy)).filter (·.name ≠ field) := by
    refine filterMap_filter_eq (fun f e he => ?_) c.fields
    rw [(Field.createField_eq_some he).1]
  have hupdate : (c.withoutField field).fields.flatMap (·.updateFields policy) =
      (c.fields.flatMap (·.updateFields policy)).filter fun e => !e.isOf field := by
    refine flatMap_filter_eq (fun f e he => ?_) c.fields
    rw [Field.isOf_of_mem_updateFields he]
    simp
  have hexpand : (c.withoutField field).fields.filterMap
      (·.expansion? (all.map (·.withoutField field))) =
        (c.fields.filterMap (·.expansion? all)).filter (·.field ≠ field) := by
    simp only [expansion?_withoutField]
    refine filterMap_filter_eq (fun f e he => ?_) c.fields
    rw [Field.field_of_expansion he]
  simp only [shapes, Bundle.withoutField, hread, hcreate, hupdate, hexpand]
  rfl

end Collection

theorem Document.compile_withoutField {policy : EmptyListPolicy} {d : Document} {s : Schema}
    (h : d.compile policy = .ok s) :
    (d.withoutField field).compile policy = .ok ⟨s.bundles.map (·.withoutField field)⟩ := by
  obtain ⟨cs, hcs, husable, hapart, hresolve, rfl⟩ := (d.compile_ok_iff policy s).mp h
  refine ((d.withoutField field).compile_ok_iff policy _).mpr
    ⟨cs.map (·.withoutField field), ?_, ?_, ?_, ?_, ?_⟩
  · rw [Document.withoutField, List.forall₂_map_left_iff, List.forall₂_map_right_iff]
    exact hcs.imp fun _ _ hc => hc.withoutField
  · rw [List.forall_mem_map]
    exact husable
  · rw [List.pairwise_map]
    exact hapart.imp fun h => ⟨h.names, h.ids, h.typeNames, h.pluralTypeNames⟩
  · rw [List.forall_mem_map]
    intro c hc f hf
    exact Collection.resolves_withoutField cs (hresolve c hc f (List.mem_of_mem_filter hf))
  · simp only [List.map_map, Function.comp_def, Collection.shapes_withoutField]

/-! ## The law -/

namespace Catalog

variable {includeSystem : Bool}

/-- The name of a field is not translated. -/
theorem isNamed_translate (j : Json) : (translate j).isNamed field = j.isNamed field := by
  have hname : (translate j).get? "name" = j.get? "name" := by
    unfold translate
    split
    · split
      · rw [Json.get?, Json.get?, Json.lookup_replace, if_neg (by decide),
          lookup_translateProperties_of_not_mem "name" (by decide)]
      · rfl
    · rfl
  rw [Json.isNamed, Json.isNamed, hname]

theorem collection_withoutId {row : CatalogRow} {c : CollectionDeclaration}
    (h : collection ⟨includeSystem, true⟩ row = .ok c) :
    collection ⟨includeSystem, false⟩ row = .ok (c.withoutField "id") := by
  have hid (j : Json) : isIdField j = (translate j).isNamed "id" :=
    (isNamed_translate j).symm
  unfold collection at h ⊢
  split at h
  · cases h
    simp [CollectionDeclaration.withoutField, List.filter_map, Function.comp_def, hid]
  · cases h
  · cases h

theorem collections_withoutId {rows : List CatalogRow} {cs : List CollectionDeclaration}
    (h : collections ⟨includeSystem, true⟩ rows = .ok cs) :
    collections ⟨includeSystem, false⟩ rows = .ok (cs.map (·.withoutField "id")) := by
  induction rows generalizing cs with
  | nil =>
    cases h
    rfl
  | cons row rest ih =>
    unfold collections at h
    split at h
    · cases h
    · rename_i c hc
      split at h
      · cases h
      · rename_i cs' hrest
        cases h
        rw [collections, collection_withoutId hc, ih hrest]
        rfl

theorem document_withoutId {rows : List CatalogRow} {d : Document}
    (h : document ⟨includeSystem, true⟩ rows = .ok d) :
    document ⟨includeSystem, false⟩ rows = .ok (d.withoutField "id") := by
  unfold document at h
  split at h
  · cases h
  · rename_i cs hcs
    cases h
    have hcs' := collections_withoutId hcs
    unfold document
    rw [show kept ⟨includeSystem, false⟩ rows = kept ⟨includeSystem, true⟩ rows from rfl, hcs']
    rfl

end Catalog

/-- Whether or not the ids of records are taken over from a catalog, it compiles to the same
bundles, but for the entries of the ids. -/
theorem leaving_out_ids_drops_only_their_entries (policy : EmptyListPolicy) (includeSystem : Bool)
    (rows : List CatalogRow) (d : Document) (s : Schema)
    (hd : Catalog.document ⟨includeSystem, true⟩ rows = .ok d) (hs : d.compile policy = .ok s) :
    ∃ d', Catalog.document ⟨includeSystem, false⟩ rows = .ok d' ∧
      d'.compile policy = .ok ⟨s.bundles.map (·.withoutField "id")⟩ :=
  ⟨d.withoutField "id", Catalog.document_withoutId hd, Document.compile_withoutField hs⟩

/-- Clips whose ids are lists of files. -/
def clipRows : List CatalogRow :=
  [{ id := "pbc_clips", name := "clips", kind := "base", isSystem := false,
     fields := (Json.array [
       .object [("maxSelect", .number (.int 3)), ("name", .text "id"), ("type", .text "file")],
       .object [("name", .text "title"), ("type", .text "text")]]).compactText }]

/-- The patches of the ids go with them. -/
theorem the_clips_lose_their_ids : ∃ d s, Catalog.document ⟨false, true⟩ clipRows = .ok d ∧
    d.compile .null = .ok s ∧ s.bundles.map (fun b => b.update.map (·.name)) =
      [["id", "idAppend", "idPrepend", "idRemove", "title"]] ∧
    ∃ d', Catalog.document ⟨false, false⟩ clipRows = .ok d' ∧
      d'.compile .null = .ok ⟨s.bundles.map (·.withoutField "id")⟩ := by
  have hnames : ((Catalog.document ⟨false, true⟩ clipRows).toOption.bind fun d =>
      (d.compile .null).toOption.map fun s => s.bundles.map fun b => b.update.map (·.name)) =
        some [["id", "idAppend", "idPrepend", "idRemove", "title"]] := by
    decide +kernel
  cases hd : Catalog.document ⟨false, true⟩ clipRows with
  | error fault =>
    rw [hd] at hnames
    cases hnames
  | ok d =>
    rw [hd, Except.toOption, Option.bind_some] at hnames
    cases hs : d.compile .null with
    | error fault =>
      rw [hs] at hnames
      cases hnames
    | ok s =>
      rw [hs] at hnames
      exact ⟨d, s, rfl, hs, Option.some.inj hnames,
        leaving_out_ids_drops_only_their_entries .null false clipRows d s hd hs⟩

end StoreClient
