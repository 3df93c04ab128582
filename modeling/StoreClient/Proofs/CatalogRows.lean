-- The law of skipped rows: what is taken over from a catalog depends on the rows that are taken
-- over and on nothing else. Each of them must hold a JSON array; the first that does not is the
-- one that is reported, and a row that is skipped is not even read.
import StoreClient.Proofs.DroppedFields

namespace StoreClient

/-! ## Rows -/

namespace CatalogRow

/-- The fields of the row are the JSON text of an array. -/
def HoldsArray (row : CatalogRow) : Prop :=
  ∃ items, Json.parse row.fields = .ok (.array items)

/-- What is reported of a row whose fields are not. -/
structure Unreadable (row : CatalogRow) (fault : CatalogFault) : Prop where
  no_array : ¬ row.HoldsArray
  collection_eq : fault.collection = row.name
  /-- Either the fields are no JSON text at all, or they are that of something else. -/
  reason_iff : fault.reason = .notJson ↔ ∀ j, Json.parse row.fields ≠ .ok j

/-- The collection that is taken over from a row: the elements of its array, but for ids that are
not asked for, in order and in the words of a document. -/
structure TakenOver (includeId : Bool) (row : CatalogRow) (c : CollectionDeclaration) : Prop where
  id_eq : c.id = some row.id
  name_eq : c.name = row.name
  singular_eq : c.singular = none
  plural_eq : c.plural = none
  fields_eq : ∃ items, Json.parse row.fields = .ok (.array items) ∧
    c.fields =
      (if includeId then items else items.filter fun j => !j.isNamed "id").map Catalog.translate

/-- The row with other fields. -/
def withFields (text : String) (row : CatalogRow) : CatalogRow := { row with fields := text }

end CatalogRow

namespace Catalog

variable {options : CatalogOptions}

/-- Ids are left out unless they are asked for. -/
theorem filter_asked (includeId : Bool) (items : List Json) :
    (items.filter fun j => includeId || !isIdField j) =
      if includeId then items else items.filter fun j => !j.isNamed "id" := by
  cases includeId
  · rfl
  · exact List.filter_eq_self.mpr fun _ _ => rfl

theorem collection_ok_iff {row : CatalogRow} {c : CollectionDeclaration} :
    collection options row = .ok c ↔ row.TakenOver options.includeId c := by
  unfold collection
  constructor
  · intro h
    split at h
    · rename_i items hitems
      cases h
      refine ⟨rfl, rfl, rfl, rfl, items, hitems, ?_⟩
      rw [← filter_asked]
    · cases h
    · cases h
  · rintro ⟨hid, hname, hsingular, hplural, items, hitems, hfields⟩
    obtain ⟨id, name, singular, plural, fields⟩ := c
    dsimp only at hid hname hsingular hplural hfields
    rw [hitems, hid, hname, hsingular, hplural, hfields, ← filter_asked]

theorem exists_collection_iff (options : CatalogOptions) {row : CatalogRow} :
    (∃ c, collection options row = .ok c) ↔ row.HoldsArray := by
  constructor
  · rintro ⟨c, hc⟩
    obtain ⟨items, hitems, -⟩ := (collection_ok_iff.mp hc).fields_eq
    exact ⟨items, hitems⟩
  · rintro ⟨items, hitems⟩
    unfold collection
    rw [hitems]
    exact ⟨_, rfl⟩

theorem collection_error_iff {row : CatalogRow} {fault : CatalogFault} :
    collection options row = .error fault ↔ row.Unreadable fault := by
  obtain ⟨name, reason⟩ := fault
  constructor
  · intro h
    have hno : ¬ row.HoldsArray := by
      intro harray
      obtain ⟨c, hc⟩ := (exists_collection_iff options).mpr harray
      rw [hc] at h
      cases h
    unfold collection at h
    split at h
    · cases h
    · rename_i j _ hj
      cases h
      exact ⟨hno, rfl, by simp [hj]⟩
    · rename_i hj
      cases h
      exact ⟨hno, rfl, by simp [hj]⟩
  · rintro ⟨hno, hname, hreason⟩
    dsimp only at hname hreason
    unfold collection
    split
    · rename_i items hitems
      exact absurd ⟨items, hitems⟩ hno
    · rename_i j _ hj
      cases reason with
      | notJson => exact absurd hj (hreason.mp rfl j)
      | notArray => rw [hname]
    · rename_i hj
      have hnotJson : reason = .notJson := hreason.mpr (by simp [hj])
      rw [hname, hnotJson]

/-! ## Lists of rows -/

theorem collections_eq_mapM (rows : List CatalogRow) :
    collections options rows = rows.mapM (collection options) := by
  induction rows with
  | nil => rfl
  | cons row rest ih =>
    rw [List.mapM_cons, ← ih, collections]
    cases collection options row with
    | error fault => rfl
    | ok c => cases collections options rest <;> rfl

theorem collections_ok_iff {rows : List CatalogRow} {cs : List CollectionDeclaration} :
    collections options rows = .ok cs ↔
      List.Forall₂ (CatalogRow.TakenOver options.includeId) rows cs := by
  rw [collections_eq_mapM, mapM_ok_iff]
  simp only [collection_ok_iff]

theorem collections_error_iff (options : CatalogOptions) {rows : List CatalogRow}
    {fault : CatalogFault} :
    collections options rows = .error fault ↔ ∃ before row after, rows = before ++ row :: after ∧
      (∀ r ∈ before, r.HoldsArray) ∧ row.Unreadable fault := by
  rw [collections_eq_mapM, mapM_error_iff]
  simp only [exists_collection_iff, collection_error_iff]

theorem document_ok_iff {rows : List CatalogRow} {d : Document} : document options rows = .ok d ↔
    List.Forall₂ (CatalogRow.TakenOver options.includeId) (kept options rows) d.collections := by
  obtain ⟨ds⟩ := d
  rw [← collections_ok_iff]
  unfold document
  cases collections options (kept options rows) with
  | error fault => simp
  | ok cs => simp

theorem document_error_iff {rows : List CatalogRow} {fault : CatalogFault} :
    document options rows = .error fault ↔ ∃ before row after,
      kept options rows = before ++ row :: after ∧ (∀ r ∈ before, r.HoldsArray) ∧
        row.Unreadable fault := by
  rw [← collections_error_iff options]
  unfold document
  cases collections options (kept options rows) with
  | error fault => simp
  | ok cs => simp

theorem exists_document_iff {rows : List CatalogRow} :
    (∃ d, document options rows = .ok d) ↔ ∀ row ∈ kept options rows, row.HoldsArray := by
  simp only [← exists_collection_iff options, ← exists_forall₂_iff,
    document_ok_iff, collection_ok_iff]
  constructor
  · rintro ⟨d, h⟩
    exact ⟨d.collections, h⟩
  · rintro ⟨cs, h⟩
    exact ⟨⟨cs⟩, h⟩

/-! ## Skipped rows -/

/-- All rows are taken over, or those that are none of the store itself. -/
theorem kept_eq (options : CatalogOptions) (rows : List CatalogRow) : kept options rows =
    if options.includeSystem then rows else rows.filter fun row => !row.isSystem := by
  cases h : options.includeSystem <;> simp [kept, h]

theorem kept_filter {rows : List CatalogRow} (h : options.includeSystem = false) :
    kept options (rows.filter fun row => !row.isSystem) = kept options rows := by
  simp [kept, h, List.filter_filter]

/-- What a skipped row holds does not decide whether it is skipped. -/
theorem filter_withFields (text : CatalogRow → String) (rows : List CatalogRow) :
    (rows.map fun row => if row.isSystem then row.withFields (text row) else row).filter
      (fun row => !row.isSystem) = rows.filter fun row => !row.isSystem := by
  induction rows with
  | nil => rfl
  | cons row rest ih =>
    rw [List.map_cons]
    by_cases hsystem : row.isSystem = true
    · have hother : (row.withFields (text row)).isSystem = true := hsystem
      rw [if_pos hsystem, List.filter_cons_of_neg (by simp [hother]), ih,
        List.filter_cons_of_neg (by simp [hsystem])]
    · rw [if_neg hsystem, List.filter_cons, List.filter_cons, ih]

end Catalog

/-- Rows of the store itself that are not asked for leave no trace, whatever text their fields are.
The rows that are asked for give one collection each, in their order, if each of them holds an
array; otherwise the first that does not is reported. -/
theorem skipped_rows_have_no_influence (options : CatalogOptions) (rows : List CatalogRow) :
    let asked := if options.includeSystem then rows else rows.filter fun row => !row.isSystem
    (options.includeSystem = false →
      Catalog.document options rows =
        Catalog.document options (rows.filter fun row => !row.isSystem) ∧
      ∀ text : CatalogRow → String, Catalog.document options (rows.map fun row =>
          if row.isSystem then row.withFields (text row) else row) =
        Catalog.document options rows) ∧
    ((∃ d, Catalog.document options rows = .ok d) ↔ ∀ row ∈ asked, row.HoldsArray) ∧
    (∀ d, Catalog.document options rows = .ok d ↔
      List.Forall₂ (CatalogRow.TakenOver options.includeId) asked d.collections) ∧
    (∀ fault, Catalog.document options rows = .error fault ↔ ∃ before row after,
      asked = before ++ row :: after ∧ (∀ r ∈ before, r.HoldsArray) ∧ row.Unreadable fault) := by
  dsimp only
  rw [← Catalog.kept_eq]
  refine ⟨fun h => ⟨?_, fun text => ?_⟩, Catalog.exists_document_iff,
    fun _ => Catalog.document_ok_iff, fun _ => Catalog.document_error_iff⟩
  · unfold Catalog.document
    rw [Catalog.kept_filter h]
  · unfold Catalog.document
    rw [← Catalog.kept_filter h, Catalog.filter_withFields, Catalog.kept_filter h]

/-- A row of the store itself that holds no JSON. -/
def noiseRow : CatalogRow :=
  { id := "pbc_noise", name := "_noise", kind := "base", isSystem := true, fields := "[" }

/-- What is taken over from the clips: their title, but not their id. -/
theorem takenOver_clips : ∃ clips, List.Forall₂ (CatalogRow.TakenOver false) clipRows [clips] ∧
    clips.id = some "pbc_clips" ∧ clips.name = "clips" ∧
      (Json.array clips.fields).compactText =
        "[\x7b\"name\":\"title\",\"type\":\"plainText\"\x7d]" := by
  have htaken : (clipRows.map fun row => (Catalog.collection ⟨false, false⟩ row).toOption.map
      fun c => (c.id, c.name, (Json.array c.fields).compactText)) =
        [some (some "pbc_clips", "clips",
          "[\x7b\"name\":\"title\",\"type\":\"plainText\"\x7d]")] := by
    decide +kernel
  obtain ⟨row, hrows⟩ : ∃ row, clipRows = [row] := ⟨_, rfl⟩
  rw [hrows, List.map_singleton] at htaken
  obtain ⟨clips, hclips, hshown⟩ := Option.map_eq_some_iff.mp (List.head_eq_of_cons_eq htaken)
  rw [Prod.mk.injEq, Prod.mk.injEq] at hshown
  obtain ⟨hid, hname, htext⟩ := hshown
  have hcollection : Catalog.collection ⟨false, false⟩ row = .ok clips := by
    cases h : Catalog.collection ⟨false, false⟩ row with
    | error fault =>
      rw [h] at hclips
      cases hclips
    | ok c =>
      rw [h] at hclips
      exact congrArg Except.ok (Option.some.inj hclips)
  rw [hrows]
  exact ⟨clips, .cons (Catalog.collection_ok_iff.mp hcollection) .nil, hid, hname, htext⟩

/-- The noise is skipped, and the clips are taken over. Only a catalog that is taken over with the
rows of the store fails on the noise. -/
theorem the_noise_before_the_clips_is_not_read :
    (∀ j, Json.parse noiseRow.fields ≠ .ok j) ∧
      Catalog.document ⟨false, false⟩ (noiseRow :: clipRows) =
        Catalog.document ⟨false, false⟩ clipRows ∧
      (∃ clips, Catalog.document ⟨false, false⟩ (noiseRow :: clipRows) = .ok ⟨[clips]⟩ ∧
        clips.id = some "pbc_clips" ∧ clips.name = "clips" ∧
        (Json.array clips.fields).compactText =
          "[\x7b\"name\":\"title\",\"type\":\"plainText\"\x7d]") ∧
      Catalog.document ⟨true, false⟩ (noiseRow :: clipRows) = .error ⟨"_noise", .notJson⟩ := by
  have hparse : (Json.parse noiseRow.fields).toOption = none := by decide +kernel
  have hnoise : ∀ j, Json.parse noiseRow.fields ≠ .ok j := by
    intro j hj
    rw [hj] at hparse
    cases hparse
  obtain ⟨hskipped, -, hdocument, -⟩ :=
    skipped_rows_have_no_influence ⟨false, false⟩ (noiseRow :: clipRows)
  obtain ⟨-, -, -, herror⟩ := skipped_rows_have_no_influence ⟨true, false⟩ (noiseRow :: clipRows)
  obtain ⟨clips, hclips, hshown⟩ := takenOver_clips
  refine ⟨hnoise, (hskipped rfl).1, ⟨clips, (hdocument ⟨[clips]⟩).mpr hclips, hshown⟩, ?_⟩
  refine (herror _).mpr ⟨[], noiseRow, clipRows, rfl, ?_, ?_⟩
  · exact List.forall_mem_nil _
  · exact ⟨fun ⟨items, hitems⟩ => hnoise _ hitems, rfl, iff_of_true rfl hnoise⟩

end StoreClient
