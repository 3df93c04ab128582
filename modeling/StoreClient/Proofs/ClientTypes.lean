-- What the text of the generated client says of its types, collection by collection: the
-- properties of every object type are the names that one of the shapes has, under whatever key
-- these are written. Only the name of a collection may say something of types besides.
import StoreClient.Proofs.TextLines
import StoreClient.Proofs.TypeBodies

namespace StoreClient

/-! ## What the client is to say -/

namespace Bundle

/-- The names of the values of a fetched record: an id, declared or not, and those of its fields. -/
def recordNames (b : Bundle) : List String :=
  (if (b.readField? "id").isSome then [] else ["id"]) ++ b.read.map (·.name)

theorem recordNames_ne_nil (b : Bundle) : b.recordNames ≠ [] := by
  unfold recordNames
  split
  · rename_i hid
    obtain ⟨f, hf⟩ := Option.isSome_iff_exists.mp hid
    have hmem := List.mem_map_of_mem (f := (·.name)) (List.mem_of_find?_eq_some hf)
    exact List.ne_nil_of_mem hmem
  · exact List.cons_ne_nil _ _

open ClientText (TypeBody)

/-- What the client says of the types of a collection, by what their names end in. -/
def typeBodies (b : Bundle) : List (String × TypeBody) :=
  let related := TypeBody.object (b.expand.map (·.field))
  [("", .object b.recordNames), ("Serialized", .object b.recordNames),
    ("Create", .object (b.create.map (·.name))),
    ("CreateSerialized", .object (b.create.map (·.wireKey))),
    ("Update", .object (b.update.map (·.name))),
    ("UpdateSerialized", .object (b.update.map (·.wireKey)))] ++
  (if b.hasExpansion then
    [("Expand", related), ("ExpandSerialized", related),
      ("Expanded", .extended b.typeName "expand"),
      ("ExpandedSerialized", .extended (b.typeName ++ "Serialized") "expand")]
  else [("Expanded", .other), ("ExpandedSerialized", .other)]) ++
  [("FieldName", .texts b.recordNames),
    ("ExpandOptions", if b.hasExpansion then related else .other), ("ListOptions", .other)]

def types (b : Bundle) : List (String × TypeBody) :=
  b.typeBodies.map fun (ending, body) => (b.typeName ++ ending, body)

/-- What the name of a collection says of types, on lines past its comment. -/
def titleTypes (b : Bundle) : List (String × TypeBody) :=
  ClientText.types (shownLines ("// " ++ b.name))

end Bundle

/-! ## Reading the types of a collection -/

/-- Views that have the keys of some entries, under these names in memory and in the store. -/
def FieldView.KeysOf {α : Type} (name wireName : α → String) (v : FieldView) (entry : α) : Prop :=
  v.key = Member.key (name entry) ∧ v.wireKey = Member.key (wireName entry)

/-- The view of a change has its keys, be it a patch or not. -/
theorem FieldView.keysOf_ofUpdates (number : Nat) (fs : List WriteField) :
    List.Forall₂ (KeysOf WriteField.name WriteField.wireKey) (ofUpdates number fs).1 fs := by
  induction fs generalizing number with
  | nil => exact .nil
  | cons f rest ih =>
    unfold ofUpdates
    split
    · exact .cons ⟨rfl, rfl⟩ (ih (number + 1))
    · exact .cons ⟨rfl, rfl⟩ (ih number)

namespace ClientText

section

variable {α : Type} {name wireName : α → String} {vs : List FieldView} {entries : List α}
  (h : List.Forall₂ (FieldView.KeysOf name wireName) vs entries)

include h

theorem properties_modelProperties : properties (vs.flatMap modelProperty) = entries.map name := by
  induction h with
  | nil => rfl
  | cons hkeys _ ih =>
    rw [List.flatMap_cons, properties_append, properties_modelProperty hkeys.1, ih]
    rfl

theorem properties_wireProperties : properties (vs.map wireProperty) = entries.map wireName := by
  apply properties_of_lines
  rw [List.forall₂_map_left_iff, List.forall₂_map_right_iff]
  exact h.imp fun v _ hkeys => ⟨v.isOptional, v.wireType, by rw [wireProperty, hkeys.2]⟩

end

/-- One property for each relation, whatever its type. -/
theorem properties_relations (type : ExpansionView → String) (es : List Expansion) :
    properties ((es.map ExpansionView.ofExpansion).map fun e => property e.key true (type e)) =
      es.map (·.field) := by
  apply properties_of_lines
  rw [List.forall₂_map_left_iff, List.forall₂_map_left_iff, List.forall₂_map_right_iff,
    List.forall₂_same]
  exact fun e _ => ⟨true, _, rfl⟩

theorem properties_idProperty (v : BundleView) (type : String) :
    properties (idProperty v type) = if v.hasIdField then [] else ["id"] := by
  unfold idProperty
  split
  · rfl
  · apply properties_of_lines
    have hid : Member.key "id" = "id" := rfl
    exact .cons ⟨false, type, by rw [hid]⟩ .nil

theorem beginsBlank_collectionCode (v : BundleView) : BeginsBlank (collectionCode v) := by
  rintro _ ⟨⟩
  rfl

theorem types_title (name : String) : types ["// " ++ name] = [] := by
  apply types_eq_nil
  simp [declared, declared?, declaredIn?, nameAfter?, List.isPrefixOf?]

section

variable {b : Bundle} (h : IsTypeName b.typeName)

include h

theorem types_recordTypes : types (recordTypes (BundleView.ofBundle b)) =
    [("", .object b.recordNames), ("Serialized", .object b.recordNames),
      ("Create", .object (b.create.map (·.name))),
      ("CreateSerialized", .object (b.create.map (·.wireKey))),
      ("Update", .object (b.update.map (·.name))),
      ("UpdateSerialized", .object (b.update.map (·.wireKey)))].map
        fun (ending, body) => (b.typeName ++ ending, body) := by
  have hread : List.Forall₂ (FieldView.KeysOf ReadField.name ReadField.name)
      (BundleView.ofBundle b).read b.read := by
    apply List.forall₂_map_left_iff.mpr
    exact List.forall₂_same.mpr fun f _ => ⟨rfl, rfl⟩
  have hcreate : List.Forall₂ (FieldView.KeysOf WriteField.name WriteField.wireKey)
      (BundleView.ofBundle b).create b.create := by
    apply List.forall₂_map_left_iff.mpr
    exact List.forall₂_same.mpr fun f _ => ⟨rfl, rfl⟩
  have hupdate : List.Forall₂ (FieldView.KeysOf WriteField.name WriteField.wireKey)
      (BundleView.ofBundle b).update b.update := FieldView.keysOf_ofUpdates 0 b.update
  have hname : (BundleView.ofBundle b).typeName = b.typeName := rfl
  rw [← hname] at h
  simp only [recordTypes, types_append _ (beginsBlank_objectType _ _)]
  rw [types_objectType (isWord_of_isTypeName h) (List.forall_mem_append.mpr
      ⟨indented_idProperty _ _, indented_modelProperties _⟩),
    types_objectType (isWord_typeName_append h rfl) (List.forall_mem_append.mpr
      ⟨indented_idProperty _ _, indented_wireProperties _⟩),
    types_objectType (isWord_typeName_append h rfl) (indented_modelProperties _),
    types_objectType (isWord_typeName_append h rfl) (indented_wireProperties _),
    types_objectType (isWord_typeName_append h rfl) (indented_modelProperties _),
    types_objectType (isWord_typeName_append h rfl) (indented_wireProperties _),
    properties_append, properties_append, properties_idProperty, properties_idProperty,
    properties_modelProperties hread, properties_wireProperties hread,
    properties_modelProperties hcreate, properties_wireProperties hcreate,
    properties_modelProperties hupdate, properties_wireProperties hupdate]
  simp [hname, Bundle.recordNames]
  rfl

omit h in
theorem hasExpansion_ofBundle : (BundleView.ofBundle b).hasExpansion = b.hasExpansion := by
  simp [BundleView.hasExpansion, Bundle.hasExpansion, BundleView.ofBundle]

theorem types_expandedTypes : types (expandedTypes (BundleView.ofBundle b)) =
    (if b.hasExpansion then
      [("Expand", .object (b.expand.map (·.field))),
        ("ExpandSerialized", .object (b.expand.map (·.field))),
        ("Expanded", .extended b.typeName "expand"),
        ("ExpandedSerialized", .extended (b.typeName ++ "Serialized") "expand")]
    else [("Expanded", .other), ("ExpandedSerialized", .other)]).map
      fun (ending, body) => (b.typeName ++ ending, body) := by
  have hname : (BundleView.ofBundle b).typeName = b.typeName := rfl
  have hproperties (ending : String) : properties ((BundleView.ofBundle b).expand.map
      (expandProperty ending)) = b.expand.map (·.field) := properties_relations _ _
  rw [← hname] at h
  unfold expandedTypes
  rw [hasExpansion_ofBundle]
  split
  · simp only [types_append _ (beginsBlank_objectType _ _),
      types_append _ (beginsBlank_aliasType _ _)]
    rw [types_objectType (isWord_typeName_append h rfl) (indented_expandProperties _ _),
      types_objectType (isWord_typeName_append h rfl) (indented_expandProperties _ _),
      types_aliasType (isWord_typeName_append h rfl),
      types_aliasType (isWord_typeName_append h rfl),
      ofLine_withExpand (isWord_of_isTypeName h) (isWord_typeName_append h rfl),
      ofLine_withExpand (isWord_typeName_append h rfl) (isWord_typeName_append h rfl),
      hproperties, hproperties]
    rfl
  · simp only [types_append _ (beginsBlank_aliasType _ _)]
    rw [types_aliasType (isWord_typeName_append h rfl),
      types_aliasType (isWord_typeName_append h rfl), ofLine_word (isWord_of_isTypeName h),
      ofLine_word (isWord_typeName_append h rfl)]
    rfl

theorem types_optionTypes : types (optionTypes (BundleView.ofBundle b)) =
    [("FieldName", .texts b.recordNames),
      ("ExpandOptions", if b.hasExpansion then .object (b.expand.map (·.field)) else .other),
      ("ListOptions", .other)].map fun (ending, body) => (b.typeName ++ ending, body) := by
  have hname : (BundleView.ofBundle b).typeName = b.typeName := rfl
  have hnames : (BundleView.ofBundle b).fieldNames =
      "|".intercalate (b.recordNames.map Literal.ofString) := rfl
  rw [← hname] at h
  have hlist : TypeBody.ofLine ("ListOptions<" ++ (BundleView.ofBundle b).typeName ++
      "ExpandOptions, " ++ (BundleView.ofBundle b).typeName ++ "FieldName>" ++ ";").toList =
        .other := by
    simp only [String.append_assoc, String.toList_append]
    rfl
  unfold optionTypes
  dsimp only
  rw [types_append _ (beginsBlank_aliasType _ _), types_aliasType (isWord_typeName_append h rfl),
    hlist, hasExpansion_ofBundle]
  split
  · rw [types_append _ (beginsBlank_objectType _ _), types_aliasType (isWord_typeName_append h rfl),
      types_objectType (isWord_typeName_append h rfl)
        (List.forall_mem_map.mpr fun _ _ => indented_property _ _ _),
      hnames, ofLine_union b.recordNames_ne_nil]
    have hproperties := properties_relations (fun e => e.typeName ++ "ExpandOptions") b.expand
    rw [BundleView.ofBundle, hproperties]
    rfl
  · rw [types_append _ (beginsBlank_aliasType _ _), types_aliasType (isWord_typeName_append h rfl),
      types_aliasType (isWord_typeName_append h rfl), hnames, ofLine_union b.recordNames_ne_nil]
    rfl

/-- The part of a collection says of its types what it is to say. -/
theorem types_collectionCode : types (collectionCode (BundleView.ofBundle b)) = b.types := by
  have hfunctions : types (functions (BundleView.ofBundle b)) = [] := by
    apply types_eq_nil
    intro name hname
    rw [declared_functions h] at hname
    obtain ⟨_, -, hname⟩ := List.mem_map.mp hname
    cases hname
  rw [collectionCode, types_append _ (beginsBlank_functions _),
    types_append _ (beginsBlank_optionTypes _), types_append _ (beginsBlank_expandedTypes _),
    hfunctions, types_recordTypes h, types_expandedTypes h, types_optionTypes h, Bundle.types,
    Bundle.typeBodies, List.map_append, List.map_append, List.append_nil]

theorem types_collection : types (collection (BundleView.ofBundle b)) = b.types := by
  have htitle : types ["", "// " ++ (BundleView.ofBundle b).name] = [] := by
    rw [types_cons rfl, types_title]
  rw [collection_eq, types_append _ (beginsBlank_collectionCode _), htitle, types_collectionCode h,
    List.nil_append]

theorem types_shownCollection :
    types (shownCollection (BundleView.ofBundle b)) = b.titleTypes ++ b.types := by
  rw [shownCollection, types_append _ (beginsBlank_collectionCode _), types_cons rfl,
    types_collectionCode h]
  rfl

end

theorem beginsBlank_collections (vs : List BundleView) :
    BeginsBlank (vs.flatMap shownCollection) := by
  cases vs with
  | nil => nofun
  | cons v vs =>
    rintro _ ⟨⟩
    rfl

theorem types_collections {bs : List Bundle} (h : ∀ b ∈ bs, IsTypeName b.typeName) :
    types ((bs.map BundleView.ofBundle).flatMap shownCollection) =
      bs.flatMap fun b => b.titleTypes ++ b.types := by
  induction bs with
  | nil => rfl
  | cons b bs ih =>
    rw [List.forall_mem_cons] at h
    rw [List.map_cons, List.flatMap_cons, List.flatMap_cons,
      types_append _ (beginsBlank_collections _), types_shownCollection h.1, ih h.2]

/-- The lines of an entry inside of it are no properties of the table. -/
theorem properties_tableEntry (b : Bundle) :
    properties (tableEntry (BundleView.ofBundle b)) = [b.name] := by
  have hfirst : property? ("  " ++ (BundleView.ofBundle b).nameLiteral ++ ": \x7b").toList =
      some b.name := by
    have hkey := property?_of_key? (by decide) (key?_quote b.name (':' :: " \x7b".toList))
    simpa [BundleView.ofBundle] using hkey
  have hdeeper (rest : List Char) : property? (' ' :: ' ' :: ' ' :: rest) = none := rfl
  have hlast : property? "  \x7d;".toList = none := rfl
  simp only [properties, tableEntry, List.map_cons, List.map_nil, List.filterMap_cons,
    List.filterMap_nil, hfirst, hlast]
  simp [hdeeper]

theorem types_table (bs : List Bundle) : types (table (bs.map BundleView.ofBundle)) =
    [("CollectionTypes", .object (bs.map (·.name)))] := by
  have hfirst : declared? "export interface CollectionTypes \x7b" =
      some (.type "CollectionTypes") := rfl
  have hopen : "export interface CollectionTypes \x7b".toList.getLast? = some '\x7b' := rfl
  have hproperties : properties ((bs.map BundleView.ofBundle).flatMap tableEntry) =
      bs.map (·.name) := by
    induction bs with
    | nil => rfl
    | cons b bs ih =>
      rw [List.map_cons, List.flatMap_cons, properties_append, properties_tableEntry, ih]
      rfl
  rw [table, types_block hfirst hopen (indented_tableEntries _) rfl (by simp [Indented]),
    hproperties]

/-- What the lines before the collections say. -/
def helperBodies : List (String × TypeBody) :=
  [("Flavored", .other), ("Email", .other), ("Url", .other), ("RichText", .other),
    ("RecordId", .other), ("GeoPoint", .other), ("ExpandTree", .other),
    ("ListOptions", .object
      ["page", "perPage", "sort", "filter", "expand", "fields", "skipTotal"]),
    ("ListResult", .object ["page", "perPage", "totalItems", "totalPages", "items"])]

/-- What the lines after the collections say, given the names of the collections. -/
def clientBodies (names : List String) : List (String × TypeBody) :=
  [("CollectionTypes", .object names), ("CollectionName", .other),
    ("TypedClient", .object ["getOne", "getList", "create", "update", "delete"])]

theorem types_preamble : types preamble = helperBodies := by
  apply types_of_chars
  · repeat' constructor
  · rfl

theorem types_interface : types interface =
    [("CollectionName", .other),
      ("TypedClient", .object ["getOne", "getList", "create", "update", "delete"])] := by
  apply types_of_chars
  · repeat' constructor
  · rfl

end ClientText

/-- What the name of a collection says of types: nothing, if it keeps to its comment. -/
theorem Bundle.titleTypes_eq_nil {b : Bundle} (h : KeepsToLine b.name) : b.titleTypes = [] := by
  rw [titleTypes, shownLines_comment ((ClientText.keepsToLine_comment_iff b.name).mpr h)]
  exact ClientText.types_title b.name

open ClientText in
/-- What the text of a client says of types: that of every client, and that of each collection
after what the name of the collection says. -/
theorem Schema.types_clientText {s : Schema} (hunbroken : ∀ v ∈ s.views, v.Unbroken)
    (h : ∀ b ∈ s.bundles, IsTypeName b.typeName) : types (textLines s.clientText) =
      helperBodies ++ s.bundles.flatMap (fun b => b.titleTypes ++ b.types) ++
        clientBodies (s.bundles.map (·.name)) := by
  have hend : BeginsBlank [""] := by
    rintro _ ⟨⟩
    rfl
  have hinterface : BeginsBlank interface := by
    rintro _ ⟨⟩
    rfl
  have htable : BeginsBlank (table s.views) := by
    rintro _ ⟨⟩
    rfl
  have htitle : declared? ("// Generated by " ++ generatorName ++ ". Do not edit.") = none := by
    simp [declared?, declaredIn?, nameAfter?, List.isPrefixOf?]
  rw [textLines_clientText hunbroken, types_append _ hend, types_append _ hinterface,
    types_append _ htable, types_append _ (beginsBlank_collections _), types_cons htitle,
    types_preamble, views, types_collections h, types_table, types_interface,
    List.append_assoc _ [_]]
  exact List.append_nil _

theorem Document.types_clientText {policy : EmptyListPolicy} {d : Document} {s : Schema}
    (h : d.compile policy = .ok s) : ClientText.types (textLines s.clientText) =
      ClientText.helperBodies ++ s.bundles.flatMap (fun b => b.titleTypes ++ b.types) ++
        ClientText.clientBodies (s.bundles.map (·.name)) := by
  refine Schema.types_clientText (unbroken_views h) ?_
  obtain ⟨cs, -, husable, -, -, rfl⟩ := (d.compile_ok_iff policy s).mp h
  exact List.forall_mem_map.mpr fun c hc => (husable c hc).1

end StoreClient
