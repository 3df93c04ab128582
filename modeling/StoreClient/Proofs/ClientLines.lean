-- The lines of the generated client. Each is one line of the text, except that the comment
-- with the name of a collection shows the name as it is; so every break in the text of a client
-- ends a line or stands in such a name.
import StoreClient.Proofs.Expansions
import StoreClient.Proofs.OneLine

namespace StoreClient

/-! ## Parts of lines -/

namespace ClientText

theorem oneLine_empty : OneLine "" := oneLine_of_chars rfl rfl

theorem oneLine_title : OneLine ("// Generated by " ++ generatorName ++ ". Do not edit.") := by
  simp only [oneLine_append]
  exact ⟨⟨oneLine_of_chars rfl rfl, oneLine_of_chars rfl rfl⟩, oneLine_of_chars rfl rfl⟩

theorem oneLine_preamble : ∀ line ∈ preamble, OneLine line := by
  apply oneLine_of_forall_chars
  · repeat' constructor
  · exact rfl

theorem oneLine_interface : ∀ line ∈ interface, OneLine line := by
  apply oneLine_of_forall_chars
  · repeat' constructor
  · exact rfl

theorem oneLine_property {key type : String} (hkey : OneLine key) (htype : OneLine type)
    (isOptional : Bool) : OneLine (property key isOptional type) := by
  have hmark : OneLine (if isOptional then "?" else "") := by
    split
    · exact oneLine_of_chars rfl rfl
    · exact oneLine_empty
  simp only [property, oneLine_append, hkey, htype, hmark, and_true]
  and_intros
  all_goals exact oneLine_of_chars rfl rfl

theorem oneLine_objectType {name : String} (hname : OneLine name) {properties : List String}
    (h : ∀ line ∈ properties, OneLine line) :
    ∀ line ∈ objectType name properties, OneLine line := by
  simp only [objectType, List.forall_mem_append, List.forall_mem_cons, List.not_mem_nil,
    false_implies, implies_true, and_true, oneLine_append, hname]
  refine ⟨⟨⟨oneLine_empty, ?_⟩, h⟩, ?_⟩
  · exact ⟨oneLine_of_chars rfl rfl, oneLine_of_chars rfl rfl⟩
  · exact oneLine_of_chars rfl rfl

theorem oneLine_aliasType {name type : String} (hname : OneLine name) (htype : OneLine type) :
    ∀ line ∈ aliasType name type, OneLine line := by
  simp only [aliasType, List.forall_mem_cons, List.not_mem_nil, false_implies, implies_true,
    and_true, oneLine_append, hname, htype]
  and_intros
  all_goals exact oneLine_of_chars rfl rfl

theorem oneLine_modelProperty {f : FieldView} (h : f.Unbroken) :
    ∀ line ∈ modelProperty f, OneLine line := by
  rw [modelProperty, List.forall_mem_append]
  refine ⟨?_, List.forall_mem_singleton.mpr (oneLine_property h.key h.modelType f.isOptional)⟩
  cases hdoc : f.doc with
  | none => exact fun line hline => absurd hline List.not_mem_nil
  | some doc =>
    simp only [docLines, List.forall_mem_singleton, oneLine_append]
    exact ⟨⟨oneLine_of_chars rfl rfl, h.doc doc hdoc⟩, oneLine_of_chars rfl rfl⟩

theorem oneLine_wireProperty {f : FieldView} (h : f.Unbroken) : OneLine (wireProperty f) :=
  oneLine_property h.wireKey h.wireType f.isOptional

theorem oneLine_modelProperties {fs : List FieldView} (h : ∀ f ∈ fs, f.Unbroken) :
    ∀ line ∈ fs.flatMap modelProperty, OneLine line := by
  intro line hline
  obtain ⟨f, hf, hline⟩ := List.mem_flatMap.mp hline
  exact oneLine_modelProperty (h f hf) line hline

theorem oneLine_wireProperties {fs : List FieldView} (h : ∀ f ∈ fs, f.Unbroken) :
    ∀ line ∈ fs.map wireProperty, OneLine line :=
  List.forall_mem_map.mpr fun f hf => oneLine_wireProperty (h f hf)

theorem oneLine_idProperty (v : BundleView) {type : String} (h : OneLine type) :
    ∀ line ∈ idProperty v type, OneLine line := by
  unfold idProperty
  split
  · exact fun line hline => absurd hline List.not_mem_nil
  · exact List.forall_mem_singleton.mpr
      (oneLine_property (oneLine_of_chars rfl rfl) h false)

theorem oneLine_replacements {fs : List FieldView} {expression : FieldView → Option String}
    {key : FieldView → String}
    (h : ∀ f ∈ fs, OneLine (key f) ∧ ∀ e ∈ expression f, OneLine e) :
    ∀ line ∈ fs.filterMap (fun f => (expression f).map (replacement (key f))), OneLine line := by
  intro line hline
  obtain ⟨f, hf, hline⟩ := List.mem_filterMap.mp hline
  obtain ⟨e, he, rfl⟩ := Option.map_eq_some_iff.mp hline
  simp only [replacement, oneLine_append, (h f hf).1, (h f hf).2 e he, and_true]
  and_intros
  all_goals exact oneLine_of_chars rfl rfl

theorem oneLine_parsed {fs : List FieldView} (h : ∀ f ∈ fs, f.Unbroken) :
    ∀ line ∈ fs.filterMap parsed, OneLine line :=
  oneLine_replacements fun f hf => ⟨(h f hf).key, (h f hf).parser⟩

theorem oneLine_serialized {fs : List FieldView} (h : ∀ f ∈ fs, f.Unbroken) :
    ∀ line ∈ fs.filterMap serialized, OneLine line :=
  oneLine_replacements fun f hf => ⟨(h f hf).wireKey, (h f hf).serializer⟩

theorem oneLine_returnWith {source : String} (hsource : OneLine source) {replaced : List String}
    (h : ∀ line ∈ replaced, OneLine line) : ∀ line ∈ returnWith source replaced, OneLine line := by
  simp only [returnWith, List.forall_mem_append, List.forall_mem_cons, List.not_mem_nil,
    false_implies, implies_true, and_true, oneLine_append, hsource]
  refine ⟨⟨⟨?_, ?_, ?_⟩, h⟩, ?_⟩
  all_goals exact oneLine_of_chars rfl rfl

theorem oneLine_function {name recordType resultType : String} (hname : OneLine name)
    (hrecord : OneLine recordType) (hresult : OneLine resultType) {body : List String}
    (h : ∀ line ∈ body, OneLine line) :
    ∀ line ∈ function name recordType resultType body, OneLine line := by
  simp only [function, List.forall_mem_append, List.forall_mem_cons, List.not_mem_nil,
    false_implies, implies_true, and_true, oneLine_append, hname, hrecord, hresult]
  refine ⟨⟨⟨oneLine_empty, ⟨⟨?_, ?_⟩, ?_⟩, ?_⟩, h⟩, ?_⟩
  all_goals exact oneLine_of_chars rfl rfl

theorem oneLine_parsedExpansion {e : ExpansionView} (h : e.Unbroken) :
    OneLine (parsedExpansion e) := by
  unfold parsedExpansion
  dsimp only
  split
  all_goals simp only [oneLine_append, h.key, h.value, h.typeName, and_true, true_and]
  all_goals and_intros
  all_goals exact oneLine_of_chars rfl rfl

/-! ### The part of a collection -/

/-- What follows the comment with the name of the collection. -/
def collectionCode (v : BundleView) : List String :=
  recordTypes v ++ expandedTypes v ++ optionTypes v ++ functions v

theorem collection_eq (v : BundleView) :
    collection v = ["", "// " ++ v.name] ++ collectionCode v := by
  simp only [collection, collectionCode, List.append_assoc]

section

variable {v : BundleView} (h : v.Unbroken)

include h

theorem oneLine_typeName_append {ending : String} (hending : OneLine ending) :
    OneLine (v.typeName ++ ending) :=
  (oneLine_append _ _).mpr ⟨h.typeName, hending⟩

theorem oneLine_append_typeName {start : String} (hstart : OneLine start) :
    OneLine (start ++ v.typeName) :=
  (oneLine_append _ _).mpr ⟨hstart, h.typeName⟩

theorem oneLine_recordTypes : ∀ line ∈ recordTypes v, OneLine line := by
  have hname {ending : String} (hending : OneLine ending) := oneLine_typeName_append h hending
  have hread := oneLine_modelProperties h.read
  have hreadWire := oneLine_wireProperties h.read
  have hid : ∀ line ∈ idProperty v "RecordId", OneLine line :=
    oneLine_idProperty v (oneLine_of_chars rfl rfl)
  have hidWire : ∀ line ∈ idProperty v "string", OneLine line :=
    oneLine_idProperty v (oneLine_of_chars rfl rfl)
  simp only [recordTypes, List.forall_mem_append]
  refine ⟨⟨⟨⟨⟨?_, ?_⟩, ?_⟩, ?_⟩, ?_⟩, ?_⟩
  · exact oneLine_objectType h.typeName (List.forall_mem_append.mpr ⟨hid, hread⟩)
  · exact oneLine_objectType (hname (oneLine_of_chars rfl rfl))
      (List.forall_mem_append.mpr ⟨hidWire, hreadWire⟩)
  · exact oneLine_objectType (hname (oneLine_of_chars rfl rfl))
      (oneLine_modelProperties h.create)
  · exact oneLine_objectType (hname (oneLine_of_chars rfl rfl))
      (oneLine_wireProperties h.create)
  · exact oneLine_objectType (hname (oneLine_of_chars rfl rfl))
      (oneLine_modelProperties h.update)
  · exact oneLine_objectType (hname (oneLine_of_chars rfl rfl))
      (oneLine_wireProperties h.update)

theorem oneLine_expandProperties {ending : String} (hending : OneLine ending) :
    ∀ line ∈ v.expand.map (expandProperty ending), OneLine line := by
  refine List.forall_mem_map.mpr fun e he => oneLine_property (h.expand e he).key ?_ true
  simp only [oneLine_append]
  refine ⟨⟨(h.expand e he).typeName, hending⟩, ?_⟩
  split
  · exact oneLine_of_chars rfl rfl
  · exact oneLine_empty

theorem oneLine_expandedTypes : ∀ line ∈ expandedTypes v, OneLine line := by
  have hname {ending : String} (hending : OneLine ending) := oneLine_typeName_append h hending
  have hexpand : OneLine (v.typeName ++ "Expand") := hname (oneLine_of_chars rfl rfl)
  have hexpandWire : OneLine (v.typeName ++ "ExpandSerialized") :=
    hname (oneLine_of_chars rfl rfl)
  have hexpanded : OneLine (v.typeName ++ "Expanded") := hname (oneLine_of_chars rfl rfl)
  have hexpandedWire : OneLine (v.typeName ++ "ExpandedSerialized") :=
    hname (oneLine_of_chars rfl rfl)
  have hwire : OneLine (v.typeName ++ "Serialized") := hname (oneLine_of_chars rfl rfl)
  have hwith {type expand : String} (htype : OneLine type) (hexpand : OneLine expand) :
      OneLine (withExpand type expand) := by
    simp only [withExpand, oneLine_append, htype, hexpand, true_and, and_true]
    exact ⟨oneLine_of_chars rfl rfl, oneLine_of_chars rfl rfl⟩
  unfold expandedTypes
  dsimp only
  split
  · simp only [List.forall_mem_append]
    refine ⟨⟨⟨?_, ?_⟩, ?_⟩, ?_⟩
    · exact oneLine_objectType hexpand
        (oneLine_expandProperties h (oneLine_of_chars rfl rfl))
    · exact oneLine_objectType hexpandWire
        (oneLine_expandProperties h (oneLine_of_chars rfl rfl))
    · exact oneLine_aliasType hexpanded (hwith h.typeName hexpand)
    · exact oneLine_aliasType hexpandedWire (hwith hwire hexpandWire)
  · rw [List.forall_mem_append]
    exact ⟨oneLine_aliasType hexpanded h.typeName, oneLine_aliasType hexpandedWire hwire⟩

theorem oneLine_optionTypes : ∀ line ∈ optionTypes v, OneLine line := by
  have hname {ending : String} (hending : OneLine ending) := oneLine_typeName_append h hending
  have hfieldName : OneLine (v.typeName ++ "FieldName") :=
    hname (oneLine_of_chars rfl rfl)
  have hexpand : OneLine (v.typeName ++ "ExpandOptions") :=
    hname (oneLine_of_chars rfl rfl)
  have hlist : OneLine (v.typeName ++ "ListOptions") := hname (oneLine_of_chars rfl rfl)
  have hoptions : ∀ line ∈ v.expand.map fun e =>
      property e.key true (e.typeName ++ "ExpandOptions"), OneLine line := by
    refine List.forall_mem_map.mpr fun e he => oneLine_property (h.expand e he).key ?_ true
    exact (oneLine_append _ _).mpr ⟨(h.expand e he).typeName, oneLine_of_chars rfl rfl⟩
  unfold optionTypes
  simp only [List.forall_mem_append]
  refine ⟨⟨oneLine_aliasType hfieldName h.fieldNames, ?_⟩, oneLine_aliasType hlist ?_⟩
  · split
    · exact oneLine_objectType hexpand hoptions
    · exact oneLine_aliasType hexpand (oneLine_of_chars rfl rfl)
  · simp only [oneLine_append, h.typeName, and_true]
    and_intros
    all_goals exact oneLine_of_chars rfl rfl

theorem oneLine_parseExpandedBody : ∀ line ∈ parseExpandedBody v, OneLine line := by
  have hexpand : ∀ line ∈ v.expand.map parsedExpansion, OneLine line :=
    List.forall_mem_map.mpr fun e he => oneLine_parsedExpansion (h.expand e he)
  unfold parseExpandedBody
  split
  all_goals simp only [List.forall_mem_append, List.forall_mem_cons, List.not_mem_nil,
    false_implies, implies_true, and_true, oneLine_append, h.typeName]
  · refine ⟨⟨?_, hexpand⟩, ?_⟩
    all_goals and_intros
    all_goals exact oneLine_of_chars rfl rfl
  · exact ⟨oneLine_of_chars rfl rfl, oneLine_of_chars rfl rfl⟩

theorem oneLine_serializeUpdateBody : ∀ line ∈ serializeUpdateBody v, OneLine line := by
  have hreplaced := oneLine_serialized h.update
  have hbindings : OneLine (", ".intercalate v.companionBindings) :=
    oneLine_intercalate (oneLine_of_chars rfl rfl) h.companionBindings
  unfold serializeUpdateBody
  dsimp only
  split
  · rw [List.forall_mem_cons]
    refine ⟨?_, oneLine_returnWith (oneLine_of_chars rfl rfl) hreplaced⟩
    simp only [oneLine_append, hbindings, and_true]
    exact ⟨oneLine_of_chars rfl rfl, oneLine_of_chars rfl rfl⟩
  · exact oneLine_returnWith (oneLine_of_chars rfl rfl) hreplaced

theorem oneLine_functions : ∀ line ∈ functions v, OneLine line := by
  have hname {ending : String} (hending : OneLine ending) := oneLine_typeName_append h hending
  have haround {start ending : String} (hstart : OneLine start) (hending : OneLine ending) :
      OneLine (start ++ v.typeName ++ ending) :=
    (oneLine_append _ _).mpr ⟨oneLine_append_typeName h hstart, hending⟩
  have hreturn {replaced : List String} (hreplaced : ∀ line ∈ replaced, OneLine line) :
      ∀ line ∈ returnWith "record" replaced, OneLine line :=
    oneLine_returnWith (oneLine_of_chars rfl rfl) hreplaced
  simp only [functions, List.forall_mem_append]
  refine ⟨⟨⟨⟨?_, ?_⟩, ?_⟩, ?_⟩, ?_⟩
  · exact oneLine_function (oneLine_append_typeName h (oneLine_of_chars rfl rfl))
      (hname (oneLine_of_chars rfl rfl)) h.typeName (hreturn (oneLine_parsed h.read))
  · exact oneLine_function
      (haround (oneLine_of_chars rfl rfl) (oneLine_of_chars rfl rfl))
      (hname (oneLine_of_chars rfl rfl)) (hname (oneLine_of_chars rfl rfl))
      (oneLine_parseExpandedBody h)
  · exact oneLine_function (oneLine_append_typeName h (oneLine_of_chars rfl rfl))
      h.typeName (hname (oneLine_of_chars rfl rfl)) (hreturn (oneLine_serialized h.read))
  · exact oneLine_function
      (haround (oneLine_of_chars rfl rfl) (oneLine_of_chars rfl rfl))
      (hname (oneLine_of_chars rfl rfl)) (hname (oneLine_of_chars rfl rfl))
      (hreturn (oneLine_serialized h.create))
  · exact oneLine_function
      (haround (oneLine_of_chars rfl rfl) (oneLine_of_chars rfl rfl))
      (hname (oneLine_of_chars rfl rfl)) (hname (oneLine_of_chars rfl rfl))
      (oneLine_serializeUpdateBody h)

theorem oneLine_tableEntry : ∀ line ∈ tableEntry v, OneLine line := by
  simp only [tableEntry, List.forall_mem_cons, List.not_mem_nil, false_implies, implies_true,
    and_true, oneLine_append, h.nameLiteral, h.typeName]
  and_intros
  all_goals exact oneLine_of_chars rfl rfl

theorem oneLine_collectionCode : ∀ line ∈ collectionCode v, OneLine line := by
  simp only [collectionCode, List.forall_mem_append]
  exact ⟨⟨⟨oneLine_recordTypes h, oneLine_expandedTypes h⟩, oneLine_optionTypes h⟩,
    oneLine_functions h⟩

end

theorem oneLine_table {vs : List BundleView} (h : ∀ v ∈ vs, v.Unbroken) :
    ∀ line ∈ table vs, OneLine line := by
  have hentries : ∀ line ∈ vs.flatMap tableEntry, OneLine line := by
    intro line hline
    obtain ⟨v, hv, hline⟩ := List.mem_flatMap.mp hline
    exact oneLine_tableEntry (h v hv) line hline
  simp only [table, List.forall_mem_append, List.forall_mem_cons, List.not_mem_nil, false_implies,
    implies_true, and_true]
  exact ⟨⟨⟨oneLine_empty, oneLine_of_chars rfl rfl⟩, hentries⟩,
    oneLine_of_chars rfl rfl⟩

/-! ### The whole client -/

section

variable {b : Char} (hb : IsBreak b)

include hb

theorem count_oneLine {lines : List String} (h : ∀ line ∈ lines, OneLine line) :
    (lines.flatMap String.toList).count b = 0 := by
  refine List.count_eq_zero_of_not_mem fun hmem => ?_
  obtain ⟨line, hline, hmem⟩ := List.mem_flatMap.mp hmem
  exact h line hline b hmem hb

theorem count_collection {v : BundleView} (h : v.Unbroken) :
    ((collection v).flatMap String.toList).count b = v.name.toList.count b := by
  have hmark : OneLine "// " := oneLine_of_chars rfl rfl
  have hempty := List.count_eq_zero_of_not_mem fun hmem => oneLine_empty b hmem hb
  have hzero := List.count_eq_zero_of_not_mem fun hmem => hmark b hmem hb
  rw [collection_eq, List.flatMap_append, List.count_append,
    count_oneLine hb (oneLine_collectionCode h), List.flatMap_cons, List.flatMap_singleton,
    List.count_append, String.toList_append, List.count_append, hempty, hzero]
  omega

/-- The only breaks inside of lines are those of the names of collections. -/
theorem count_lines {vs : List BundleView} (h : ∀ v ∈ vs, v.Unbroken) :
    ((lines vs).flatMap String.toList).count b = (vs.flatMap (·.name.toList)).count b := by
  have hstart := count_oneLine hb (List.forall_mem_cons.mpr ⟨oneLine_title, oneLine_preamble⟩)
  have hparts : ((vs.flatMap collection).flatMap String.toList).count b =
      (vs.flatMap (·.name.toList)).count b := by
    induction vs with
    | nil => rfl
    | cons v vs ih =>
      rw [List.forall_mem_cons] at h
      rw [List.flatMap_cons, List.flatMap_append, List.count_append, count_collection hb h.1,
        ih h.2, List.flatMap_cons, List.count_append]
  rw [lines]
  simp only [List.flatMap_append, List.count_append, hstart, hparts, Nat.zero_add, Nat.add_zero,
    count_oneLine hb (oneLine_table h), count_oneLine hb oneLine_interface]

end

end ClientText

/-- Every break in the text of a client ends a line of it or stands in the name of a
collection. -/
theorem Schema.count_clientText {s : Schema} (h : ∀ v ∈ s.views, v.Unbroken) {b : Char}
    (hb : IsBreak b) : s.clientText.toList.count b =
      (s.views.flatMap (·.name.toList)).count b +
        if b = '\n' then (ClientText.lines s.views).length else 0 := by
  have hends (lines : List String) : ((lines.map fun line => line ++ "\n").flatMap
      String.toList).count b = (lines.flatMap String.toList).count b +
        if b = '\n' then lines.length else 0 := by
    induction lines with
    | nil => simp
    | cons line lines ih =>
      rw [List.map_cons, List.flatMap_cons, List.count_append, ih, String.toList_append,
        List.count_append, List.flatMap_cons, List.count_append, List.length_cons]
      rcases hb with rfl | rfl
      · simp
        omega
      · simp
  rw [clientText, String.toList_join, hends, ClientText.count_lines hb h]

/-! ## Clients of documents -/

namespace Field

variable {policy : EmptyListPolicy} {f : Field}

theorem oneLine_doc? (f : Field) : ∀ e ∈ f.doc?, OneLine e := by
  intro e he
  unfold doc? at he
  split at he
  · cases he
    exact oneLine_of_chars rfl rfl
  · cases he
    exact oneLine_of_chars rfl rfl
  · cases he

theorem oneLine_readField {r : ReadField} (h : f.readField? policy = some r) :
    ∀ e ∈ r.doc, OneLine e := by
  unfold readField? at h
  obtain ⟨t, -, rfl⟩ := Option.map_eq_some_iff.mp h
  exact f.oneLine_doc?

theorem oneLine_createField {e : WriteField} (h : f.createField? policy = some e) :
    ∀ doc ∈ e.doc, OneLine doc := by
  unfold createField? at h
  split at h
  · cases h
  · cases h
    exact f.oneLine_doc?
  · cases h
    exact f.oneLine_doc?
  · obtain ⟨t, -, rfl⟩ := Option.map_eq_some_iff.mp h
    exact f.oneLine_doc?

theorem oneLine_updateFields {e : WriteField} (h : e ∈ f.updateFields policy) :
    ∀ doc ∈ e.doc, OneLine doc := by
  unfold updateFields at h
  split at h
  · cases h
  · rename_i c required hform
    rcases List.mem_cons.mp h with rfl | h
    · exact f.oneLine_doc?
    · cases c with
      | single => cases h
      | multiple =>
        obtain ⟨op, -, rfl⟩ := List.mem_map.mp h
        exact fun doc hdoc => absurd hdoc (Option.not_mem_none doc)
  · exact oneLine_createField (Option.mem_toList.mp h)

end Field

theorem Collection.unbroken_shapes (policy : EmptyListPolicy) {cs : List Collection}
    {c : Collection} (husable : ∀ c ∈ cs, c.Usable) (hc : c ∈ cs) :
    (c.shapes policy cs).Unbroken where
  typeName := oneLine_of_isWord (ClientText.isWord_of_isTypeName (husable c hc).1)
  read r hr := by
    obtain ⟨f, -, hf⟩ := List.mem_filterMap.mp hr
    exact Field.oneLine_readField hf
  create e he := by
    obtain ⟨f, -, hf⟩ := List.mem_filterMap.mp he
    exact Field.oneLine_createField hf
  update e he := by
    obtain ⟨f, -, hf⟩ := List.mem_flatMap.mp he
    exact Field.oneLine_updateFields hf
  expand e he := by
    have hname : e.typeName ∈ (BundleView.ofBundle (c.shapes policy cs)).expandedTypeNames :=
      List.mem_cons_of_mem _ (List.mem_map.mpr ⟨_, List.mem_map_of_mem he, rfl⟩)
    obtain ⟨other, hother, heq⟩ := Collection.mem_expandedTypeNames hc hname
    rw [← heq]
    exact oneLine_of_isWord (ClientText.isWord_of_isTypeName (husable other hother).1)

theorem Document.unbroken_views {policy : EmptyListPolicy} {d : Document} {s : Schema}
    (h : d.compile policy = .ok s) : ∀ v ∈ s.views, v.Unbroken := by
  obtain ⟨cs, -, husable, -, -, rfl⟩ := (d.compile_ok_iff policy s).mp h
  simp only [Schema.views, List.map_map, List.forall_mem_map]
  exact fun c hc => BundleView.unbroken_ofBundle (Collection.unbroken_shapes policy husable hc)

/-- What the names of the collections of a document say, one after the other. -/
def Document.names (d : Document) : List Char := d.collections.flatMap (·.name.toList)

/-- The breaks in the text of the client of a document: one for each line, and those in the names
of its collections. -/
theorem Document.count_clientText {policy : EmptyListPolicy} {d : Document} {s : Schema}
    (h : d.compile policy = .ok s) {b : Char} (hb : IsBreak b) :
    s.clientText.toList.count b = d.names.count b +
      if b = '\n' then (ClientText.lines s.views).length else 0 := by
  have hunbroken := Document.unbroken_views h
  obtain ⟨cs, hcs, -, -, -, rfl⟩ := (d.compile_ok_iff policy s).mp h
  have hnames : d.collections.map (·.name.toList) = cs.map (·.name.toList) :=
    map_eq_of_forall₂ (hcs.imp fun _ _ hd => congrArg String.toList hd.name_eq.symm)
  have hflat : d.names = cs.flatMap (·.name.toList) := by
    simp only [names, List.flatMap_def, hnames]
  rw [Schema.count_clientText hunbroken hb, hflat]
  simp only [Schema.views, List.flatMap_map]
  rfl

end StoreClient
