-- The names that the generated client declares, read off its lines. A declaration stands at
-- the start of a line; everything inside one is indented, so it declares nothing.
import StoreClient.Client.Text
import StoreClient.Proofs.Compilation

namespace StoreClient

namespace ClientText

/-! ## Reading declarations -/

/-- What a line may declare, with its name. -/
inductive Declared where
  | type (name : String)
  | function (name : String)
deriving DecidableEq, Repr

/-- The name after a keyword, if a line starts with the keyword. -/
def nameAfter? (keyword : String) (line : List Char) : Option String :=
  (keyword.toList.isPrefixOf? line).map fun rest => String.ofList (rest.takeWhile Identifier.isPart)

/-- What the characters of a line declare, whether it exports it or not. -/
def declaredIn? (line : List Char) : Option Declared :=
  let line := ("export ".toList.isPrefixOf? line).getD line
  ((nameAfter? "type " line).map .type).or <|
    ((nameAfter? "interface " line).map .type).or <|
      (nameAfter? "function " line).map .function

def declared? (line : String) : Option Declared := declaredIn? line.toList

def declared (lines : List String) : List Declared := lines.filterMap declared?

/-- The names of the types among what is declared. -/
def declaredTypes (lines : List String) : List String :=
  (declared lines).filterMap fun
    | .type name => some name
    | .function _ => none

/-! ## Lines -/

/-- Fixed texts are read from their characters. -/
theorem map_toList_of_chars (texts : List String) {css : List (List Char)}
    (h : List.Forall₂ (fun text cs => text = String.ofList cs) texts css) :
    texts.map String.toList = css := by
  induction h with
  | nil => rfl
  | cons htext _ ih => rw [List.map_cons, ih, htext, String.toList_ofList]

theorem declared_of_chars {lines : List String} {css : List (List Char)} {ds : List Declared}
    (hlines : List.Forall₂ (fun line cs => line = String.ofList cs) lines css)
    (hds : css.filterMap declaredIn? = ds) : declared lines = ds := by
  rw [← hds, ← map_toList_of_chars lines hlines, List.filterMap_map]
  rfl

/-- What a test says of the characters of fixed texts holds of each of them. -/
theorem all_of_chars {texts : List String} {css : List (List Char)} {test : List Char → Bool}
    (htexts : List.Forall₂ (fun text cs => text = String.ofList cs) texts css)
    (h : css.all test = true) : ∀ text ∈ texts, test text.toList = true := by
  intro text htext
  rw [← map_toList_of_chars texts htexts, List.all_eq_true] at h
  exact h text.toList (List.mem_map_of_mem htext)

/-- A line in the inside of a declaration. -/
def Indented (line : String) : Prop := line.toList.head? = some ' '

theorem declared?_of_indented {line : String} (h : Indented line) : declared? line = none := by
  unfold Indented at h
  cases hline : line.toList with
  | nil => simp [hline] at h
  | cons c cs =>
    rw [hline] at h
    cases h
    simp [declared?, declaredIn?, nameAfter?, hline, List.isPrefixOf?]

theorem declared_of_indented {lines : List String} (h : ∀ line ∈ lines, Indented line) :
    declared lines = [] :=
  List.filterMap_eq_nil_iff.mpr fun line hline => declared?_of_indented (h line hline)

theorem declared_append (lines more : List String) :
    declared (lines ++ more) = declared lines ++ declared more :=
  List.filterMap_append

/-- A text of characters that may stand in a name. -/
def IsWord (name : String) : Prop := ∀ c ∈ name.toList, Identifier.isPart c

theorem IsWord.append {a b : String} (ha : IsWord a) (hb : IsWord b) : IsWord (a ++ b) := by
  intro c hc
  rw [String.toList_append, List.mem_append] at hc
  exact hc.elim (ha c) (hb c)

theorem isWord_of_isTypeName {name : String} (h : IsTypeName name) : IsWord name := by
  intro c hc
  rw [← Identifier.isTypeName_iff] at h
  cases hname : name.toList with
  | nil => simp [hname] at hc
  | cons first rest =>
    simp only [hname, Identifier.isTypeName, Bool.and_eq_true, List.all_eq_true] at h
    rw [hname] at hc
    simp only [Identifier.isPart, Bool.or_eq_true]
    rcases List.mem_cons.mp hc with rfl | hc
    · exact Or.inl (Or.inl (Or.inl h.1))
    · have := h.2 c hc
      simp only [Bool.or_eq_true] at this
      exact Or.inl this

theorem isWord_of_isPlain {name : String} (h : Identifier.isPlain name.toList) : IsWord name := by
  unfold IsWord
  cases hname : name.toList with
  | nil => exact fun c hc => absurd hc List.not_mem_nil
  | cons first rest =>
    rw [hname, Identifier.isPlain, Bool.and_eq_true, List.all_eq_true] at h
    rw [List.forall_mem_cons]
    exact ⟨Identifier.isPart_of_isStart h.1, h.2⟩

/-- A text that ends the name before it. -/
def EndsName (tail : String) : Prop := tail.toList.takeWhile Identifier.isPart = []

theorem takeWhile_isPart {name tail : String} (h : IsWord name) (ht : EndsName tail) :
    String.ofList ((name.toList ++ tail.toList).takeWhile Identifier.isPart) = name := by
  rw [List.takeWhile_append_of_pos h, ht, List.append_nil, String.ofList_toList]

theorem declared?_type {name tail : String} (h : IsWord name) (ht : EndsName tail) :
    declared? ("export type " ++ (name ++ tail)) = some (.type name) := by
  simp [declared?, declaredIn?, nameAfter?, List.isPrefixOf?, takeWhile_isPart h ht]

theorem declared?_function {name tail : String} (h : IsWord name) (ht : EndsName tail) :
    declared? ("export function " ++ (name ++ tail)) = some (.function name) := by
  simp [declared?, declaredIn?, nameAfter?, List.isPrefixOf?, takeWhile_isPart h ht]

/-! ## Parts of a client -/

/-- After a blank line, a line that declares something, an inside and an end that do not. -/
theorem declared_block {first last : String} {inside : List String} {d : Declared}
    (hfirst : declared? first = some d) (hin : ∀ line ∈ inside, Indented line)
    (hlast : declared? last = none) :
    declared (["", first] ++ inside ++ [last]) = [d] := by
  have hblank : declared? "" = none := rfl
  -- Only the first line is left: what is inside does not count, wherever it came from.
  rw [declared_append, declared_append, declared_of_indented hin]
  simp only [declared, List.filterMap_cons, List.filterMap_nil, hblank, hfirst, hlast]
  rfl

theorem declared_objectType {name : String} (h : IsWord name) {properties : List String}
    (hin : ∀ line ∈ properties, Indented line) :
    declared (objectType name properties) = [.type name] := by
  refine declared_block ?_ hin rfl
  rw [String.append_assoc]
  exact declared?_type h rfl

theorem declared_aliasType {name : String} (h : IsWord name) (type : String) :
    declared (aliasType name type) = [.type name] := by
  have hline : declared? ("export type " ++ name ++ " = " ++ type ++ ";") = some (.type name) := by
    simp only [String.append_assoc]
    refine declared?_type h ?_
    simp [EndsName, Identifier.isPart, Identifier.isAsciiLetter, Identifier.isAsciiDigit]
  have hblank : declared? "" = none := rfl
  simp only [aliasType, declared, List.filterMap_cons, List.filterMap_nil, hblank, hline]

theorem declared?_functionLine {name : String} (h : IsWord name) (recordType resultType : String) :
    declared? ("export function " ++ name ++ "(record: " ++ recordType ++ "): " ++ resultType ++
      " \x7b") = some (.function name) := by
  simp only [String.append_assoc]
  refine declared?_function h ?_
  simp [EndsName, Identifier.isPart, Identifier.isAsciiLetter, Identifier.isAsciiDigit]

theorem declared_function {name : String} (h : IsWord name) (recordType resultType : String)
    {body : List String} (hin : ∀ line ∈ body, Indented line) :
    declared (function name recordType resultType body) = [.function name] :=
  declared_block (declared?_functionLine h recordType resultType) hin rfl

/-! ### Insides -/

theorem indented_property (key : String) (isOptional : Bool) (type : String) :
    Indented (property key isOptional type) := by
  simp [Indented, property]

theorem indented_modelProperty (f : FieldView) : ∀ line ∈ modelProperty f, Indented line := by
  intro line hline
  rcases List.mem_append.mp hline with hdoc | hline
  · cases hf : f.doc with
    | none => simp [hf, docLines] at hdoc
    | some doc =>
      rw [hf] at hdoc
      obtain rfl := List.mem_singleton.mp hdoc
      simp [Indented]
  · obtain rfl := List.mem_singleton.mp hline
    exact indented_property _ _ _

theorem indented_modelProperties (fs : List FieldView) :
    ∀ line ∈ fs.flatMap modelProperty, Indented line := by
  intro line hline
  obtain ⟨f, -, hf⟩ := List.mem_flatMap.mp hline
  exact indented_modelProperty f line hf

theorem indented_wireProperties (fs : List FieldView) :
    ∀ line ∈ fs.map wireProperty, Indented line :=
  List.forall_mem_map.mpr fun _ _ => indented_property _ _ _

theorem indented_expandProperties (ending : String) (es : List ExpansionView) :
    ∀ line ∈ es.map (expandProperty ending), Indented line :=
  List.forall_mem_map.mpr fun _ _ => indented_property _ _ _

theorem indented_tableEntries (vs : List BundleView) :
    ∀ line ∈ vs.flatMap tableEntry, Indented line := by
  intro line hline
  obtain ⟨v, -, hv⟩ := List.mem_flatMap.mp hline
  simp only [tableEntry, List.mem_cons, List.not_mem_nil, or_false] at hv
  rcases hv with rfl | rfl | rfl | rfl | rfl | rfl | rfl | rfl
  all_goals simp [Indented]

theorem indented_idProperty (v : BundleView) (type : String) :
    ∀ line ∈ idProperty v type, Indented line := by
  unfold idProperty
  split
  · simp
  · simp [indented_property]

theorem indented_returnWith (source : String) {replaced : List String}
    (h : ∀ line ∈ replaced, Indented line) :
    ∀ line ∈ returnWith source replaced, Indented line := by
  simp only [returnWith, List.forall_mem_append]
  refine ⟨⟨?_, h⟩, ?_⟩
  · simp [Indented]
  · simp [Indented]

theorem indented_replacement (key value : String) : Indented (replacement key value) := by
  simp [Indented, replacement]

theorem indented_replacements {fs : List FieldView} (expression : FieldView → Option String)
    (key : FieldView → String) :
    ∀ line ∈ fs.filterMap (fun f => (expression f).map (replacement (key f))), Indented line := by
  intro line hline
  obtain ⟨f, -, hf⟩ := List.mem_filterMap.mp hline
  obtain ⟨value, -, rfl⟩ := Option.map_eq_some_iff.mp hf
  exact indented_replacement _ _

theorem indented_returnParsed (fs : List FieldView) :
    ∀ line ∈ returnWith "record" (fs.filterMap parsed), Indented line :=
  indented_returnWith "record" (indented_replacements (·.parser) (·.key))

theorem indented_returnSerialized (source : String) (fs : List FieldView) :
    ∀ line ∈ returnWith source (fs.filterMap serialized), Indented line :=
  indented_returnWith source (indented_replacements (·.serializer) (·.wireKey))

theorem indented_parseExpandedBody (v : BundleView) :
    ∀ line ∈ parseExpandedBody v, Indented line := by
  unfold parseExpandedBody
  split
  · simp only [List.forall_mem_append]
    refine ⟨⟨?_, ?_⟩, ?_⟩
    · simp [Indented]
    · simp [Indented, parsedExpansion]
    · simp [Indented]
  · simp [Indented]

theorem indented_serializeUpdateBody (v : BundleView) :
    ∀ line ∈ serializeUpdateBody v, Indented line := by
  unfold serializeUpdateBody
  dsimp only
  split
  · rw [List.forall_mem_cons]
    exact ⟨by simp [Indented], indented_returnSerialized "rest" v.update⟩
  · exact indented_returnSerialized "record" v.update

/-! ### The part of a collection -/

/-- What the names of the types of a collection end in, after its type name. -/
def endings (expands : Bool) : List String :=
  ["", "Serialized", "Create", "CreateSerialized", "Update", "UpdateSerialized"] ++
  (if expands then ["Expand", "ExpandSerialized"] else []) ++
  ["Expanded", "ExpandedSerialized", "FieldName", "ExpandOptions", "ListOptions"]

/-- The names of the functions of a collection. -/
def functionNames (name : String) : List String :=
  ["parse" ++ name, "parse" ++ name ++ "Expanded", "serialize" ++ name,
    "serialize" ++ name ++ "Create", "serialize" ++ name ++ "Update"]

section

variable {v : BundleView} (h : IsTypeName v.typeName)

include h

theorem isWord_typeName_append {ending : String} (hending : ending.toList.all Identifier.isPart) :
    IsWord (v.typeName ++ ending) :=
  (isWord_of_isTypeName h).append (List.all_eq_true.mp hending)

theorem isWord_append_typeName {start : String} (hstart : start.toList.all Identifier.isPart) :
    IsWord (start ++ v.typeName) :=
  IsWord.append (List.all_eq_true.mp hstart) (isWord_of_isTypeName h)

theorem isWord_append_typeName_append {start ending : String}
    (hstart : start.toList.all Identifier.isPart) (hending : ending.toList.all Identifier.isPart) :
    IsWord (start ++ v.typeName ++ ending) :=
  (isWord_append_typeName h hstart).append (List.all_eq_true.mp hending)

theorem declared_recordTypes : declared (recordTypes v) =
    ["", "Serialized", "Create", "CreateSerialized", "Update", "UpdateSerialized"].map
      fun ending => .type (v.typeName ++ ending) := by
  have hread : ∀ line ∈ idProperty v "RecordId" ++ v.read.flatMap modelProperty, Indented line :=
    List.forall_mem_append.mpr ⟨indented_idProperty v _, indented_modelProperties v.read⟩
  have hserialized : ∀ line ∈ idProperty v "string" ++ v.read.map wireProperty, Indented line :=
    List.forall_mem_append.mpr ⟨indented_idProperty v _, indented_wireProperties v.read⟩
  simp only [recordTypes, declared_append]
  rw [declared_objectType (isWord_of_isTypeName h) hread,
    declared_objectType (isWord_typeName_append h rfl) hserialized,
    declared_objectType (isWord_typeName_append h rfl) (indented_modelProperties v.create),
    declared_objectType (isWord_typeName_append h rfl) (indented_wireProperties v.create),
    declared_objectType (isWord_typeName_append h rfl) (indented_modelProperties v.update),
    declared_objectType (isWord_typeName_append h rfl) (indented_wireProperties v.update)]
  simp

theorem declared_expandedTypes : declared (expandedTypes v) =
    ((if v.hasExpansion then ["Expand", "ExpandSerialized"] else []) ++
      ["Expanded", "ExpandedSerialized"]).map fun ending => .type (v.typeName ++ ending) := by
  unfold expandedTypes
  split
  · simp only [declared_append]
    rw [declared_objectType (isWord_typeName_append h rfl) (indented_expandProperties _ _),
      declared_objectType (isWord_typeName_append h rfl) (indented_expandProperties _ _),
      declared_aliasType (isWord_typeName_append h rfl),
      declared_aliasType (isWord_typeName_append h rfl)]
    rfl
  · simp only [declared_append]
    rw [declared_aliasType (isWord_typeName_append h rfl),
      declared_aliasType (isWord_typeName_append h rfl)]
    rfl

theorem declared_optionTypes : declared (optionTypes v) =
    ["FieldName", "ExpandOptions", "ListOptions"].map
      fun ending => .type (v.typeName ++ ending) := by
  have hoptions : declared (if v.hasExpansion then
      objectType (v.typeName ++ "ExpandOptions") (v.expand.map fun e =>
        property e.key true (e.typeName ++ "ExpandOptions"))
      else aliasType (v.typeName ++ "ExpandOptions") "\x7b [relation: string]: never \x7d") =
      [.type (v.typeName ++ "ExpandOptions")] := by
    split
    · exact declared_objectType (isWord_typeName_append h rfl)
        (List.forall_mem_map.mpr fun _ _ => indented_property _ _ _)
    · exact declared_aliasType (isWord_typeName_append h rfl) _
  simp only [optionTypes, declared_append, hoptions]
  rw [declared_aliasType (isWord_typeName_append h rfl),
    declared_aliasType (isWord_typeName_append h rfl)]
  rfl

theorem declared_functions :
    declared (functions v) = (functionNames v.typeName).map .function := by
  simp only [functions, declared_append]
  rw [declared_function (isWord_append_typeName h rfl) _ _ (indented_returnParsed v.read),
    declared_function (isWord_append_typeName_append h rfl rfl) _ _ (indented_parseExpandedBody v),
    declared_function (isWord_append_typeName h rfl) _ _ (indented_returnSerialized _ v.read),
    declared_function (isWord_append_typeName_append h rfl rfl) _ _
      (indented_returnSerialized _ v.create),
    declared_function (isWord_append_typeName_append h rfl rfl) _ _
      (indented_serializeUpdateBody v)]
  rfl

/-- The part of a collection declares its types and its functions, and nothing else. -/
theorem declared_collection : declared (collection v) =
    (endings v.hasExpansion).map (fun ending => .type (v.typeName ++ ending)) ++
      (functionNames v.typeName).map .function := by
  have htitle : declared ["", "// " ++ v.name] = [] := by
    simp [declared, declared?, declaredIn?, nameAfter?, List.isPrefixOf?]
  simp only [collection, declared_append, htitle, declared_recordTypes h,
    declared_expandedTypes h, declared_optionTypes h, declared_functions h, endings,
    List.map_append, List.nil_append, List.append_assoc]
  rfl

end

/-! ### The whole client -/

/-- The types of the lines before the collections. -/
def helperTypes : List String :=
  ["Flavored", "Email", "Url", "RichText", "RecordId", "GeoPoint", "ExpandTree", "ListOptions",
    "ListResult"]

/-- The types of the lines after the collections. -/
def clientTypes : List String := ["CollectionTypes", "CollectionName", "TypedClient"]

/-- The names of the types of a collection. -/
def typeNames (v : BundleView) : List String :=
  (endings v.hasExpansion).map (v.typeName ++ ·)

theorem declaredTypes_append (lines more : List String) :
    declaredTypes (lines ++ more) = declaredTypes lines ++ declaredTypes more := by
  rw [declaredTypes, declared_append, List.filterMap_append]
  rfl

theorem declaredTypes_collection {v : BundleView} (h : IsTypeName v.typeName) :
    declaredTypes (collection v) = typeNames v := by
  simp [declaredTypes, declared_collection h, typeNames, functionNames, List.filterMap_map]

theorem declaredTypes_collections {vs : List BundleView} (h : ∀ v ∈ vs, IsTypeName v.typeName) :
    declaredTypes (vs.flatMap collection) = vs.flatMap typeNames := by
  induction vs with
  | nil => rfl
  | cons v vs ih =>
    rw [List.forall_mem_cons] at h
    rw [List.flatMap_cons, List.flatMap_cons, declaredTypes_append, declaredTypes_collection h.1,
      ih h.2]

theorem declared_preamble : declared preamble =
    ["Flavored", "Email", "Url", "RichText", "RecordId", "GeoPoint", "ExpandTree",
      "ListOptions"].map .type ++ ["expandQuery", "fieldsQuery"].map .function ++
      [.type "ListResult"] := by
  apply declared_of_chars
  · repeat' constructor
  · rfl

theorem declared_interface :
    declared interface = ["CollectionName", "TypedClient"].map .type := by
  apply declared_of_chars
  · repeat' constructor
  · rfl

theorem declared_table (vs : List BundleView) :
    declared (table vs) = [.type "CollectionTypes"] := by
  have hfirst : declared ["", "export interface CollectionTypes \x7b"] =
      [.type "CollectionTypes"] := by
    apply declared_of_chars
    · repeat' constructor
    · rfl
  rw [table, declared_append, declared_append, hfirst,
    declared_of_indented (indented_tableEntries vs)]
  rfl

/-- The types that a client declares: those of every client, and those of each collection. -/
theorem declaredTypes_lines {vs : List BundleView} (h : ∀ v ∈ vs, IsTypeName v.typeName) :
    declaredTypes (lines vs) = helperTypes ++ vs.flatMap typeNames ++ clientTypes := by
  have htitle : declared ["// Generated by " ++ generatorName ++ ". Do not edit."] = [] := by
    simp [declared, declared?, declaredIn?, nameAfter?, List.isPrefixOf?]
  have hstart : declaredTypes (("// Generated by " ++ generatorName ++ ". Do not edit.") ::
      preamble) = helperTypes := by
    rw [← List.singleton_append, declaredTypes, declared_append, htitle, declared_preamble]
    rfl
  have htable : declaredTypes (table vs) = ["CollectionTypes"] := by
    rw [declaredTypes, declared_table]
    rfl
  have hend : declaredTypes interface = ["CollectionName", "TypedClient"] := by
    rw [declaredTypes, declared_interface]
    rfl
  rw [lines, declaredTypes_append, declaredTypes_append, declaredTypes_append, hstart,
    declaredTypes_collections h, htable, hend, List.append_assoc _ ["CollectionTypes"]]
  rfl

end ClientText

end StoreClient
