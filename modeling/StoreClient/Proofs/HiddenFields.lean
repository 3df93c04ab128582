-- The law of related records: the client keeps those of a record under `expand`, beside the fields
-- of the record. Nothing keeps a field from having this name; then the two have one key, and what
-- takes the related records out of a record takes the field with them.
import StoreClient.Proofs.ClientTypes
import StoreClient.Proofs.DistinctProperties
import StoreClient.Proofs.Expansions
import StoreClient.Proofs.FunctionBodies
import StoreClient.Proofs.Members
import StoreClient.Proofs.ShapeOrder

namespace StoreClient

/-! ## Records with their related records -/

namespace ClientText

/-- The properties of a type among others: its own, or those of the type that it extends and one
more. -/
def propertiesOf? (ts : List (String × TypeBody)) (name : String) : Option (List String) :=
  match ts.lookup name with
  | some (.object properties) => some properties
  | some (.extended base property) =>
    match ts.lookup base with
    | some (.object properties) => some (properties ++ [property])
    | _ => none
  | _ => none

/-- The pattern that takes the related records out of a record. -/
def expandPattern : Pattern where
  bound := [("expand", "expand")]
  rest := "rest"
  source := "record"

theorem pattern?_expand :
    pattern? "  const \x7b expand, ...rest \x7d = record;".toList = some expandPattern := by cbv

/-- A record with its related records is taken apart before anything else. -/
theorem parseExpanded_takes {v : BundleView} (h : IsTypeName v.typeName)
    (hexpand : v.hasExpansion) :
    ∃ first rest, ("parse" ++ v.typeName ++ "Expanded", first :: rest) ∈
      functionBodies (collection v) ∧ pattern? first = some expandPattern := by
  have hbody : ∃ rest, parseExpandedBody v =
      "  const \x7b expand, ...rest \x7d = record;" :: rest := by
    rw [parseExpandedBody, if_pos hexpand]
    exact ⟨_, rfl⟩
  obtain ⟨rest, hbody⟩ := hbody
  refine ⟨"  const \x7b expand, ...rest \x7d = record;".toList, rest.map String.toList, ?_,
    pattern?_expand⟩
  rw [functionBodies_collection h, functionBodies_functions h, hbody]
  exact List.mem_cons_of_mem _ List.mem_cons_self

/-- Every field is left exactly when none is called `expand`. -/
theorem remaining_expand_iff (names : List String) :
    (∀ record, ∀ name ∈ names, expandPattern.remaining record name = record name) ↔
      "expand" ∉ names := by
  constructor
  · intro h hmem
    have hgone := h (fun _ => some .undefined) "expand" hmem
    cases hgone
  · intro hnew record name hname
    have hne : name ∉ expandPattern.bound.map (·.1) := by
      intro hbound
      obtain rfl := List.mem_singleton.mp hbound
      exact hnew hname
    exact if_neg hne

end ClientText

namespace Bundle

open ClientText (TypeBody)

variable {b : Bundle}

theorem lookup_types (b : Bundle) (ending : String) :
    b.types.lookup (b.typeName ++ ending) = b.typeBodies.lookup ending := by
  unfold types
  induction b.typeBodies with
  | nil => rfl
  | cons t rest ih =>
    obtain ⟨e, body⟩ := t
    simp only [List.map_cons, lookup_cons_if, String.append_right_inj, ih]

/-- A record with its related records has the properties of the record and one more. -/
theorem propertiesOf?_extended {ending : String} (base : String) {properties : List String}
    (hending : b.typeBodies.lookup ending = some (.extended (b.typeName ++ base) "expand"))
    (hbase : b.typeBodies.lookup base = some (.object properties)) :
    ClientText.propertiesOf? b.types (b.typeName ++ ending) = some (properties ++ ["expand"]) := by
  simp only [ClientText.propertiesOf?, lookup_types, hending, hbase]

theorem propertiesOf?_record (b : Bundle) :
    ClientText.propertiesOf? b.types b.typeName = some b.recordNames := by
  have hlookup := b.lookup_types ""
  rw [String.append_empty] at hlookup
  rw [ClientText.propertiesOf?, hlookup]
  rfl

theorem propertiesOf?_expanded (h : b.hasExpansion) :
    ClientText.propertiesOf? b.types (b.typeName ++ "Expanded") =
      some (b.recordNames ++ ["expand"]) := by
  refine propertiesOf?_extended "" ?_ rfl
  rw [typeBodies, if_pos h, String.append_empty]
  rfl

theorem propertiesOf?_expandedSerialized (h : b.hasExpansion) :
    ClientText.propertiesOf? b.types (b.typeName ++ "ExpandedSerialized") =
      some (b.recordNames ++ ["expand"]) := by
  refine propertiesOf?_extended "Serialized" ?_ rfl
  rw [typeBodies, if_pos h]
  rfl

/-- The name is one of a record only if it is that of a field, since it is not the id. -/
theorem expand_mem_recordNames_iff : "expand" ∈ b.recordNames ↔ "expand" ∈ b.read.map (·.name) := by
  unfold recordNames
  split <;> simp

end Bundle

/-- The lines of the client that are about a collection. -/
def Bundle.clientPart (b : Bundle) : List String :=
  ClientText.collection (BundleView.ofBundle b)

/-! ## Fields of that name -/

namespace CollectionDeclaration

/-- A field of this name is shown in a fetched record. -/
def ShowsField (d : CollectionDeclaration) (name : String) : Prop :=
  ∃ j ∈ d.fields, j.get? "name" = some (.text name) ∧ j.get? "type" ≠ some (.text "password")

def HasRelation (d : CollectionDeclaration) : Prop :=
  ∃ j ∈ d.fields, j.get? "type" = some (.text "relation")

namespace Declares

variable {d : CollectionDeclaration} {c : Collection} (h : d.Declares c)
  {policy : EmptyListPolicy} {all : List Collection}

include h

theorem mem_readNames_iff (name : String) :
    name ∈ (c.shapes policy all).read.map (·.name) ↔ d.ShowsField name := by
  have hread : (c.shapes policy all).read.map (·.name) =
      (c.fields.filter (·.kind ≠ .password)).map (·.name) :=
    map_filterMap_fields fun f _ => by simpa using f.map_readField? policy
  rw [hread, List.mem_map]
  simp only [List.mem_filter, decide_eq_true_eq, and_assoc]
  refine (exists_mem_iff_of_forall₂ h.fields fun j f hf => ?_).symm
  have hkind : f.kind = .password ↔ j.get? "type" = some (.text "password") :=
    Field.kind_iff_declared hf .password
  rw [Field.name_of_declaration hf, Option.some.injEq, Json.text.injEq, Ne, ← hkind]
  exact and_comm

theorem hasExpansion_iff (hresolve : ∀ f ∈ c.fields, f.Resolves all) :
    (c.shapes policy all).hasExpansion ↔ d.HasRelation := by
  have hfields : (c.shapes policy all).expand.map (·.field) =
      (c.fields.filter (·.kind = .relation)).map (·.name) :=
    map_filterMap_fields fun f hf => by simpa using Field.map_expansion? (hresolve f hf)
  have hempty : (c.shapes policy all).expand = [] ↔ c.fields.filter (·.kind = .relation) = [] := by
    rw [← List.map_eq_nil_iff (f := (·.field)), hfields, List.map_eq_nil_iff]
  have hsome : d.HasRelation ↔ ∃ f ∈ c.fields, f.kind = .relation :=
    exists_mem_iff_of_forall₂ h.fields fun j f hf => (Field.kind_iff_declared hf .relation).symm
  rw [hsome]
  simp [Bundle.hasExpansion, hempty]

end Declares

end CollectionDeclaration

/-! ## The law -/

/-- A collection with relations, and what its part of the client says of its records with their
related records: these have one property more, which is taken from them to parse the record. The
new property is none of the record, and no field of the record is lost, exactly when no field that
is shown is called `expand`. -/
structure ExpandsBeside (d : CollectionDeclaration) (b : Bundle) : Prop where
  record : ClientText.propertiesOf? (ClientText.types b.clientPart) b.typeName =
    some b.recordNames
  expanded : ClientText.propertiesOf? (ClientText.types b.clientPart) (b.typeName ++ "Expanded") =
    some (b.recordNames ++ ["expand"])
  serialized : ClientText.propertiesOf? (ClientText.types b.clientPart)
    (b.typeName ++ "ExpandedSerialized") = some (b.recordNames ++ ["expand"])
  parser : ∃ first rest, ("parse" ++ b.typeName ++ "Expanded", first :: rest) ∈
    ClientText.functionBodies b.clientPart ∧
      ClientText.pattern? first = some ClientText.expandPattern
  read_iff : (∀ r ∈ b.read, r.name ≠ "expand") ↔ ¬ d.ShowsField "expand"
  distinct_iff : (b.recordNames ++ ["expand"]).Nodup ↔ ¬ d.ShowsField "expand"
  keeps_iff : (∀ record, ∀ name ∈ b.recordNames,
    ClientText.expandPattern.remaining record name = record name) ↔ ¬ d.ShowsField "expand"

theorem CollectionDeclaration.Declares.expandsBeside {d : CollectionDeclaration} {c : Collection}
    (h : d.Declares c) (husable : c.Usable) (policy : EmptyListPolicy) (all : List Collection)
    (hexpand : (c.shapes policy all).hasExpansion) :
    ExpandsBeside d (c.shapes policy all) := by
  have htypes : ClientText.types (c.shapes policy all).clientPart =
      (c.shapes policy all).types := ClientText.types_collection husable.1
  have hread : "expand" ∈ (c.shapes policy all).read.map (·.name) ↔ d.ShowsField "expand" :=
    h.mem_readNames_iff "expand"
  have hshows : "expand" ∈ (c.shapes policy all).recordNames ↔ d.ShowsField "expand" :=
    Bundle.expand_mem_recordNames_iff.trans hread
  have hrecord := (Bundle.recordNames_once (h.keysApart policy all).read_names).1
  refine ⟨?_, ?_, ?_, ?_, ?_, ?_, ?_⟩
  · rw [htypes, Bundle.propertiesOf?_record]
  · rw [htypes, Bundle.propertiesOf?_expanded hexpand]
  · rw [htypes, Bundle.propertiesOf?_expandedSerialized hexpand]
  · have hview := ClientText.hasExpansion_ofBundle.trans hexpand
    exact ClientText.parseExpanded_takes husable.1 hview
  · rw [← hread, List.mem_map]
    simp only [not_exists, not_and, ne_eq]
  · rw [← hshows, ← List.concat_eq_append, List.nodup_concat]
    exact and_iff_left hrecord
  · rw [ClientText.remaining_expand_iff, hshows]

/-- Related records stand beside the fields of a record, and hide none, exactly in the collections
that show no field with their name. The part of a collection stands in the text of the client as it
is, unless the name of the collection goes past its comment. -/
theorem related_records_hide_only_their_namesake (policy : EmptyListPolicy) (d : Document)
    (s : Schema) (h : d.compile policy = .ok s) :
    List.Forall₂ (fun c b => c.HasRelation → ExpandsBeside c b) d.collections s.bundles ∧
    ∀ b ∈ s.bundles, KeepsToLine b.name → b.clientPart <:+: textLines s.clientText := by
  refine ⟨?_, fun b hb hname =>
    Schema.collection_infix_textLines (Document.unbroken_views h) (List.mem_map_of_mem hb) hname⟩
  obtain ⟨cs, hcs, husable, -, hresolve, rfl⟩ := (d.compile_ok_iff policy s).mp h
  rw [List.forall₂_map_right_iff]
  have hall := forall₂_and_right (forall₂_and_right hcs husable) hresolve
  refine hall.imp fun declaration c hc hrelation => ?_
  obtain ⟨⟨hdeclares, husable⟩, hresolve⟩ := hc
  exact hdeclares.expandsBeside husable policy cs
    ((hdeclares.hasExpansion_iff hresolve).mpr hrelation)

theorem the_library_hides_no_field : ∃ s, library.compile .null = .ok s ∧
    List.Forall₂ (fun c b => c.HasRelation → ExpandsBeside c b) library.collections s.bundles ∧
    ∃ b ∈ s.bundles, b.name = "books" ∧ b.clientPart <:+: textLines s.clientText := by
  obtain ⟨s, hs, b, hb, hname⟩ : ∃ s, library.compile .null = .ok s ∧
      ∃ b ∈ s.bundles, b.name = "books" := ⟨_, rfl, _, List.mem_cons_self, rfl⟩
  obtain ⟨hexpands, hparts⟩ := related_records_hide_only_their_namesake .null library s hs
  have hkeeps : KeepsToLine b.name := by
    rw [hname]
    exact keepsToLine_of_chars rfl rfl
  exact ⟨s, hs, hexpands, b, hb, hname, hparts b hb hkeeps⟩

/-- Folders: each says whether it is to be expanded, and may stand in another one. -/
def folders : Document where
  collections := [
    { id := none, name := "folders", singular := some "folder", plural := none, fields := [
      .object [("name", .text "expand"), ("type", .text "boolean")],
      .object [("name", .text "parent"), ("type", .text "relation"), ("to", .text "folders"),
        ("mode", .text "single")]] }]

/-- The document compiles, although the field is lost when a folder is parsed with its parent. -/
theorem the_folders_hide_a_field : ∃ s, folders.compile .null = .ok s ∧ ∃ b ∈ s.bundles,
    b.hasExpansion = true ∧ "expand" ∈ b.read.map (·.name) ∧
      ¬ (b.recordNames ++ ["expand"]).Nodup ∧ ∀ record,
        ClientText.expandPattern.remaining record "expand" = none :=
  ⟨_, rfl, _, List.mem_cons_self, rfl, List.mem_cons_self, by decide, fun _ => rfl⟩

end StoreClient
