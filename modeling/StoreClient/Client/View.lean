-- What the generated client says about each collection, piece by piece: every name, type
-- and expression is text here, and what is left is to lay the pieces out.
import StoreClient.Bundle.Encoding
import StoreClient.Client.Conversion
import StoreClient.Client.Member
import StoreClient.Client.TypeText

namespace StoreClient

/-- A field of one of the shapes. -/
structure FieldView where
  name : String
  /-- The key in the type of records in memory. -/
  key : String
  /-- The key in the type of records as the store has them. -/
  wireKey : String
  isOptional : Bool
  modelType : String
  wireType : String
  /-- The expression from the store to memory, if the value changes. -/
  parser : Option String
  /-- The expression from memory to the store, if the value changes. -/
  serializer : Option String
  doc : Option String
deriving DecidableEq, Repr, Inhabited

/-- A relation. -/
structure ExpansionView where
  key : String
  /-- The related records inside a record as the store sends it. -/
  value : String
  typeName : String
  isMultiple : Bool
deriving DecidableEq, Repr, Inhabited

/-- A collection. -/
structure BundleView where
  name : String
  /-- The name in quotes. -/
  nameLiteral : String
  typeName : String
  pluralTypeName : String
  /-- Whether a fetched record has a declared field `id`; every record has an id all the same. -/
  hasIdField : Bool
  read : List FieldView
  create : List FieldView
  update : List FieldView
  /-- For each patch, what takes it out of a change to a record. -/
  companionBindings : List String
  expand : List ExpansionView
  /-- The names of the fields of a fetched record, as a type. -/
  fieldNames : String
deriving DecidableEq, Repr, Inhabited

namespace FieldView

/-- The variable that the generated functions take records in. -/
def record : String := "record"

def ofRead (f : ReadField) : FieldView :=
  let value := Member.access record f.name
  { name := f.name, key := Member.key f.name, wireKey := Member.key f.name, isOptional := false,
    modelType := f.modelType.text, wireType := f.wireType.text,
    parser := f.parse.map (·.parsing value), serializer := f.serialize.map (·.serializing value),
    doc := f.doc }

def ofWrite (f : WriteField) : FieldView :=
  let value := Member.access record f.name
  { name := f.name, key := Member.key f.name, wireKey := Member.key f.wireKey,
    isOptional := f.isOptional, modelType := f.modelType.text, wireType := f.wireType.text,
    parser := none, serializer := f.serialize.map (·.serializing value), doc := f.doc }

/-- The variable for a patch: its own name if that is plain, or else a name with its number. -/
def companionLocal (f : WriteField) (number : Nat) : String :=
  if Identifier.isPlain f.name.toList then f.name
  else "patch" ++ String.ofList (Number.natChars number)

/-- Takes a member of an object into a variable. -/
def binding (name localName : String) : String :=
  if name = localName then localName else Literal.ofString name ++ ": " ++ localName

/-- A patch that has been taken into a variable. -/
def ofCompanion (f : WriteField) (localName : String) : FieldView :=
  { ofWrite f with serializer := some ((f.serialize.map (·.serializing localName)).getD localName) }

/-- The fields of a change to a record, with the bindings of the patches among them; the first
number is that of the first patch. -/
def ofUpdates : Nat → List WriteField → List FieldView × List String
  | _, [] => ([], [])
  | number, f :: rest =>
    if f.isCompanion then
      let localName := companionLocal f number
      let (views, bindings) := ofUpdates (number + 1) rest
      (ofCompanion f localName :: views, binding f.name localName :: bindings)
    else
      let (views, bindings) := ofUpdates number rest
      (ofWrite f :: views, bindings)

end FieldView

def ExpansionView.ofExpansion (e : Expansion) : ExpansionView :=
  { key := Member.key e.field, value := Member.access "expand" e.field, typeName := e.typeName,
    isMultiple := e.cardinality.isMultiple }

namespace BundleView

def ofBundle (b : Bundle) : BundleView :=
  let hasIdField := (b.readField? "id").isSome
  let names := (if hasIdField then [] else ["id"]) ++ b.read.map (·.name)
  let (update, companionBindings) := FieldView.ofUpdates 0 b.update
  { name := b.name, nameLiteral := Literal.ofString b.name, typeName := b.typeName,
    pluralTypeName := b.pluralTypeName, hasIdField, read := b.read.map FieldView.ofRead,
    create := b.create.map FieldView.ofWrite, update, companionBindings,
    expand := b.expand.map ExpansionView.ofExpansion,
    fieldNames := "|".intercalate (names.map Literal.ofString) }

def hasCompanions (v : BundleView) : Bool := !v.companionBindings.isEmpty

def hasExpansion (v : BundleView) : Bool := !v.expand.isEmpty

end BundleView

/-- The name under which the generated client says what made it. -/
def generatorName : String := "pocketgen"

/-! ## The views as data for a template -/

def FieldView.toJson (v : FieldView) : Json :=
  .object
    [("name", .text v.name), ("key", .text v.key), ("wire_key", .text v.wireKey),
     ("optional", .bool v.isOptional), ("model_type", .text v.modelType),
     ("wire_type", .text v.wireType), ("parser", orNull .text v.parser),
     ("serializer", orNull .text v.serializer), ("doc", orNull .text v.doc)]

def ExpansionView.toJson (v : ExpansionView) : Json :=
  .object
    [("key", .text v.key), ("value", .text v.value), ("target_type_name", .text v.typeName),
     ("multiple", .bool v.isMultiple)]

def BundleView.toJson (v : BundleView) : Json :=
  .object
    [("name", .text v.name), ("name_literal", .text v.nameLiteral),
     ("type_name", .text v.typeName), ("plural_type_name", .text v.pluralTypeName),
     ("has_id_field", .bool v.hasIdField), ("read", .array (v.read.map (·.toJson))),
     ("create", .array (v.create.map (·.toJson))), ("update", .array (v.update.map (·.toJson))),
     ("has_companions", .bool v.hasCompanions),
     ("companion_bindings", .array (v.companionBindings.map .text)),
     ("has_expand", .bool v.hasExpansion), ("expand", .array (v.expand.map (·.toJson))),
     ("field_names", .text v.fieldNames)]

def Schema.views (s : Schema) : List BundleView := s.bundles.map BundleView.ofBundle

/-- What a template sees of a schema. -/
def Schema.viewsJson (s : Schema) : Json :=
  .object
    [("generator", .text generatorName), ("collections", .array (s.views.map (·.toJson)))]

end StoreClient
