-- The JSON form of schemas and bundles. Members stand in the order of the fields, and
-- what is missing is written as null.
import StoreClient.Bundle.Basic
import StoreClient.Json.Printer

namespace StoreClient

/-- Null if there is nothing. -/
def orNull {α : Type} (toJson : α → Json) : Option α → Json
  | some a => toJson a
  | none => .null

def ReadField.toJson (f : ReadField) : Json :=
  .object
    [("name", .text f.name), ("kind", f.kind.toJson), ("model_type", f.modelType.toJson),
     ("wire_type", f.wireType.toJson), ("parse", orNull Codec.toJson f.parse),
     ("serialize", orNull Codec.toJson f.serialize), ("doc", orNull .text f.doc)]

def WriteField.toJson (f : WriteField) : Json :=
  .object
    [("name", .text f.name), ("wire_key", .text f.wireKey), ("kind", f.kind.toJson),
     ("model_type", f.modelType.toJson), ("wire_type", f.wireType.toJson),
     ("optional", .bool f.isOptional), ("serialize", orNull Codec.toJson f.serialize),
     ("doc", orNull .text f.doc)]

def Expansion.toJson (e : Expansion) : Json :=
  .object
    [("field", .text e.field), ("target_collection", .text e.collection),
     ("target_type_name", .text e.typeName), ("cardinality", e.cardinality.toJson)]

def Bundle.toJson (b : Bundle) : Json :=
  .object
    [("name", .text b.name), ("id", orNull .text b.id), ("type_name", .text b.typeName),
     ("plural_type_name", .text b.pluralTypeName), ("read", .array (b.read.map (·.toJson))),
     ("create", .array (b.create.map (·.toJson))), ("update", .array (b.update.map (·.toJson))),
     ("expand", .array (b.expand.map (·.toJson)))]

def Schema.toJson (s : Schema) : Json :=
  .object [("collections", .array (s.bundles.map (·.toJson)))]

/-- The text of a schema as it is kept in a file. -/
def Schema.text (s : Schema) : String := s.toJson.prettyText

end StoreClient
