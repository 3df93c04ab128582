-- Documents: the collections that a source declares, with the declarations of their
-- fields not yet looked at.
import StoreClient.Json.Decode

namespace StoreClient

/-- A collection as it is declared. -/
structure CollectionDeclaration where
  /-- The id in the store; relations may refer to it. -/
  id : Option String
  name : String
  /-- The name of a single record, if it is not the name of the collection. -/
  singular : Option String
  /-- The name of many records, if it is not the name of the collection. -/
  plural : Option String
  /-- The declarations of the fields, in order. -/
  fields : List Json
deriving Inhabited

/-- What a source hands over. -/
structure Document where
  collections : List CollectionDeclaration
deriving Inhabited

/-! ## The JSON form -/

/-- A member that is left out when there is no text. -/
def textMember (key : String) : Option String → List (String × Json)
  | some s => [(key, .text s)]
  | none => []

namespace CollectionDeclaration

def toJson (c : CollectionDeclaration) : Json :=
  .object (textMember "id" c.id ++ ("name", .text c.name) :: textMember "singular" c.singular ++
    textMember "plural" c.plural ++ [("fields", .array c.fields)])

/-- The fields read so far. -/
structure Partial where
  id : Option (Option String) := none
  name : Option String := none
  singular : Option (Option String) := none
  plural : Option (Option String) := none
  fields : Option (List Json) := none

/-- Only the name must be there. The fields may also be called `properties`. -/
def record : Decode.Record Partial CollectionDeclaration where
  name := "CollectionSchema"
  slots :=
    [Decode.slot "id" .always (Decode.optional Decode.text) (·.id) fun v s =>
       { s with id := some v },
     Decode.slot "name" .never Decode.text (·.name) fun v s => { s with name := v },
     Decode.slot "singular" .always (Decode.optional Decode.text) (·.singular) fun v s =>
       { s with singular := some v },
     Decode.slot "plural" .always (Decode.optional Decode.text) (·.plural) fun v s =>
       { s with plural := some v },
     { Decode.slot "fields" .always (Decode.list Decode.any) (·.fields) fun v s =>
         { s with fields := v } with aliases := ["properties"] }]
  start := {}
  finish := fun s => s.name.map fun name =>
    { id := s.id.join, name, singular := s.singular.join, plural := s.plural.join,
      fields := s.fields.getD [] }

def decode : Decoder CollectionDeclaration := record.decode

end CollectionDeclaration

namespace Document

def toJson (d : Document) : Json :=
  .object [("collections", .array (d.collections.map (·.toJson)))]

def record : Decode.Record (Option (List CollectionDeclaration)) Document where
  name := "SchemaDocument"
  slots := [Decode.slot "collections" .never (Decode.list CollectionDeclaration.decode) id
    fun v _ => some v]
  start := none
  finish := fun s => s.map Document.mk

def decode : Decoder Document := record.decode

end Document

end StoreClient
