-- Bundles: all that is generated for a collection, and the schema that holds the bundles
-- of all collections.
import StoreClient.Field.Shape

namespace StoreClient

/-- Where a relation leads. -/
structure Expansion where
  /-- The field of the relation. -/
  field : String
  /-- The name of the collection it leads to. -/
  collection : String
  /-- The type name of that collection. -/
  typeName : String
  cardinality : Cardinality
deriving DecidableEq, Repr, Inhabited

/-- The shapes of a collection. -/
structure Bundle where
  name : String
  id : Option String
  typeName : String
  pluralTypeName : String
  /-- The fields of a fetched record. -/
  read : List ReadField
  /-- The fields of a record to be created. -/
  create : List WriteField
  /-- The fields of a change to a record. -/
  update : List WriteField
  /-- One for each relation. -/
  expand : List Expansion
deriving DecidableEq, Repr, Inhabited

/-- What a document compiles to. -/
structure Schema where
  bundles : List Bundle
deriving DecidableEq, Repr, Inhabited

/-! ## Looking up -/

/-- The bundle of a collection. -/
def Schema.bundle? (s : Schema) (collection : String) : Option Bundle :=
  s.bundles.find? fun b => b.name = collection

namespace Bundle

def readField? (b : Bundle) (name : String) : Option ReadField :=
  b.read.find? fun f => f.name = name

def createField? (b : Bundle) (name : String) : Option WriteField :=
  b.create.find? fun f => f.name = name

def updateField? (b : Bundle) (name : String) : Option WriteField :=
  b.update.find? fun f => f.name = name

def hasExpansion (b : Bundle) : Bool := !b.expand.isEmpty

end Bundle

end StoreClient
