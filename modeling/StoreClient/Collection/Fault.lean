-- What can be wrong with the collections of a document, taken one by one or together.
import StoreClient.Field.Fault

namespace StoreClient

/-- Why a document does not compile. -/
inductive SchemaFault where
  /-- The declaration at a position of a collection declares no field. -/
  | field (collection : String) (position : Nat) (fault : FieldFault)
  | duplicateField (collection field : String)
  /-- The collection at a position of the document has an empty name. -/
  | emptyName (position : Nat)
  | duplicateCollection (collection : String)
  | duplicateId (collection id : String)
  | unresolvedRelation (collection field target : String)
  | invalidTypeName (collection typeName : String)
  /-- The type name already belongs to another collection. -/
  | duplicateTypeName (collection other typeName : String)

namespace SchemaFault

def sort : SchemaFault → FaultSort
  | field _ _ fault => fault.sort
  | duplicateField _ _ | duplicateCollection _ | duplicateId _ _ | duplicateTypeName _ _ _ =>
    .duplicateName
  | emptyName _ | invalidTypeName _ _ => .malformedDeclaration
  | unresolvedRelation _ _ _ => .unresolvedRelation

/-- The collection at fault, unless it has no name. -/
def collection? : SchemaFault → Option String
  | field c _ _ | duplicateField c _ | duplicateCollection c | duplicateId c _
  | unresolvedRelation c _ _ | invalidTypeName c _ | duplicateTypeName c _ _ => some c
  | emptyName _ => none

/-- The fault of the field, if it is one. -/
def fieldFault? : SchemaFault → Option FieldFault
  | field _ _ fault => some fault
  | _ => none

def position (n : Nat) : String := "#" ++ String.ofList (Number.natChars n)

def message : SchemaFault → String
  | field c n fault =>
    "collection " ++ c ++ ": failed to parse field " ++ position n ++ ": " ++ fault.message
  | duplicateField c f => "collection " ++ c ++ ": duplicate field name \"" ++ f ++ "\""
  | emptyName n => "collection " ++ position n ++ ": name cannot be empty string"
  | duplicateCollection c => "duplicate collection name \"" ++ c ++ "\""
  | duplicateId c id => "collection " ++ c ++ ": duplicate collection id \"" ++ id ++ "\""
  | unresolvedRelation c f target =>
    "collection " ++ c ++ ": relation field " ++ f ++
      " references non-existent collection \"" ++ target ++ "\""
  | invalidTypeName c t =>
    "collection " ++ c ++ ": generated type name \"" ++ t ++ "\" is not a valid identifier"
  | duplicateTypeName c other t =>
    "collection " ++ c ++ ": generated type name \"" ++ t ++
      "\" is already used by collection " ++ other

end SchemaFault

end StoreClient
