-- What can be wrong with the declaration of one field.
import StoreClient.Field.Kind
import StoreClient.Json.Printer

namespace StoreClient

/-- The sorts of fault, over fields and collections alike. -/
inductive FaultSort where
  | malformedDeclaration
  | unknownKind
  | missingProperty
  | wrongPropertyType
  | invalidEnumValue
  | emptyValue
  | unresolvedRelation
  | duplicateName
deriving DecidableEq, Repr

def FaultSort.name : FaultSort → String
  | .malformedDeclaration => "MalformedDeclaration"
  | .unknownKind => "UnknownKind"
  | .missingProperty => "MissingProperty"
  | .wrongPropertyType => "WrongPropertyType"
  | .invalidEnumValue => "InvalidEnumValue"
  | .emptyValue => "EmptyValue"
  | .unresolvedRelation => "UnresolvedRelation"
  | .duplicateName => "DuplicateName"

/-- A property that only some kinds of field have. -/
inductive Property where
  | to | mode | required | options
deriving DecidableEq, Repr

def Property.key : Property → String
  | .to => "to"
  | .mode => "mode"
  | .required => "required"
  | .options => "options"

/-- What a property must be. -/
inductive Expected where
  | boolean | string | texts
deriving DecidableEq, Repr

def Expected.text : Expected → String
  | .boolean => "boolean"
  | .string => "string"
  | .texts => "non-empty array of strings"

/-- What is wrong with one property of a field. -/
inductive PropertyFault where
  | missing
  | wrongType (found : JsonType) (expected : Expected)
  | emptyText
  | notAMode (value : String)
  | emptyList
  | wrongElement (value : Json)
  | emptyElement

/-- What is wrong with a declaration. -/
inductive FieldFault where
  | notAnObject (found : JsonType)
  | missingName
  | nameNotText (found : JsonType)
  | emptyName
  | missingKind (field : String)
  | kindNotText (field : String) (found : JsonType)
  | emptyKind (field : String)
  | unknownKind (field : String) (tag : String)
  | property (field : String) (kind : Kind) (property : Property) (fault : PropertyFault)

namespace PropertyFault

def sort : PropertyFault → FaultSort
  | missing => .missingProperty
  | wrongType _ _ | wrongElement _ => .wrongPropertyType
  | notAMode _ => .invalidEnumValue
  | emptyText | emptyList | emptyElement => .emptyValue

/-- The message after the name of the property. -/
def message : PropertyFault → String
  | missing => "is missing"
  | wrongType found expected =>
    "is of type " ++ found.name ++ ". Must be " ++ expected.text
  | emptyText => "is empty string. Must be non-empty string"
  | notAMode value => "is \"" ++ value ++ "\". Must be one of [\"single\", \"multiple\"]"
  | emptyList => "is empty array. Must be non-empty array of strings"
  | wrongElement value =>
    "contains value " ++ value.compactText ++ " of type " ++ value.type.name ++
      ". All values must be non-empty strings"
  | emptyElement => "contains value empty string. All values must be non-empty strings"

end PropertyFault

namespace FieldFault

def sort : FieldFault → FaultSort
  | unknownKind _ _ => .unknownKind
  | property _ _ _ fault => fault.sort
  | _ => .malformedDeclaration

/-- The name of the field, if the declaration has a usable one. -/
def field? : FieldFault → Option String
  | missingKind field | kindNotText field _ | emptyKind field | unknownKind field _ => some field
  | property field _ _ _ => some field
  | _ => none

/-- The property at fault, if it is one. -/
def property? : FieldFault → Option Property
  | property _ _ p _ => some p
  | _ => none

def message : FieldFault → String
  | notAnObject found => "invalid field: expected an object, got " ++ found.name
  | missingName => "missing field name"
  | nameNotText found => "field name must be a string (is of type " ++ found.name ++ ")"
  | emptyName => "field name cannot be empty string"
  | missingKind field => "field " ++ field ++ ": type is missing"
  | kindNotText field found =>
    "field " ++ field ++ ": type is a " ++ found.name ++ ". Must be a non-empty string"
  | emptyKind field =>
    "field " ++ field ++ ": type is an empty string. Must be a non-empty string"
  | unknownKind field tag => "field " ++ field ++ ": unknown field kind \"" ++ tag ++ "\""
  | property field kind p fault =>
    kind.tag ++ " field " ++ field ++ ": property \"" ++ p.key ++ "\" " ++ fault.message

end FieldFault

end StoreClient
