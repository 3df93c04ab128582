-- The text of a type in the generated client.
import StoreClient.Field.ValueType
import StoreClient.Text.Literal

namespace StoreClient

/-- The name of the type of texts with a meaning. -/
def Flavor.typeName : Flavor → String
  | email => "Email"
  | url => "Url"
  | richText => "RichText"

namespace ValueType

/-- The type of a list of items. Brackets bind tighter than bars, so a text with a bar in it is
put between the brackets of `Array`. -/
def listChars (item : List Char) : List Char :=
  if item.contains '|' then "Array<".toList ++ (item ++ ['>']) else item ++ ['[', ']']

/-- The text of a type: alternatives are joined by bars. -/
def chars : ValueType → List Char
  | string | fileRef => "string".toList
  | number => "number".toList
  | boolean => "boolean".toList
  | unknown => "unknown".toList
  | temporal => "Date".toList
  | flavored f => f.typeName.toList
  | recordId => "RecordId".toList
  | binary => "File".toList
  | geoPoint => "GeoPoint".toList
  | literals values => ['|'].intercalate (values.map fun v => Literal.quote v.toList)
  | list item => listChars item.chars
  | nullable inner => inner.chars ++ "|null".toList
  | clearable inner =>
    inner.chars ++ "|undefined|".toList ++ (if inner.isList then ['[', ']'] else ['"', '"'])

def text (t : ValueType) : String := String.ofList t.chars

end ValueType

end StoreClient
