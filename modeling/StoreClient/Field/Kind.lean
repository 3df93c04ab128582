-- The kinds of field that a schema may declare. The registry lists them with the tags
-- that declarations use; a tag that is not listed names no kind.
import StoreClient.Json.Decode

namespace StoreClient

/-- What kind of value a field holds. -/
inductive Kind where
  | plainText | richText | email | url | number | relation | dateTime | autoDateTime
  | boolean | json | select | file | geoPoint | password
deriving DecidableEq, Repr, Inhabited

namespace Kind

/-- The kinds in the order of the registry. -/
def all : List Kind :=
  [plainText, richText, email, url, number, relation, dateTime, autoDateTime,
   boolean, json, select, file, geoPoint, password]

/-- The `type` of a declaration of this kind. -/
def tag : Kind → String
  | plainText => "plainText"
  | richText => "richText"
  | email => "email"
  | url => "url"
  | number => "number"
  | relation => "relation"
  | dateTime => "datetime"
  | autoDateTime => "autodate"
  | boolean => "boolean"
  | json => "json"
  | select => "select"
  | file => "file"
  | geoPoint => "geoPoint"
  | password => "password"

/-- The name of the kind itself. -/
def name : Kind → String
  | plainText => "PlainText"
  | richText => "RichText"
  | email => "Email"
  | url => "Url"
  | number => "Number"
  | relation => "Relation"
  | dateTime => "DateTime"
  | autoDateTime => "AutoDateTime"
  | boolean => "Boolean"
  | json => "Json"
  | select => "Select"
  | file => "File"
  | geoPoint => "GeoPoint"
  | password => "Password"

def variants : List (String × Kind) := all.map fun k => (k.tag, k)

/-- The kind of a tag, if it is registered. -/
def ofTag? (tag : String) : Option Kind := all.find? fun k => k.tag = tag

/-- The registry entry of a kind, as a debugging text. -/
def shown (k : Kind) : String :=
  "KindDescriptor \x7b kind: " ++ k.name ++ ", tag: \"" ++ k.tag ++ "\", .. \x7d"

def toJson (k : Kind) : Json := .text k.tag

def decode : Decoder Kind := Decode.choice variants

end Kind

end StoreClient
