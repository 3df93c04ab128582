-- The types of field values, free of any output language, and their JSON form.
import StoreClient.Json.Decode

namespace StoreClient

/-- Whether a field holds one value or a list of values. -/
inductive Cardinality where
  | single
  | multiple
deriving DecidableEq, Repr, Inhabited

/-- What a text means beyond being a text. -/
inductive Flavor where
  | email
  | url
  | richText
deriving DecidableEq, Repr, Inhabited

/-- The type of a field's value. -/
inductive ValueType where
  | string
  | number
  | boolean
  /-- Any JSON value. -/
  | unknown
  /-- A point in time. -/
  | temporal
  | flavored (flavor : Flavor)
  /-- The id of a related record. -/
  | recordId
  /-- The name of a file that the store already has. -/
  | fileRef
  /-- The bytes of a file to be sent. -/
  | binary
  /-- A pair of coordinates. -/
  | geoPoint
  /-- One text of a list. -/
  | literals (values : List String)
  | list (item : ValueType)
  | nullable (inner : ValueType)
  /-- The inner value, nothing, or the empty value of its shape. -/
  | clearable (inner : ValueType)
deriving DecidableEq, Repr, Inhabited

namespace Cardinality

/-- The names of the cardinalities, as declarations and bundles write them. -/
def variants : List (String × Cardinality) := [("single", single), ("multiple", multiple)]

def ofName? (name : String) : Option Cardinality := variants.lookup name

def name : Cardinality → String
  | single => "single"
  | multiple => "multiple"

def isMultiple : Cardinality → Bool
  | single => false
  | multiple => true

/-- A list of the items if there may be several. -/
def apply : Cardinality → ValueType → ValueType
  | single, item => item
  | multiple, item => .list item

def toJson (c : Cardinality) : Json := .text c.name

def decode : Decoder Cardinality := Decode.choice variants

end Cardinality

namespace Flavor

def variants : List (String × Flavor) :=
  [("email", email), ("url", url), ("rich_text", richText)]

def name : Flavor → String
  | email => "email"
  | url => "url"
  | richText => "rich_text"

def toJson (f : Flavor) : Json := .text f.name

def decode : Decoder Flavor := Decode.choice variants

end Flavor

namespace ValueType

/-- A nullable type if the flag is set. -/
def nullableIf (t : ValueType) (flag : Bool) : ValueType := if flag then nullable t else t

def isNullable : ValueType → Bool
  | nullable _ => true
  | _ => false

def isList : ValueType → Bool
  | list _ => true
  | _ => false

/-! ## The JSON form -/

/-- The word that names the outermost layer of a type. -/
def kind : ValueType → String
  | string => "string"
  | number => "number"
  | boolean => "boolean"
  | unknown => "unknown"
  | temporal => "temporal"
  | flavored _ => "flavored"
  | recordId => "record_id"
  | fileRef => "file_ref"
  | binary => "binary"
  | geoPoint => "geo_point"
  | literals _ => "literals"
  | list _ => "list"
  | nullable _ => "nullable"
  | clearable _ => "clearable"

def toJson : ValueType → Json
  | flavored f => .object [("kind", .text "flavored"), ("flavor", f.toJson)]
  | literals values => .object [("kind", .text "literals"), ("values", .array (values.map .text))]
  | list item => .object [("kind", .text "list"), ("item", item.toJson)]
  | nullable inner => .object [("kind", .text "nullable"), ("inner", inner.toJson)]
  | clearable inner => .object [("kind", .text "clearable"), ("inner", inner.toJson)]
  | t => .object [("kind", .text t.kind)]

/-- The tagged form: the kind, then at most one field. -/
def tagged : Decode.Tagged where
  name := "TypeRef"
  tag := "kind"
  variants := ["string", "number", "boolean", "unknown", "temporal", "flavored", "record_id",
    "file_ref", "binary", "geo_point", "literals", "list", "nullable", "clearable"]

/-- A draft with the type it decodes to, should it be the inner type of another. -/
abbrev Part := Draft × Except DecodeError ValueType

/-- The type of a variant and what stands beside it. -/
def ofVariant (variant : String) (content : Decode.Content Part) :
    Except DecodeError ValueType :=
  let plain (t : ValueType) : Except DecodeError ValueType :=
    match content.nothing with
    | .ok () => .ok t
    | .error e => .error e
  match variant with
  | "string" => plain string
  | "number" => plain number
  | "boolean" => plain boolean
  | "unknown" => plain unknown
  | "temporal" => plain temporal
  | "record_id" => plain recordId
  | "file_ref" => plain fileRef
  | "binary" => plain binary
  | "geo_point" => plain geoPoint
  | "flavored" =>
    (content.field "TypeRef::Flavored" "flavor" fun p => Flavor.decode .buffered p.1).map flavored
  | "literals" =>
    (content.field "TypeRef::Literals" "values" fun p =>
      Decode.list Decode.text .buffered p.1).map literals
  | "list" => (content.field "TypeRef::List" "item" fun p => p.2).map list
  | "nullable" => (content.field "TypeRef::Nullable" "inner" fun p => p.2).map nullable
  | _ => (content.field "TypeRef::Clearable" "inner" fun p => p.2).map clearable

mutual

/-- The type of a draft that has been read whole. -/
def ofDraft : Draft → Except DecodeError ValueType
  | .object members ending => do
    let variant ← tagged.variantIn .buffered (.object members ending)
    ofVariant variant (tagged.beside (partsOfMembers members))
  | .array items ending => do
    let variant ← tagged.variantIn .buffered (.array items ending)
    ofVariant variant (.items ((partsOfItems items).drop 1))
  | d => .error (Decode.wrongType "internally tagged enum TypeRef" d)

def partsOfItems : List Draft → List Part
  | [] => []
  | d :: rest => (d, ofDraft d) :: partsOfItems rest

def partsOfMembers : List (Draft × Draft) → List (Draft × Part)
  | [] => []
  | (k, d) :: rest => (k, d, ofDraft d) :: partsOfMembers rest

end

/-- The tag of the outermost layer is looked at while the text is read, inner layers after it. -/
def decode : Decoder ValueType := fun o d => do
  let _ ← tagged.variantIn o d
  ofDraft d

end ValueType

end StoreClient
