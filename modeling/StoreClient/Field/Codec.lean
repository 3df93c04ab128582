-- How a value travels between the store and a program: a rule turns the value that the
-- store sends into the value in memory, and the same rule turns it back.
import StoreClient.Field.ValueType
import StoreClient.Json.Printer
import StoreClient.Time.Instant

namespace StoreClient

/-- The value of the store that stands for nothing. -/
inductive Sentinel where
  | emptyString
  | emptyList
deriving DecidableEq, Repr, Inhabited

/-- A change to a list of files that leaves the rest of the list alone. -/
inductive Patch where
  | append
  | prepend
  | remove
deriving DecidableEq, Repr, Inhabited

/-- The rule of a field. -/
inductive Codec where
  /-- The text of an instant stands for the instant. -/
  | temporal
  /-- Likewise, and the empty text stands for nothing. -/
  | nullableTemporal
  /-- The sentinel stands for nothing, and every other value for itself. -/
  | emptyAsNull (sentinel : Sentinel)
  /-- The value stands for itself, but is sent under the key of a patch. -/
  | arrayPatch (op : Patch)
deriving DecidableEq, Repr, Inhabited

namespace Sentinel

def variants : List (String × Sentinel) :=
  [("empty_string", emptyString), ("empty_list", emptyList)]

def name : Sentinel → String
  | emptyString => "empty_string"
  | emptyList => "empty_list"

def toJson (s : Sentinel) : Json := .text s.name

def decode : Decoder Sentinel := Decode.choice variants

def wireValue : Sentinel → Json
  | emptyString => .text ""
  | emptyList => .array []

def isMatch : Sentinel → Json → Bool
  | emptyString, .text s => s.isEmpty
  | emptyList, .array items => items.isEmpty
  | _, _ => false

end Sentinel

namespace Patch

def all : List Patch := [append, prepend, remove]

def variants : List (String × Patch) :=
  [("append", append), ("prepend", prepend), ("remove", remove)]

def name : Patch → String
  | append => "append"
  | prepend => "prepend"
  | remove => "remove"

def toJson (p : Patch) : Json := .text p.name

def decode : Decoder Patch := Decode.choice variants

/-- The key under which the store expects the patch of a field. -/
def wireKey : Patch → String → String
  | append, field => field ++ "+"
  | prepend, field => "+" ++ field
  | remove, field => field ++ "-"

/-- The name of the patch of a field in memory. -/
def modelName : Patch → String → String
  | append, field => field ++ "Append"
  | prepend, field => field ++ "Prepend"
  | remove, field => field ++ "Remove"

end Patch

/-! ## Values in memory -/

/-- A value in memory. -/
inductive ModelValue where
  | null
  | temporal (instant : Instant)
  | value (value : Json)
deriving Inhabited

namespace ModelValue

/-- A value that no rule changes. -/
def ofWire : Json → ModelValue
  | .null => null
  | j => value j

def isNull : ModelValue → Bool
  | null => true
  | _ => false

/-- The value as messages show it. -/
def shown : ModelValue → String
  | null => "null"
  | temporal t => "temporal " ++ t.text
  | value j => "json " ++ j.compactText

end ModelValue

/-- Why a rule does not apply to a value. -/
inductive CodecError where
  | expectedText (codec : Codec) (found : Json)
  | invalidTimestamp (codec : Codec) (text : String)
  | unexpectedModel (codec : Codec) (found : ModelValue)

namespace Codec

def name : Codec → String
  | temporal => "temporal"
  | nullableTemporal => "nullable_temporal"
  | emptyAsNull _ => "empty_as_null"
  | arrayPatch _ => "array_patch"

/-! ## The JSON form -/

def toJson : Codec → Json
  | emptyAsNull s => .object [("codec", .text "empty_as_null"), ("sentinel", s.toJson)]
  | arrayPatch p => .object [("codec", .text "array_patch"), ("op", p.toJson)]
  | c => .object [("codec", .text c.name)]

/-- The tagged form: the name of the rule, then at most one field. -/
def tagged : Decode.Tagged where
  name := "Codec"
  tag := "codec"
  variants := ["temporal", "nullable_temporal", "empty_as_null", "array_patch"]

/-- The rule of a variant and what stands beside it. -/
def ofVariant (variant : String) (content : Decode.Content Draft) : Except DecodeError Codec :=
  match variant with
  | "temporal" => content.nothing.map fun _ => temporal
  | "nullable_temporal" => content.nothing.map fun _ => nullableTemporal
  | "empty_as_null" =>
    (content.field "Codec::EmptyAsNull" "sentinel" (Sentinel.decode .buffered)).map emptyAsNull
  | _ => (content.field "Codec::ArrayPatch" "op" (Patch.decode .buffered)).map arrayPatch

def decode : Decoder Codec := fun o d => do
  let variant ← tagged.variantIn o d
  match d with
  | .object members _ => ofVariant variant (tagged.beside members)
  | .array items _ => ofVariant variant (.items (items.drop 1))
  | d => .error (Decode.wrongType "internally tagged enum Codec" d)

/-! ## Applying a rule -/

/-- The instant that a value of the store gives. -/
def instantOf (c : Codec) : Json → Except CodecError ModelValue
  | .text s =>
    match Instant.ofChars? s.toList with
    | some t => .ok (.temporal t)
    | none => .error (.invalidTimestamp c s)
  | j => .error (.expectedText c j)

/-- From the value of the store to the value in memory. -/
def toModel (c : Codec) (wire : Json) : Except CodecError ModelValue :=
  match c with
  | temporal => c.instantOf wire
  | nullableTemporal =>
    if Sentinel.emptyString.isMatch wire then .ok .null else c.instantOf wire
  | emptyAsNull s => if s.isMatch wire then .ok .null else .ok (.value wire)
  | arrayPatch _ => .ok (.value wire)

/-- From the value in memory to the value of the store. -/
def toWire : Codec → ModelValue → Except CodecError Json
  | temporal, .temporal t => .ok (.text t.text)
  | nullableTemporal, .temporal t => .ok (.text t.text)
  | nullableTemporal, .null => .ok Sentinel.emptyString.wireValue
  | emptyAsNull s, .null => .ok s.wireValue
  | emptyAsNull _, .value j => .ok j
  | arrayPatch _, .value j => .ok j
  | c, m => .error (.unexpectedModel c m)

/-- Likewise for a field that may have no rule. -/
def toModel? : Option Codec → Json → Except CodecError ModelValue
  | some c, wire => c.toModel wire
  | none, wire => .ok (.ofWire wire)

/-- Likewise for a field that may have no rule. -/
def toWire? : Option Codec → ModelValue → Except CodecError Json
  | some c, m => c.toWire m
  | none, .null => .ok .null
  | none, .value j => .ok j
  | none, .temporal t => .ok (.text t.text)

end Codec

def CodecError.message : CodecError → String
  | expectedText c found => c.name ++ ": expected timestamp text, got " ++ found.compactText
  | invalidTimestamp c text => c.name ++ ": \"" ++ text ++ "\" is not a valid timestamp"
  | unexpectedModel c found => c.name ++ ": cannot encode " ++ found.shown

end StoreClient
