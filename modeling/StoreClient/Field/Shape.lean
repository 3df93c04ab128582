-- The shapes of a field: how it appears in a fetched record, in a record to be created
-- and in a change to a record.
import StoreClient.Field.Codec
import StoreClient.Field.Declaration

namespace StoreClient

/-- How an empty list of related records is kept in memory. -/
inductive EmptyListPolicy where
  /-- A list that may be left empty is nullable, and the empty list becomes nothing. -/
  | null
  /-- The empty list stays an empty list. -/
  | emptyList
deriving DecidableEq, Repr, Inhabited

namespace EmptyListPolicy

def variants : List (String × EmptyListPolicy) := [("null", null), ("empty_list", emptyList)]

def name : EmptyListPolicy → String
  | null => "null"
  | emptyList => "empty_list"

def decode : Decoder EmptyListPolicy := Decode.choice variants

end EmptyListPolicy

/-- A field of a fetched record. -/
structure ReadField where
  name : String
  kind : Kind
  /-- The type in memory. -/
  modelType : ValueType
  /-- The type of what the store sends. -/
  wireType : ValueType
  /-- The rule from the store to memory, if the value changes. -/
  parse : Option Codec
  /-- The rule from memory to the store, if the value changes. -/
  serialize : Option Codec
  doc : Option String
deriving DecidableEq, Repr, Inhabited

/-- A field of a record to be created, or of a change to a record. -/
structure WriteField where
  /-- The name of the property in memory. -/
  name : String
  /-- The key under which the store expects it. -/
  wireKey : String
  kind : Kind
  modelType : ValueType
  wireType : ValueType
  /-- Whether it may be left out. -/
  isOptional : Bool
  serialize : Option Codec
  doc : Option String
deriving DecidableEq, Repr, Inhabited

namespace WriteField

/-- The patch, if the field is a companion of a list of files. -/
def patch? (f : WriteField) : Option Patch :=
  match f.serialize with
  | some (.arrayPatch op) => some op
  | _ => none

def isCompanion (f : WriteField) : Bool := f.patch?.isSome

end WriteField

namespace Field

def cardinality? (f : Field) : Option Cardinality :=
  match f.form with
  | .relation _ c _ | .select _ c | .file c _ => some c
  | _ => none

/-- The target of a relation and how many records it relates to. -/
def relation? (f : Field) : Option (String × Cardinality) :=
  match f.form with
  | .relation target c _ => some (target, c)
  | _ => none

/-- The names that a field adds to the changes of a record beside its own: for each patch of a
list of files its name in memory and its key for the store. -/
def companionNames (f : Field) : List String :=
  match f.form with
  | .file .multiple _ => Patch.all.flatMap fun op => [op.modelName f.name, op.wireKey f.name]
  | _ => []

/-! ## Types, rules and comments -/

/-- The type of a fetched value in memory; a password is never fetched. -/
def readType? (policy : EmptyListPolicy) (f : Field) : Option ValueType :=
  match f.form with
  | .plainText _ => some .string
  | .richText required => some (ValueType.nullableIf (.flavored .richText) (!required))
  | .email required => some (ValueType.nullableIf (.flavored .email) (!required))
  | .url required => some (ValueType.nullableIf (.flavored .url) (!required))
  | .number _ => some .number
  | .relation _ .single required => some (ValueType.nullableIf .recordId (!required))
  | .relation _ .multiple required =>
    some (ValueType.nullableIf (.list .recordId) (!required && policy = .null))
  | .dateTime required => some (ValueType.nullableIf .temporal (!required))
  | .autoDateTime => some .temporal
  | .boolean => some .boolean
  | .json => some .unknown
  | .select options c => some (c.apply (.literals options))
  | .file c _ => some (c.apply .fileRef)
  | .geoPoint => some .geoPoint
  | .password => none

/-- The type of the value as the store has it. -/
def wireType (f : Field) : ValueType :=
  match f.form with
  | .plainText _ | .richText _ | .email _ | .url _ | .password | .dateTime _ | .autoDateTime =>
    .string
  | .number _ => .number
  | .relation _ c _ => c.apply .string
  | .boolean => .boolean
  | .json => .unknown
  | .select options c => c.apply (.literals options)
  | .file c _ => c.apply .fileRef
  | .geoPoint => .geoPoint

/-- The rule between the two, if they differ. -/
def codec? (policy : EmptyListPolicy) (f : Field) : Option Codec :=
  match f.form with
  | .richText false | .email false | .url false => some (.emptyAsNull .emptyString)
  | .relation _ .single false => some (.emptyAsNull .emptyString)
  | .relation _ .multiple false =>
    if policy = .null then some (.emptyAsNull .emptyList) else none
  | .dateTime true | .autoDateTime => some .temporal
  | .dateTime false => some .nullableTemporal
  | _ => none

/-- What the store demands of a required value beyond its type. -/
def doc? (f : Field) : Option String :=
  match f.form with
  | .plainText true => some "Must not be empty string."
  | .number true => some "Must be nonzero."
  | _ => none

/-! ## Shapes -/

/-- The field of a fetched record. -/
def readField? (policy : EmptyListPolicy) (f : Field) : Option ReadField :=
  (f.readType? policy).map fun modelType =>
    { name := f.name, kind := f.kind, modelType, wireType := f.wireType,
      parse := f.codec? policy, serialize := f.codec? policy, doc := f.doc? }

/-- A field that is written under its own name. -/
def written (f : Field) (modelType wireType : ValueType) (isOptional : Bool)
    (serialize : Option Codec) : WriteField :=
  { name := f.name, wireKey := f.name, kind := f.kind, modelType, wireType, isOptional,
    serialize, doc := f.doc? }

/-- The field of a record to be created; the store sets an automatic date itself. -/
def createField? (policy : EmptyListPolicy) (f : Field) : Option WriteField :=
  match f.form with
  | .autoDateTime => none
  | .file c required => some (f.written (c.apply .binary) (c.apply .binary) (!required) none)
  | .password => some (f.written .string .string false none)
  | _ =>
    (f.readType? policy).map fun modelType =>
      f.written modelType f.wireType false (f.codec? policy)

/-- A patch of a list of files. New files are sent whole, old ones by name. -/
def companion (field : String) (op : Patch) : WriteField :=
  let type := match op with
    | .append | .prepend => ValueType.list .binary
    | .remove => .list .fileRef
  { name := op.modelName field, wireKey := op.wireKey field, kind := .file, modelType := type,
    wireType := type, isOptional := true, serialize := some (.arrayPatch op), doc := none }

/-- The fields of a change to a record: the field itself, and its patches if it has any. -/
def updateFields (policy : EmptyListPolicy) (f : Field) : List WriteField :=
  match f.form with
  | .autoDateTime => []
  | .file c _ =>
    let type := ValueType.clearable (c.apply .binary)
    let patches := match c with
      | .single => []
      | .multiple => Patch.all.map (companion f.name)
    f.written type type true none :: patches
  | _ => (f.createField? policy).toList

end Field

end StoreClient
