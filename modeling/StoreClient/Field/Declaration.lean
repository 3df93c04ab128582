-- Fields, and how they are read from their declarations: the name first, then the kind,
-- then the properties of the kind in a fixed order. Nothing is coerced, and the first
-- fault decides.
import StoreClient.Field.Fault
import StoreClient.Field.ValueType

namespace StoreClient

/-- What a field holds, with the attributes of its kind. -/
inductive FieldForm where
  | plainText (required : Bool)
  | richText (required : Bool)
  | email (required : Bool)
  | url (required : Bool)
  | number (required : Bool)
  /-- The target is the id or the name of a collection. -/
  | relation (target : String) (cardinality : Cardinality) (required : Bool)
  | dateTime (required : Bool)
  | autoDateTime
  | boolean
  | json
  | select (options : List String) (cardinality : Cardinality)
  | file (cardinality : Cardinality) (required : Bool)
  | geoPoint
  | password
deriving DecidableEq, Repr, Inhabited

/-- A declared field. -/
structure Field where
  name : String
  form : FieldForm
deriving DecidableEq, Repr, Inhabited

def FieldForm.kind : FieldForm → Kind
  | plainText _ => .plainText
  | richText _ => .richText
  | email _ => .email
  | url _ => .url
  | number _ => .number
  | relation _ _ _ => .relation
  | dateTime _ => .dateTime
  | autoDateTime => .autoDateTime
  | boolean => .boolean
  | json => .json
  | select _ _ => .select
  | file _ _ => .file
  | geoPoint => .geoPoint
  | password => .password

def Field.kind (f : Field) : Kind := f.form.kind

namespace Declaration

/-! ## Properties -/

/-- A flag that is off when it is left out. -/
def flag : Option Json → Except PropertyFault Bool
  | none => .ok false
  | some (.bool b) => .ok b
  | some j => .error (.wrongType j.type .boolean)

/-- A text that is not empty. -/
def someText : Option Json → Except PropertyFault String
  | none => .error .missing
  | some (.text s) => if s.isEmpty then .error .emptyText else .ok s
  | some j => .error (.wrongType j.type .string)

def cardinality (property : Option Json) : Except PropertyFault Cardinality :=
  match someText property with
  | .error e => .error e
  | .ok s =>
    match Cardinality.ofName? s with
    | some c => .ok c
    | none => .error (.notAMode s)

/-- Texts none of which is empty. -/
def elements : List Json → Except PropertyFault (List String)
  | [] => .ok []
  | .text s :: rest =>
    if s.isEmpty then .error .emptyElement
    else
      match elements rest with
      | .ok texts => .ok (s :: texts)
      | .error e => .error e
  | j :: _ => .error (.wrongElement j)

/-- At least one text. -/
def someTexts : Option Json → Except PropertyFault (List String)
  | none => .error .missing
  | some (.array []) => .error .emptyList
  | some (.array items) => elements items
  | some j => .error (.wrongType j.type .texts)

/-! ## Forms -/

/-- A property read, with the property named in its fault. -/
def named {α : Type} (property : Property) (read : Option Json → Except PropertyFault α)
    (members : List (String × Json)) : Except (Property × PropertyFault) α :=
  match read (members.lookup property.key) with
  | .ok a => .ok a
  | .error e => .error (property, e)

/-- The form of a field of a kind: its properties in order. -/
def form (members : List (String × Json)) : Kind → Except (Property × PropertyFault) FieldForm
  | .plainText => do pure (.plainText (← named .required flag members))
  | .richText => do pure (.richText (← named .required flag members))
  | .email => do pure (.email (← named .required flag members))
  | .url => do pure (.url (← named .required flag members))
  | .number => do pure (.number (← named .required flag members))
  | .relation => do
    let target ← named .to someText members
    let mode ← named .mode cardinality members
    let required ← named .required flag members
    pure (.relation target mode required)
  | .dateTime => do pure (.dateTime (← named .required flag members))
  | .autoDateTime => pure .autoDateTime
  | .boolean => pure .boolean
  | .json => pure .json
  | .select => do
    let options ← named .options someTexts members
    let mode ← named .mode cardinality members
    pure (.select options mode)
  | .file => do
    let mode ← named .mode cardinality members
    let required ← named .required flag members
    pure (.file mode required)
  | .geoPoint => pure .geoPoint
  | .password => pure .password

/-! ## Declarations -/

/-- The name of the declared field. -/
def fieldName (members : List (String × Json)) : Except FieldFault String :=
  match members.lookup "name" with
  | none => .error .missingName
  | some (.text s) => if s.isEmpty then .error .emptyName else .ok s
  | some j => .error (.nameNotText j.type)

/-- The kind of the declared field. -/
def fieldKind (field : String) (members : List (String × Json)) : Except FieldFault Kind :=
  match members.lookup "type" with
  | none => .error (.missingKind field)
  | some (.text s) =>
    if s.isEmpty then .error (.emptyKind field)
    else
      match Kind.ofTag? s with
      | some kind => .ok kind
      | none => .error (.unknownKind field s)
  | some j => .error (.kindNotText field j.type)

end Declaration

/-- The field of a declaration. -/
def Field.ofDeclaration (declaration : Json) : Except FieldFault Field :=
  match declaration with
  | .object members => do
    let name ← Declaration.fieldName members
    let kind ← Declaration.fieldKind name members
    match Declaration.form members kind with
    | .ok form => pure ⟨name, form⟩
    | .error (property, fault) => .error (.property name kind property fault)
  | j => .error (.notAnObject j.type)

end StoreClient
