-- Collections whose fields are all valid: every declaration is a field, and no two names
-- of the collection are the same, those of the patches of file lists included.
import StoreClient.Collection.Document
import StoreClient.Collection.Fault
import StoreClient.Field.Shape
import StoreClient.Text.Word

namespace StoreClient

/-- A collection with valid fields. Targets of relations are not looked at yet. -/
structure Collection where
  id : Option String
  name : String
  singular : Option String
  plural : Option String
  fields : List Field
deriving DecidableEq, Repr, Inhabited

namespace Collection

/-! ## Names -/

/-- The name of the type of one record. -/
def typeName (c : Collection) : String := Word.pascalCase (c.singular.getD c.name)

/-- The type name made from the name of many records. -/
def pluralTypeName (c : Collection) : String := Word.pascalCase (c.plural.getD c.name)

/-! ## From declarations -/

/-- The fields of declarations from a position on; `earlier` are the names before it. The first
declaration that is no field, or repeats a name, decides. -/
def fieldsFrom (collection : String) : Nat → List String → List Json →
    Except SchemaFault (List Field)
  | _, _, [] => .ok []
  | position, earlier, declaration :: rest =>
    match Field.ofDeclaration declaration with
    | .error fault => .error (.field collection position fault)
    | .ok f =>
      if f.name ∈ earlier then .error (.duplicateField collection f.name)
      else
        match fieldsFrom collection (position + 1) (f.name :: earlier) rest with
        | .error fault => .error fault
        | .ok fields => .ok (f :: fields)

/-- The first of some names that is taken or stands twice. -/
def firstTaken? (taken : List String) : List String → Option String
  | [] => none
  | name :: rest => if name ∈ taken then some name else firstTaken? (name :: taken) rest

/-- The collection of a declaration at a position of the document. -/
def ofDeclaration (position : Nat) (d : CollectionDeclaration) : Except SchemaFault Collection :=
  if d.name.isEmpty then .error (.emptyName position)
  else
    match fieldsFrom d.name 0 [] d.fields with
    | .error fault => .error fault
    | .ok fields =>
      match firstTaken? (fields.map (·.name)) (fields.flatMap (·.companionNames)) with
      | some name => .error (.duplicateField d.name name)
      | none =>
        .ok { id := d.id, name := d.name, singular := d.singular, plural := d.plural, fields }

/-- The collections of declarations from a position on, up to the first fault. -/
def allFrom : Nat → List CollectionDeclaration → Except SchemaFault (List Collection)
  | _, [] => .ok []
  | position, d :: rest =>
    match ofDeclaration position d with
    | .error fault => .error fault
    | .ok c =>
      match allFrom (position + 1) rest with
      | .error fault => .error fault
      | .ok cs => .ok (c :: cs)

/-- The collections of a document. -/
def ofDocument (d : Document) : Except SchemaFault (List Collection) := allFrom 0 d.collections

/-! ## Relations -/

/-- The collection that a relation refers to: by id, or else by name. -/
def target? (collections : List Collection) (target : String) : Option Collection :=
  (collections.find? fun c => c.id = some target).or (collections.find? fun c => c.name = target)

end Collection

end StoreClient
