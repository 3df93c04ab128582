-- The catalog of a store: one row for each collection, with the declarations of its fields
-- as a JSON text.
import StoreClient.Catalog.Translation
import StoreClient.Collection.Document
import StoreClient.Json.Scan

namespace StoreClient

/-- The row of a collection. -/
structure CatalogRow where
  id : String
  name : String
  kind : String
  /-- Whether the collection belongs to the store itself. -/
  isSystem : Bool
  /-- The JSON text of the declarations of the fields. -/
  fields : String
deriving DecidableEq, Repr, Inhabited

/-- What is taken over from a catalog. -/
structure CatalogOptions where
  includeSystem : Bool
  includeId : Bool
deriving DecidableEq, Repr, Inhabited

/-- What can be wrong with the fields of a row. -/
inductive RowFault where
  | notJson
  | notArray
deriving DecidableEq, Repr

/-- A row whose fields cannot be read. -/
structure CatalogFault where
  collection : String
  reason : RowFault
deriving DecidableEq, Repr

def RowFault.message : RowFault → String
  | notJson => "fields column is not valid JSON"
  | notArray => "fields column is not a JSON array"

def CatalogFault.message (f : CatalogFault) : String :=
  "collection " ++ f.collection ++ ": invalid catalog row: " ++ f.reason.message

namespace Catalog

/-- Whether a declaration is that of the id that every record has. -/
def isIdField (declaration : Json) : Bool :=
  match declaration.get? "name" with
  | some (.text name) => name = "id"
  | _ => false

/-- The collection of a row. -/
def collection (options : CatalogOptions) (row : CatalogRow) :
    Except CatalogFault CollectionDeclaration :=
  match Json.parse row.fields with
  | .ok (.array items) =>
    let fields := (items.filter fun f => options.includeId || !isIdField f).map translate
    .ok { id := some row.id, name := row.name, singular := none, plural := none, fields }
  | .ok _ => .error ⟨row.name, .notArray⟩
  | .error _ => .error ⟨row.name, .notJson⟩

/-- The rows that are taken over. -/
def kept (options : CatalogOptions) (rows : List CatalogRow) : List CatalogRow :=
  rows.filter fun row => options.includeSystem || !row.isSystem

/-- The collections of rows, up to the first fault. -/
def collections (options : CatalogOptions) :
    List CatalogRow → Except CatalogFault (List CollectionDeclaration)
  | [] => .ok []
  | row :: rest =>
    match collection options row with
    | .error fault => .error fault
    | .ok c =>
      match collections options rest with
      | .error fault => .error fault
      | .ok cs => .ok (c :: cs)

/-- The document of a catalog. -/
def document (options : CatalogOptions) (rows : List CatalogRow) : Except CatalogFault Document :=
  match collections options (kept options rows) with
  | .error fault => .error fault
  | .ok cs => .ok ⟨cs⟩

end Catalog

end StoreClient
