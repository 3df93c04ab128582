-- Where a document comes from: a text on disk, in one of two formats, or the data file of a
-- store.
import StoreClient.Catalog.Basic
import StoreClient.Disk.Path
import StoreClient.Yaml.Document

namespace StoreClient

/-! ## Kinds of sources -/

inductive SourceKind where
  | document
  | store
deriving DecidableEq, Repr, Inhabited

/-- The kind that is asked for; without one, the path decides. -/
structure SourceChoice where
  asked : Option SourceKind
deriving DecidableEq, Repr, Inhabited

namespace SourceChoice

def auto : SourceChoice := ⟨none⟩

def ofKind (kind : SourceKind) : SourceChoice := ⟨some kind⟩

/-- The extensions of data files. -/
def storeExtensions : List String := ["db", "sqlite", "sqlite3"]

/-- The kind of the source at a path. -/
def resolve (choice : SourceChoice) (path : Path) : SourceKind :=
  choice.asked.getD (if path.hasExtension storeExtensions then .store else .document)

end SourceChoice

/-- What a kind of source is called in the log. -/
def SourceKind.name : SourceKind → String
  | document => "document"
  | store => "sqlite"

/-! ## Texts of documents -/

inductive DocumentFormat where
  | yaml
  | json
deriving DecidableEq, Repr, Inhabited

/-- Why a source gives no document. Paths are as they were asked for. -/
inductive SourceFault where
  /-- The data file is missing, or is none, or has no catalog. -/
  | database
  /-- The file is missing, or is no text. -/
  | unreadable (path : String)
  | badYaml (path : String)
  | badJson (path : String) (error : DecodeError)
  | badRow (fault : CatalogFault)
  /-- The extension of the path is that of no format. -/
  | unsupported (path : String)

namespace SourceFault

/-- The message, up to where the wording of a reader would go on. -/
def message : SourceFault → String
  | database => "database error"
  | unreadable path => "failed to read " ++ path
  | badYaml path => "invalid YAML in " ++ path
  | badJson path _ => "invalid JSON in " ++ path
  | badRow fault => fault.message
  | unsupported path => "unsupported schema source: " ++ path

end SourceFault

namespace DocumentFormat

/-- The format of the text at a path. -/
def ofPath? (path : Path) : Option DocumentFormat :=
  if path.hasExtension ["yaml", "yml"] then some yaml
  else if path.hasExtension ["json"] then some json
  else none

/-- The document of a text that was read from a path. -/
def read (format : DocumentFormat) (path text : String) : Except SourceFault Document :=
  match format with
  | yaml =>
    match Document.ofYaml? text with
    | some d => .ok d
    | none => .error (.badYaml path)
  | json =>
    match Decode.ofText Document.decode text with
    | .ok d => .ok d
    | .error error => .error (.badJson path error)

end DocumentFormat

end StoreClient
