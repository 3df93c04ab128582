-- The tasks of the program: generating a client, checking a source, and writing its bundle
-- or a published schema. A file is only touched once all that comes before has succeeded.
import StoreClient.Bundle.Encoding
import StoreClient.Client.Text
import StoreClient.JsonSchema.Bundle
import StoreClient.JsonSchema.Document
import StoreClient.Run.Basic
import StoreClient.Template.Render

namespace StoreClient

/-- A source and how it is compiled. -/
structure Request where
  /-- The path of the source. -/
  input : String
  choice : SourceChoice
  policy : EmptyListPolicy
  catalog : CatalogOptions
deriving DecidableEq, Repr, Inhabited

namespace Run

variable {m : Type → Type} [Monad m] [Disk m]

/-- The schema of a source. -/
def loadSchema (r : Request) : Run m Schema := do
  let d ← load r.input r.choice r.catalog
  compile r.policy d

/-! ## Generating -/

/-- The text that a template makes of a schema. -/
def templateText (s : Schema) (template : String) : Except TemplateFault String :=
  match Template.ofText template with
  | .error fault => .error fault
  | .ok t => t.render s.viewsJson

/-- The text of the client, by a template if one is given. -/
def clientText (s : Schema) : Option String → Run m String
  | none => pure s.clientText
  | some path => do
    let template ← readText path
    orStop .template (templateText s template)

/-- What has been generated. -/
structure Generated where
  collections : Nat
  bytes : Nat
deriving DecidableEq, Repr, Inhabited

/-- Generates the client of a source. -/
def generate (r : Request) (output : String) (template : Option String) : Run m Generated := do
  let s ← loadSchema r
  let text ← clientText s template
  log (.templateRendered s text)
  writeText output text
  log (.outputWritten output s.bundles.length text.utf8ByteSize)
  pure ⟨s.bundles.length, text.utf8ByteSize⟩

/-! ## Checking -/

/-- What a schema holds. -/
structure Counts where
  collections : Nat
  fields : Nat
  relations : Nat
deriving DecidableEq, Repr, Inhabited

def Counts.ofSchema (s : Schema) : Counts where
  collections := s.bundles.length
  fields := (s.bundles.flatMap (·.read)).length
  relations := (s.bundles.flatMap (·.expand)).length

/-- Compiles a source and writes nothing. -/
def check (r : Request) : Run m Counts := do
  let s ← loadSchema r
  let counts := Counts.ofSchema s
  log (.schemaChecked counts.collections counts.fields counts.relations)
  pure counts

/-! ## Writing JSON -/

/-- Writes the bundle of a source. -/
def writeBundle (r : Request) (output : String) : Run m Schema := do
  let s ← loadSchema r
  writeText output s.text
  log (.bundleWritten output)
  pure s

/-- Writes the published schema of documents or of bundles. -/
def writePublished (output : String) (ofDocument : Bool) : Run m Unit := do
  let published := if ofDocument then Document.published else Schema.published
  writeText output published.toJson.prettyText
  log (.jsonSchemaWritten output ofDocument)

end Run

end StoreClient
