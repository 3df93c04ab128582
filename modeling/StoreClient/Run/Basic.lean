-- A run: it asks a disk, logs events, and may stop at a fault. What was logged before a
-- fault stays.
import StoreClient.Disk.Write
import StoreClient.Run.Event
import StoreClient.Template.Basic

namespace StoreClient

/-- Why a run stops. Paths are as they were asked for. -/
inductive RunFault where
  /-- A file of settings or a template is missing or is no text. -/
  | unreadable (path : String)
  | unwritable (path : String)
  | badSettings (path : String)
  | badLogFilter
  /-- The path names no file that could be written. -/
  | badOutput (path : String)
  | source (fault : SourceFault)
  | schema (fault : SchemaFault)
  | template (fault : TemplateFault)

namespace RunFault

def templateMessage : TemplateFault → String
  | .unreadable => "template parse error"
  | .unrenderable => "template render error"

/-- The message, up to where the wording of a reader or of the system would go on. -/
def message : RunFault → String
  | unreadable path => "failed to read " ++ path
  | unwritable path => "failed to write " ++ path
  | badSettings path => "invalid configuration in " ++ path
  | badLogFilter => "logging error"
  | badOutput path => "invalid argument: invalid output path " ++ path
  | source fault => fault.message
  | schema fault => fault.message
  | template fault => templateMessage fault

end RunFault

/-- A run over a disk. -/
abbrev Run (m : Type → Type) := ExceptT RunFault (StateT (List Event) m)

namespace Run

variable {m : Type → Type} [Monad m]

/-- The result of a run and the events that it has logged. -/
def outcome {α : Type} (r : Run m α) : m (Except RunFault α × List Event) :=
  StateT.run (ExceptT.run r) []

def logAll (events : List Event) : Run m Unit := modify fun before => before ++ events

def log (event : Event) : Run m Unit := logAll [event]

/-- Asks the disk. -/
def ask {α : Type} (question : m α) : Run m α := ExceptT.lift (StateT.lift question)

/-- Goes on with a result, or stops at its fault. -/
def orStop {ε α : Type} (fault : ε → RunFault) : Except ε α → Run m α
  | .ok a => pure a
  | .error e => throw (fault e)

variable [Disk m]

/-! ## Files -/

/-- The text of a file of settings or a template. -/
def readText (path : String) : Run m String := do
  match ← ask (Disk.readText (Path.ofText path)) with
  | some text => pure text
  | none => throw (.unreadable path)

/-- Writes a text to a file. -/
def writeText (path text : String) : Run m Unit := do
  match ← ask (Disk.writeFile (Path.ofText path) text.toUTF8) with
  | .ok () => pure ()
  | .error .noFileName => throw (.badOutput path)
  | .error .failed => throw (.unwritable path)

/-! ## Documents -/

/-- The document of the data file at a path. -/
def loadStore (path : String) (options : CatalogOptions) : Run m Document := do
  match ← ask (Disk.dataFile (Path.ofText path)) with
  | .unopened => throw (.source .database)
  | .unreadable =>
    log (.sourceSelected path .store)
    throw (.source .database)
  | .catalog rows =>
    log (.sourceSelected path .store)
    logAll (Event.ofCatalog options rows)
    orStop (fun fault => .source (.badRow fault)) (Catalog.document options rows)

/-- The document of the text at a path. -/
def loadText (path : String) : Run m Document := do
  match DocumentFormat.ofPath? (Path.ofText path) with
  | none => throw (.source (.unsupported path))
  | some format =>
    log (.sourceSelected path .document)
    match ← ask (Disk.readText (Path.ofText path)) with
    | none => throw (.source (.unreadable path))
    | some text =>
      let d ← orStop .source (format.read path text)
      log (.documentLoaded path d)
      pure d

/-- The document of a source. -/
def load (path : String) (choice : SourceChoice) (options : CatalogOptions) : Run m Document :=
  match choice.resolve (Path.ofText path) with
  | .store => loadStore path options
  | .document => loadText path

/-- The schema of a document. -/
def compile (policy : EmptyListPolicy) (d : Document) : Run m Schema := do
  let compiled := d.compile policy
  logAll (Event.ofCompiling policy d compiled)
  match compiled with
  | .ok s => pure s
  | .error fault =>
    log (.compileFailed fault)
    throw (.schema fault)

end Run

end StoreClient
