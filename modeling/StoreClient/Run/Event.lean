-- The events that a run logs, each with its details.
import StoreClient.Bundle.Compile
import StoreClient.Log.Basic
import StoreClient.Run.Source

namespace StoreClient

namespace Event

def count (n : Nat) : Json := .number (.int n)

/-! ## Compiling -/

def ofCompiler (name : String) (details : List (String × Json)) : Event :=
  ⟨.debug, "pocketgen_core::compiler", name, details⟩

def collectionParsed (c : Collection) : Event :=
  ofCompiler "collection_parsed" [("collection", .text c.name), ("fields", count c.fields.length)]

def collectionAssembled (b : Bundle) : Event :=
  ofCompiler "collection_assembled"
    [("collection", .text b.name), ("read", count b.read.length),
     ("create", count b.create.length), ("update", count b.update.length),
     ("expand", count b.expand.length)]

def schemaCompiled (s : Schema) : Event :=
  ofCompiler "schema_compiled"
    [("message", .text "compiled schema"), ("collections", count s.bundles.length)]

/-- The results of the first items that have one. -/
def successes {ε α β : Type} (f : α → Except ε β) : List α → List β
  | [] => []
  | a :: rest =>
    match f a with
    | .ok b => b :: successes f rest
    | .error _ => []

/-- What is logged when a document is compiled, given what comes of it: each collection that is
read, and if all are and their names do not clash, each collection whose relations are
resolved. -/
def ofCompiling (policy : EmptyListPolicy) (d : Document) (compiled : Except SchemaFault Schema) :
    List Event :=
  let parsed := successes (fun (c, n) => Collection.ofDeclaration n c) d.collections.zipIdx
  let assembled := match compiled with
    | .ok s => s.bundles.map collectionAssembled ++ [schemaCompiled s]
    | .error _ =>
      if parsed.length = d.collections.length && (Collection.claimAll [] parsed).isOk then
        (successes (Collection.bundle policy parsed) parsed).map collectionAssembled
      else []
  parsed.map collectionParsed ++ assembled

/-! ## Sources -/

def documentLoaded (path : String) (d : Document) : Event :=
  ⟨.info, "pocketgen_introspect::document", "document_loaded",
    [("path", .text path), ("collections", count d.collections.length)]⟩

def collectionMapped (row : CatalogRow) (c : CollectionDeclaration) : Event :=
  ⟨.debug, "pocketgen_introspect::sqlite::mapper", "catalog_collection_mapped",
    [("collection", .text row.name), ("kind", .text row.kind), ("fields", count c.fields.length)]⟩

def catalogLoaded (rows : List CatalogRow) (d : Document) : Event :=
  ⟨.info, "pocketgen_introspect::sqlite", "catalog_loaded",
    [("collections", count d.collections.length),
     ("skipped", count (rows.length - d.collections.length))]⟩

/-- What is logged when a catalog is read: each row that is taken over, up to the first fault. -/
def ofCatalog (options : CatalogOptions) (rows : List CatalogRow) : List Event :=
  let mapped := successes
    (fun row => (Catalog.collection options row).map fun c => collectionMapped row c)
    (Catalog.kept options rows)
  let loaded := match Catalog.document options rows with
    | .ok d => [catalogLoaded rows d]
    | .error _ => []
  mapped ++ loaded

/-! ## Tasks -/

def ofTask (level : LogLevel) (name : String) (details : List (String × Json)) : Event :=
  ⟨level, "pocketgen_cli::pipeline", name, details⟩

def sourceSelected (path : String) (kind : SourceKind) : Event :=
  ofTask .info "source_selected" [("source", .text kind.name), ("input", .text path)]

def compileFailed (fault : SchemaFault) : Event :=
  ofTask .warn "compile_failed"
    [("collection", .text (fault.collection?.getD "-")), ("kind", .text fault.sort.name),
     ("error", .text fault.message)]

def templateRendered (s : Schema) (text : String) : Event :=
  ⟨.debug, "pocketgen_render::engine", "template_rendered",
    [("collections", count s.bundles.length), ("bytes", count text.utf8ByteSize)]⟩

def outputWritten (path : String) (collections bytes : Nat) : Event :=
  ofTask .info "output_written"
    [("path", .text path), ("collections", count collections), ("bytes", count bytes)]

def schemaChecked (collections fields relations : Nat) : Event :=
  ofTask .info "schema_checked"
    [("collections", count collections), ("fields", count fields), ("relations", count relations)]

def bundleWritten (path : String) : Event := ofTask .info "bundle_written" [("path", .text path)]

def jsonSchemaWritten (path : String) (ofDocument : Bool) : Event :=
  ofTask .info "json_schema_written" [("path", .text path), ("document", .bool ofDocument)]

/-! ## The program -/

def ofProgram (level : LogLevel) (name : String) (details : List (String × Json)) : Event :=
  ⟨level, "pocketgen", name, details⟩

def runStarted (version : String) : Event :=
  ofProgram .info "run_started" [("version", .text version)]

def runFinished : Event := ofProgram .info "run_finished" [("status", .text "success")]

def runFailed (message : String) : Event := ofProgram .error "run_failed" [("error", .text message)]

end Event

end StoreClient
