-- The settings of the program, and how a TOML document gives them. What the document leaves
-- out has a default, and what is no setting is ignored.
import StoreClient.Catalog.Basic
import StoreClient.Field.Shape
import StoreClient.Toml.Document

namespace StoreClient

/-- How logged events are laid out. -/
inductive LogLayout where
  | pretty
  | json
deriving DecidableEq, Repr, Inhabited

namespace LogLayout

def variants : List (String × LogLayout) := [("pretty", pretty), ("json", json)]

def name : LogLayout → String
  | pretty => "pretty"
  | json => "json"

end LogLayout

structure Settings where
  /-- How an empty list of related records or files is read. -/
  emptyList : EmptyListPolicy
  /-- The path of the template that takes the place of the built-in one. -/
  template : Option String
  /-- What is taken over from a catalog. -/
  catalog : CatalogOptions
  layout : LogLayout
  /-- The filter of logged events. -/
  logFilter : String
deriving DecidableEq, Repr, Inhabited

namespace Settings

/-- The settings where nothing is set. -/
def standard : Settings := ⟨.null, none, ⟨false, false⟩, .pretty, "info"⟩

/-! ## Sections

A section is a table. It may also be an array of the values of its settings, in order, and a time
counts as a section in which nothing is set. -/

/-- The value of a setting in a section, if it is set there. -/
def setting? (key : String) (position : Nat) : TomlValue → Option (Option TomlValue)
  | .table members => some (members.lookup key)
  | .array items => some items[position]?
  | .time _ => some none
  | _ => none

/-- The setting of a section, or its default where it is not set. -/
def read? {α : Type} (decode : TomlValue → Option α) (default : α) (key : String)
    (position : Nat) (section? : TomlValue) : Option α :=
  match setting? key position section? with
  | none => none
  | some none => some default
  | some (some value) => decode value

/-! ## Values -/

def text? : TomlValue → Option String
  | .text s => some s
  | _ => none

def bool? : TomlValue → Option Bool
  | .bool b => some b
  | _ => none

/-- A word: a text, or the only key of a table under which nothing stands. -/
def word? : TomlValue → Option String
  | .text s => some s
  | .table [(key, .table [])] | .table [(key, .array [])] => some key
  | _ => none

/-- One of some named choices. -/
def choice? {α : Type} (variants : List (String × α)) (v : TomlValue) : Option α :=
  (word? v).bind fun word => variants.lookup word

/-! ## All settings -/

/-- The settings of a document. -/
def ofToml? (document : TomlValue) : Option Settings := do
  let section? (key : String) (position : Nat) := read? some (.table []) key position document
  let generate ← section? "generate" 0
  let introspect ← section? "introspect" 1
  let logging ← section? "logging" 2
  pure {
    emptyList := ←
      read? (choice? EmptyListPolicy.variants) standard.emptyList "empty_list" 0 generate
    template := ← read? (fun v => (text? v).map some) standard.template "template" 1 generate
    catalog :=
      ⟨← read? bool? standard.catalog.includeSystem "include_system_collections" 0 introspect,
       ← read? bool? standard.catalog.includeId "include_id_field" 1 introspect⟩
    layout := ← read? (choice? LogLayout.variants) standard.layout "format" 0 logging
    logFilter := ← read? text? standard.logFilter "level" 1 logging }

/-- The settings of a text. -/
def ofText? (text : String) : Option Settings :=
  (TomlValue.ofText? text).bind fun members => ofToml? (.table members)

end Settings

end StoreClient
