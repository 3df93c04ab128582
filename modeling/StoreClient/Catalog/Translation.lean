-- Field declarations in the words of the store's catalog, and their translation into the
-- words of a document. What is already in those words stays as it is.
import StoreClient.Field.ValueType

namespace StoreClient

namespace Catalog

/-- The tag of a kind for the name that the catalog has for it. -/
def canonicalTag (tag : String) : String :=
  if tag = "text" then "plainText"
  else if tag = "editor" then "richText"
  else if tag = "bool" then "boolean"
  else if tag = "date" then "datetime"
  else tag

/-- The mode of a field by how many values it may hold: one or fewer make it single. -/
def modeOf? : Json → Option Cardinality
  | .number most => some (if most.leNat 1 then .single else .multiple)
  | _ => none

/-- A member under another key, unless that key is taken. -/
def rename (before after : String) (members : List (String × Json)) : List (String × Json) :=
  match members.lookup after, members.lookup before with
  | none, some value => Json.insert after value (Json.erase before members)
  | _, _ => members

/-- A mode for a field that declares none but says how many values it may hold. -/
def addMode (members : List (String × Json)) : List (String × Json) :=
  match members.lookup "mode", (members.lookup "maxSelect").bind modeOf? with
  | none, some mode => Json.insert "mode" (.text mode.name) members
  | _, _ => members

/-- The properties of a kind under the names of a document. -/
def translateProperties (tag : String) (members : List (String × Json)) :
    List (String × Json) :=
  if tag = "relation" then addMode (rename "collectionId" "to" members)
  else if tag = "select" then addMode (rename "values" "options" members)
  else if tag = "file" then addMode members
  else members

/-- The declaration of a field in the words of a document. -/
def translate : Json → Json
  | .object members =>
    match members.lookup "type" with
    | some (.text tag) =>
      let tag := canonicalTag tag
      .object (Json.replace "type" (.text tag) (translateProperties tag members))
    | _ => .object members
  | j => j

end Catalog

end StoreClient
