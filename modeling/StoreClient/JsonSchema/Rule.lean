-- Schemas that say which JSON values are of a form, in the words of draft 7, as far as
-- the published schemas use them.
import StoreClient.Json.Basic

namespace StoreClient

/-- The types that a schema may ask for. -/
inductive RuleType where
  | null | boolean | string
deriving DecidableEq, Repr

def RuleType.name : RuleType → String
  | null => "null"
  | boolean => "boolean"
  | string => "string"

/-- What a value must be. -/
inductive Rule where
  /-- Any value. -/
  | anything
  /-- What the definition of this name says. -/
  | ref (definition : String)
  /-- A value of one of these types. -/
  | types (types : List RuleType)
  /-- One of these texts. -/
  | words (words : List String)
  /-- A list of such items; it may be given an empty list by default. -/
  | listOf (hasDefault : Bool) (item : Rule)
  /-- An object with these properties: for each its name, whether it must be there, and what it
  must be. Other properties are free. -/
  | record (properties : List (String × Bool × Rule))
  /-- Exactly one of the rules holds. -/
  | oneOf (rules : List Rule)
  /-- At least one of the rules holds. -/
  | anyOf (rules : List Rule)
  /-- All of the rules hold. -/
  | allOf (rules : List Rule)
  /-- The rule, with words for a reader. -/
  | described (description : String) (rule : Rule)
deriving Inhabited

namespace Rule

/-- A text. -/
def text : Rule := types [.string]

/-- A text or null. -/
def textOrNull : Rule := types [.string, .null]

/-- What a definition says, or null. -/
def orNull (rule : Rule) : Rule := anyOf [rule, types [.null]]

/-! ## The JSON form -/

/-- One type is named by itself, several are listed. -/
def typesJson : List RuleType → Json
  | [t] => .text t.name
  | ts => .array (ts.map fun t => .text t.name)

/-- The names of the properties that must be there. -/
def required (properties : List (String × Bool × Rule)) : List String :=
  (properties.filter fun p => p.2.1).map (·.1)

mutual

/-- The keywords of a rule. -/
def keywords : Rule → List (String × Json)
  | anything => []
  | ref definition => [("$ref", .text ("#/definitions/" ++ definition))]
  | types ts => [("type", typesJson ts)]
  | words ws => [("type", .text "string"), ("enum", .array (ws.map .text))]
  | listOf hasDefault item =>
    (if hasDefault then [("default", .array [])] else []) ++
      [("type", .text "array"), ("items", toJson item)]
  | record properties =>
    [("type", .text "object"), ("required", .array ((required properties).map .text)),
     ("properties", .object (propertiesJson properties))]
  | oneOf rules => [("oneOf", .array (toJsons rules))]
  | anyOf rules => [("anyOf", .array (toJsons rules))]
  | allOf rules => [("allOf", .array (toJsons rules))]
  | described description rule => ("description", .text description) :: keywords rule

/-- The JSON form of a rule: an object of its keywords, or `true` for the rule that holds of
everything. -/
def toJson : Rule → Json
  | anything => .bool true
  | ref definition => .object (keywords (ref definition))
  | types ts => .object (keywords (types ts))
  | words ws => .object (keywords (words ws))
  | listOf hasDefault item => .object (keywords (listOf hasDefault item))
  | record properties => .object (keywords (record properties))
  | oneOf rules => .object (keywords (oneOf rules))
  | anyOf rules => .object (keywords (anyOf rules))
  | allOf rules => .object (keywords (allOf rules))
  | described description rule => .object (("description", .text description) :: keywords rule)

def toJsons : List Rule → List Json
  | [] => []
  | rule :: rest => toJson rule :: toJsons rest

def propertiesJson : List (String × Bool × Rule) → List (String × Json)
  | [] => []
  | (name, _, rule) :: rest => (name, toJson rule) :: propertiesJson rest

end

end Rule

/-- A published schema: its title, the rule of a whole value, and the definitions that the
rules refer to. -/
structure PublishedSchema where
  title : String
  rule : Rule
  definitions : List (String × Rule)

namespace PublishedSchema

def toJson (s : PublishedSchema) : Json :=
  .object
    ([("$schema", .text "http://json-schema.org/draft-07/schema#"), ("title", .text s.title)] ++
      s.rule.keywords ++
      [("definitions", .object (s.definitions.map fun d => (d.1, d.2.toJson)))])

end PublishedSchema

end StoreClient
