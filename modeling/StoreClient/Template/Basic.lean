-- Templates: text with places to be filled in from data, parts that are kept or left out,
-- and parts that are repeated.
import StoreClient.Json.Basic

namespace StoreClient

namespace Template

/-- A value in a template: written out, or looked up in the data. -/
inductive Operand where
  | literal (value : Json)
  /-- A name, then the members or items to go down to. -/
  | path (root : String) (steps : List Operand)
deriving Inhabited

/-- A change to a value before it is put in. -/
inductive Filter where
  /-- The texts of a list, with a text between them. -/
  | join (separator : Operand)
  | upcase
  | downcase
deriving Inhabited

/-- A piece of a template. -/
inductive Node where
  | text (text : String)
  | output (value : Operand) (filters : List Filter)
  /-- The first part if the value is there and neither null nor false, or else the second. -/
  | choice (condition : Operand) (kept otherwise : List Node)
  /-- The first part for each item, or the second if there is none. -/
  | loop (variableName : String) (items : Operand) (body otherwise : List Node)
deriving Inhabited

end Template

/-- Why a template gives no text. -/
inductive TemplateFault where
  /-- The text is no template. -/
  | unreadable
  /-- The data lacks something that the template asks for. -/
  | unrenderable
deriving DecidableEq, Repr

abbrev Template := List Template.Node

end StoreClient
