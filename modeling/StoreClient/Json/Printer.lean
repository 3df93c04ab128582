-- JSON texts of values: one without any space, and one with a line for each member and
-- item, indented by two spaces for each level.
import StoreClient.Json.Basic
import StoreClient.Text.Literal

namespace StoreClient

namespace Json

/-! ## Without spaces -/

mutual

/-- The shortest text of a value. -/
def compact : Json → List Char
  | null => ['n', 'u', 'l', 'l']
  | bool true => ['t', 'r', 'u', 'e']
  | bool false => ['f', 'a', 'l', 's', 'e']
  | number n => n.chars
  | text s => Literal.quote s.toList
  | array items => '[' :: (compactItems items ++ [']'])
  | object members => '\x7b' :: (compactMembers members ++ ['\x7d'])

def compactItems : List Json → List Char
  | [] => []
  | [item] => compact item
  | item :: rest => compact item ++ ',' :: compactItems rest

def compactMembers : List (String × Json) → List Char
  | [] => []
  | [(key, value)] => Literal.quote key.toList ++ ':' :: compact value
  | (key, value) :: rest =>
    Literal.quote key.toList ++ ':' :: (compact value ++ ',' :: compactMembers rest)

end

def compactText (j : Json) : String := String.ofList j.compact

/-! ## With a line for each member and item -/

/-- A new line at a level of indentation. -/
def newLine (level : Nat) : List Char := '\n' :: List.replicate (2 * level) ' '

mutual

/-- The text of a value that starts at a level. An empty array or object stays on its line. -/
def pretty (level : Nat) : Json → List Char
  | null => ['n', 'u', 'l', 'l']
  | bool true => ['t', 'r', 'u', 'e']
  | bool false => ['f', 'a', 'l', 's', 'e']
  | number n => n.chars
  | text s => Literal.quote s.toList
  | array [] => ['[', ']']
  | array (item :: rest) =>
    '[' :: (newLine (level + 1) ++ (pretty (level + 1) item ++
      (prettyItems (level + 1) rest ++ (newLine level ++ [']']))))
  | object [] => ['\x7b', '\x7d']
  | object ((key, value) :: rest) =>
    '\x7b' :: (newLine (level + 1) ++ (Literal.quote key.toList ++ ':' :: ' ' ::
      (pretty (level + 1) value ++
        (prettyMembers (level + 1) rest ++ (newLine level ++ ['\x7d'])))))

/-- The items after the first one. -/
def prettyItems (level : Nat) : List Json → List Char
  | [] => []
  | item :: rest => ',' :: (newLine level ++ (pretty level item ++ prettyItems level rest))

/-- The members after the first one. -/
def prettyMembers (level : Nat) : List (String × Json) → List Char
  | [] => []
  | (key, value) :: rest =>
    ',' :: (newLine level ++ (Literal.quote key.toList ++ ':' :: ' ' ::
      (pretty level value ++ prettyMembers level rest)))

end

def prettyText (j : Json) : String := String.ofList (j.pretty 0)

end Json

end StoreClient
