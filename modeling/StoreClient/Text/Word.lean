-- The words of a name, and the name of a type made from them: each word with a capital
-- first letter and the rest in lower case, all run together.
import StoreClient.Text.Case
import StoreClient.Text.Identifier
import StoreClient.Text.MarkTable

namespace StoreClient

namespace Word

/-! ## Letters with their marks -/

def isMark (c : Char) : Bool :=
  768 ≤ c.toNat &&
    (CaseTable.within MarkTable.extending c.toNat || CaseTable.within MarkTable.spacing c.toNat)

def isPrepended (c : Char) : Bool :=
  768 ≤ c.toNat && CaseTable.within MarkTable.prepended c.toNat

/-- A character together with what is written on it: signs before it and marks after it. -/
abbrev Letter := List Char

/-- Splits a text into letters. -/
def letters : List Char → List Letter
  | [] => []
  | c :: rest =>
    match letters rest with
    | [] => [[c]]
    | l :: ls =>
      let joined := isPrepended c || (match l with
        | d :: _ => isMark d
        | [] => false)
      if joined then (c :: l) :: ls else [c] :: l :: ls

/-- A letter that differs from its lower case. -/
def isUpper (l : Letter) : Bool := Case.upper l != Case.lower l && l == Case.upper l

/-- A letter that differs from its upper case. -/
def isLower (l : Letter) : Bool := Case.upper l != Case.lower l && l == Case.lower l

def isDigit (l : Letter) : Bool := l.all Identifier.isAsciiDigit

/-! ## Where words end -/

/-- Letters that only separate words and belong to none. -/
def isSeparator (l : Letter) : Bool := l == ['_'] || l == ['-'] || l == [' ']

/-- Whether a word ends between two neighbours: where lower case turns to upper case, and
where letters with a case meet digits. -/
def parts (l r : Letter) : Bool :=
  (isLower l && isUpper r) || (isUpper l && isDigit r) || (isDigit l && isUpper r) ||
    (isDigit l && isLower r) || (isLower l && isDigit r)

/-- Whether a word ends after the first of these letters. The last of several capitals before a
lower case letter belongs to the next word. -/
def endsAfterFirst : List Letter → Bool
  | l :: m :: rest =>
    parts l m || (isUpper l && isUpper m && (match rest with
      | n :: _ => isLower n
      | [] => false))
  | _ => false

/-- The words of a run of letters, some of them perhaps empty. -/
def split : List Letter → List (List Letter)
  | [] => [[]]
  | l :: rest =>
    if isSeparator l then [] :: split rest
    else
      match split rest with
      | w :: ws => if endsAfterFirst (l :: rest) then [l] :: w :: ws else (l :: w) :: ws
      | [] => [[l]]

/-- The words of a name. -/
def words (cs : List Char) : List (List Letter) := (split (letters cs)).filter fun w => !w.isEmpty

/-! ## Type names -/

/-- A word with its first letter in upper case and the rest in lower case. -/
def capitalized : List Letter → List Char
  | [] => []
  | l :: rest => Case.upper l ++ Case.lower rest.flatten

/-- The type name made from a name: `user_posts` and `userPosts` both give `UserPosts`. -/
def pascal (cs : List Char) : List Char := (words cs).flatMap capitalized

def pascalCase (s : String) : String := String.ofList (pascal s.toList)

end Word

end StoreClient
