-- The tokens of a template's text: text, places between double braces, and tags between
-- braces with a percent sign. A hyphen at a brace eats the blanks on that side.
import StoreClient.Number.Basic
import StoreClient.Template.Basic
import StoreClient.Text.Identifier

namespace StoreClient

namespace Template

/-- A word inside a place or a tag. -/
inductive Lexeme where
  | operand (value : Operand)
  /-- A name that is not gone down from; it may also be a keyword. -/
  | bare (name : String)
  | bar
  | colon
  | comma
deriving Inhabited

inductive Token where
  | plain (text : List Char)
  | output (lexemes : List Lexeme)
  | tag (name : String) (lexemes : List Lexeme)
deriving Inhabited

namespace Lexeme

/-! ## Words -/

def isBlank (c : Char) : Bool := c == ' ' || c == '\t' || c == '\r' || c == '\n'

def isNameStart (c : Char) : Bool := Identifier.isAsciiLetter c || c == '_'

def isNamePart (c : Char) : Bool := isNameStart c || Identifier.isAsciiDigit c

/-- What follows the closing of a place (`brace` is a brace) or of a tag (`brace` is a percent
sign), and whether it eats the blanks after it. -/
def closing? (brace : Char) (cs : List Char) : Option (List Char) :=
  match cs with
  | '-' :: b :: '\x7d' :: rest => if b = brace then some (rest.dropWhile isBlank) else none
  | b :: '\x7d' :: rest => if b = brace then some rest else none
  | _ => none

/-- A name may hold hyphens, but not the one of a closing. -/
def splitName : List Char → List Char × List Char
  | [] => ([], [])
  | '-' :: b :: '\x7d' :: rest =>
    if b = '%' || b = '\x7d' then ([], '-' :: b :: '\x7d' :: rest)
    else
      let (name, rest) := splitName (b :: '\x7d' :: rest)
      ('-' :: name, rest)
  | c :: rest =>
    if isNamePart c || c == '-' then
      let (name, rest) := splitName rest
      (c :: name, rest)
    else ([], c :: rest)

/-- A text after its opening quote; there are no escapes. -/
def quoted? (quote : Char) : List Char → Option (List Char × List Char)
  | [] => none
  | c :: rest =>
    if c = quote then some ([], rest) else (quoted? quote rest).map fun (s, r) => (c :: s, r)

/-- A whole number after its sign. -/
def integer? (negative : Bool) (cs : List Char) : Option (Operand × List Char) :=
  let (digits, rest) := cs.span Identifier.isAsciiDigit
  if digits.isEmpty then none
  else
    let n : Int := Number.natOfDigits digits
    some (.literal (.number (.int (if negative then -n else n))), rest)

/-- A name that stands for a value of its own. -/
def constant? (name : String) : Option Json :=
  if name = "true" then some (.bool true)
  else if name = "false" then some (.bool false)
  else if name = "nil" || name = "null" then some .null
  else none

mutual

/-- One value and the rest. The first number bounds the calls. -/
def value? : Nat → List Char → Option (Operand × List Char)
  | 0, _ => none
  | fuel + 1, cs =>
    match cs with
    | [] => none
    | '"' :: rest => (quoted? '"' rest).map fun (s, r) => (.literal (.text (String.ofList s)), r)
    | '\'' :: rest => (quoted? '\'' rest).map fun (s, r) => (.literal (.text (String.ofList s)), r)
    | '-' :: rest => integer? true rest
    | '+' :: rest => integer? false rest
    | c :: rest =>
      if Identifier.isAsciiDigit c then integer? false (c :: rest)
      else if isNameStart c then
        let (name, rest) := splitName (c :: rest)
        let name := String.ofList name
        match steps? fuel rest with
        | none => none
        | some ([], rest) =>
          match constant? name with
          | some j => some (.literal j, rest)
          | none => some (.path name [], rest)
        | some (steps, rest) => some (.path name steps, rest)
      else none

/-- The members and items to go down to. -/
def steps? : Nat → List Char → Option (List Operand × List Char)
  | 0, _ => none
  | fuel + 1, cs =>
    match cs with
    | '.' :: c :: rest =>
      if isNameStart c then
        let (name, rest) := splitName (c :: rest)
        match steps? fuel rest with
        | some (steps, rest) => some (.literal (.text (String.ofList name)) :: steps, rest)
        | none => none
      else none
    | '[' :: rest =>
      match value? fuel (rest.dropWhile isBlank) with
      | none => none
      | some (index, rest) =>
        match rest.dropWhile isBlank with
        | ']' :: rest =>
          match steps? fuel rest with
          | some (steps, rest) => some (index :: steps, rest)
          | none => none
        | _ => none
    | rest => some ([], rest)

end

/-- A value as a word: a bare name stays a name. -/
def ofOperand : Operand → Lexeme
  | .path root [] => bare root
  | value => operand value

/-- The words up to a closing, and what follows it. -/
def upToClosing? (brace : Char) : Nat → List Char → Option (List Lexeme × List Char)
  | 0, _ => none
  | fuel + 1, cs =>
    let cs := cs.dropWhile isBlank
    match closing? brace cs with
    | some rest => some ([], rest)
    | none =>
      let word : Option (Lexeme × List Char) :=
        match cs with
        | '|' :: rest => some (bar, rest)
        | ':' :: rest => some (colon, rest)
        | ',' :: rest => some (comma, rest)
        | cs => (value? cs.length cs).map fun (value, rest) => (ofOperand value, rest)
      match word with
      | none => none
      | some (lexeme, rest) =>
        (upToClosing? brace fuel rest).map fun (lexemes, rest) => (lexeme :: lexemes, rest)

end Lexeme

namespace Token

open Lexeme (isBlank)

/-! ## Parts that are not looked at -/

/-- What follows a tag without words, if it stands here. -/
def plainTag? (name : List Char) (cs : List Char) : Option (List Char) :=
  let inside : Option (List Char) :=
    match cs.dropWhile isBlank, cs with
    | '\x7b' :: '%' :: '-' :: rest, _ => some rest
    | _, '\x7b' :: '%' :: rest => some rest
    | _, _ => none
  match inside with
  | none => none
  | some rest =>
    let (found, rest) := Lexeme.splitName (rest.dropWhile isBlank)
    if found = name then Lexeme.closing? '%' (rest.dropWhile isBlank) else none

/-- The text up to a tag without words, and what follows the tag. -/
def upToTag? (name : List Char) : List Char → Option (List Char × List Char)
  | [] => none
  | c :: rest =>
    match plainTag? name (c :: rest) with
    | some after => some ([], after)
    | none => (upToTag? name rest).map fun (text, after) => (c :: text, after)

/-! ## Tokens -/

/-- Text without the blanks at its end. -/
def trimEnd (text : List Char) : List Char := (text.reverse.dropWhile isBlank).reverse

/-- The text before a token; nothing if there is none. -/
def textBefore (text : List Char) : List Token := if text.isEmpty then [] else [.plain text]

/-- The tokens of a text. The first number bounds the calls; `before` is the text since the last
token, its last character first. -/
def scan : Nat → List Char → List Char → Option (List Token)
  | 0, _, _ => none
  | _ + 1, before, [] => some (textBefore before.reverse)
  | fuel + 1, before, '\x7b' :: '\x7b' :: rest =>
    let (text, rest) := match rest with
      | '-' :: rest => (trimEnd before.reverse, rest)
      | rest => (before.reverse, rest)
    match Lexeme.upToClosing? '\x7d' fuel rest with
    | none => none
    | some (lexemes, rest) =>
      (scan fuel [] rest).map fun tokens => textBefore text ++ output lexemes :: tokens
  | fuel + 1, before, '\x7b' :: '%' :: rest =>
    let (text, rest) := match rest with
      | '-' :: rest => (trimEnd before.reverse, rest)
      | rest => (before.reverse, rest)
    match Lexeme.upToClosing? '%' fuel rest with
    | some (.bare name :: lexemes, rest) =>
      if name = "raw" && lexemes.isEmpty then
        match upToTag? "endraw".toList rest with
        | none => none
        | some (raw, rest) =>
          (scan fuel [] rest).map fun tokens => textBefore text ++ textBefore raw ++ tokens
      else if name = "comment" && lexemes.isEmpty then
        match upToTag? "endcomment".toList rest with
        | none => none
        | some (_, rest) => (scan fuel [] rest).map fun tokens => textBefore text ++ tokens
      else (scan fuel [] rest).map fun tokens => textBefore text ++ tag name lexemes :: tokens
    | _ => none
  | fuel + 1, before, c :: rest => scan fuel (c :: before) rest

/-- The tokens of a text, if all its places and tags are well formed. -/
def ofText? (text : List Char) : Option (List Token) := scan (2 * text.length + 2) [] text

end Token

end Template

end StoreClient
