-- The scan of a YAML text: what it keeps in mind between tokens, and one step for each
-- token.
import StoreClient.Yaml.Token

namespace StoreClient

namespace Yaml

/-! ## State -/

/-- A place where a key may have begun: it is one if a colon follows on its line. -/
structure KeyStart where
  /-- Whether nothing but a key may stand here. -/
  isRequired : Bool
  /-- How many tokens come before it. -/
  position : Nat
  index : Nat
  line : Nat
  column : Nat
deriving Inhabited

structure Scanner where
  cursor : Cursor
  /-- The tokens so far, the last one first. -/
  tokens : List Token
  /-- The columns of the open blocks, the innermost first. -/
  indents : List Nat
  /-- For the innermost bracket first and for the text outside all brackets last: where a key may
  have begun. -/
  keys : List (Option KeyStart)
  /-- Whether a key may begin here. -/
  allowsKey : Bool
deriving Inhabited

namespace Scanner

def start (text : List Char) : Scanner := ⟨Cursor.start text, [], [], [none], true⟩

def inFlow (s : Scanner) : Bool := 1 < s.keys.length

/-- The column of the innermost block, or -1 outside all blocks. -/
def indent (s : Scanner) : Int :=
  match s.indents with
  | column :: _ => column
  | [] => -1

def key (s : Scanner) : Option KeyStart := s.keys.head?.join

def setKey (s : Scanner) (key : Option KeyStart) : Scanner :=
  { s with keys := key :: s.keys.drop 1 }

def push (s : Scanner) (token : Token) : Scanner := { s with tokens := token :: s.tokens }

/-- Puts a token in after the first `position` tokens. -/
def insert (s : Scanner) (position : Nat) (token : Token) : Scanner :=
  let later := s.tokens.length - position
  { s with tokens := s.tokens.take later ++ token :: s.tokens.drop later }

def allowKey (s : Scanner) (flag : Bool) : Scanner := { s with allowsKey := flag }

/-- Moves on by some characters of the line. -/
def skipSome (s : Scanner) (n : Nat) : Scanner := { s with cursor := s.cursor.skipSome n }

/-! ## Keys and blocks -/

/-- Forgets where a key may have begun; a required one may not be forgotten. -/
def dropKey (s : Scanner) : Option Scanner :=
  match s.key with
  | some k => if k.isRequired then none else some (s.setKey none)
  | none => some s

/-- Notes that a key may begin here. -/
def saveKey (s : Scanner) : Option Scanner :=
  if !s.allowsKey then some s
  else
    s.dropKey.map fun s => s.setKey (some
      { isRequired := !s.inFlow && s.indent = (s.cursor.column : Int), position := s.tokens.length,
        index := s.cursor.index, line := s.cursor.line, column := s.cursor.column })

/-- A key ends on its line and within 1024 characters. -/
def isStale (s : Scanner) (k : KeyStart) : Bool :=
  k.line < s.cursor.line || k.index + 1024 < s.cursor.index

/-- Forgets the places that are too far back to begin a key. -/
def dropStaleKeys (s : Scanner) : Option Scanner :=
  let isLost (k : Option KeyStart) : Bool := k.any fun k => s.isStale k && k.isRequired
  if s.keys.any isLost then none
  else some { s with keys := s.keys.map fun k => k.filter fun k => !s.isStale k }

/-- Opens a block at a column, unless one is open there; its token goes before what has been read
since `position`. -/
def openBlock (s : Scanner) (column position : Nat) (token : Token) : Scanner :=
  if !s.inFlow && s.indent < (column : Int) then
    { s.insert position token with indents := column :: s.indents }
  else s

/-- Closes the blocks that are further in than a column. -/
def closeBlocks (column : Int) (s : Scanner) : Scanner :=
  if s.inFlow then s
  else
    let closed := (s.indents.takeWhile fun (i : Nat) => column < (i : Int)).length
    { s with indents := s.indents.drop closed,
             tokens := List.replicate closed Token.blockEnd ++ s.tokens }

/-! ## Between tokens -/

/-- Skips blanks, comments and line breaks. A tab is a blank only where no key may begin. The
first number bounds the calls. -/
def skipGap : Nat → Scanner → Scanner
  | 0, s => s
  | fuel + 1, s =>
    let c := s.cursor.skipWhile fun d => d == ' ' || (d == '\t' && (s.inFlow || !s.allowsKey))
    let c := if c.rest.head? == some '#' then c.skipWhile fun d => !isBreak d else c
    match c.rest with
    | d :: _ =>
      if isBreak d then
        skipGap fuel { s with cursor := c.lineBreak.2, allowsKey := s.allowsKey || !s.inFlow }
      else { s with cursor := c }
    | [] => { s with cursor := c }

/-! ## One token -/

/-- A token that ends all blocks. -/
def documentToken (s : Scanner) (token : Token) : Option Scanner :=
  (s.closeBlocks (-1)).dropKey.map fun s => ((s.allowKey false).push token).skipSome 3

def directiveToken (s : Scanner) : Option Scanner :=
  (s.closeBlocks (-1)).dropKey.bind fun s =>
    (directive? s.cursor).map fun (token, cursor) =>
      { (s.allowKey false).push token with cursor }

/-- An opening bracket. -/
def openBracket (s : Scanner) (token : Token) : Option Scanner :=
  s.saveKey.map fun s =>
    { ((s.allowKey true).push token).skipSome 1 with keys := none :: s.keys }

/-- A closing bracket. -/
def closeBracket (s : Scanner) (token : Token) : Option Scanner :=
  s.dropKey.map fun s =>
    { ((s.allowKey false).push token).skipSome 1 with
      keys := if s.inFlow then s.keys.drop 1 else s.keys }

def flowEntry (s : Scanner) : Option Scanner :=
  s.dropKey.map fun s => ((s.allowKey true).push .flowEntry).skipSome 1

/-- The dash of an entry. -/
def blockEntry (s : Scanner) : Option Scanner :=
  if !s.inFlow && !s.allowsKey then none
  else
    (s.openBlock s.cursor.column s.tokens.length .blockSequenceStart).dropKey.map fun s =>
      ((s.allowKey true).push .blockEntry).skipSome 1

/-- The question mark of a key. -/
def keyMark (s : Scanner) : Option Scanner :=
  if !s.inFlow && !s.allowsKey then none
  else
    (s.openBlock s.cursor.column s.tokens.length .blockMappingStart).dropKey.map fun s =>
      ((s.allowKey (!s.inFlow)).push .key).skipSome 1

/-- The colon of a value. What has been read since a key may have begun is the key; without one
the colon follows a question mark, or nothing. -/
def valueMark (s : Scanner) : Option Scanner :=
  match s.key with
  | some k =>
    let s := (s.insert k.position .key).openBlock k.column k.position .blockMappingStart
    some ((((s.setKey none).allowKey false).push .value).skipSome 1)
  | none =>
    if !s.inFlow && !s.allowsKey then none
    else
      let s := s.openBlock s.cursor.column s.tokens.length .blockMappingStart
      some (((s.allowKey (!s.inFlow)).push .value).skipSome 1)

/-- A token of one piece, at which a key may begin. -/
def piece (s : Scanner) (read : Scanner → Option (Token × Cursor)) : Option Scanner :=
  s.saveKey.bind fun s =>
    (read s).map fun (token, cursor) => { (s.allowKey false).push token with cursor }

def anchorPiece (token : String → Token) (s : Scanner) : Option (Token × Cursor) :=
  (anchorName? s.cursor.skip).map fun (name, c) => (token name, c)

def quotedPiece (quote : Char) (s : Scanner) : Option (Token × Cursor) :=
  (quotedText quote (s.cursor.rest.length + 1) [] s.cursor.skip).map fun (text, c) =>
    (.scalar false (String.ofList text), c)

def blockText (s : Scanner) (isFolded : Bool) : Option Scanner :=
  s.dropKey.bind fun s =>
    (Block.read isFolded s.indent s.cursor.skip).map fun (text, cursor) =>
      { (s.allowKey true).push (.scalar false (String.ofList text)) with cursor }

def plainPiece (s : Scanner) : Option Scanner :=
  s.saveKey.bind fun s =>
    (plainText s.inFlow (s.indent + 1) (s.cursor.rest.length + 1) [] Gap.empty s.cursor).map
      fun found =>
        { (s.allowKey found.broke).push (.scalar true (String.ofList found.text)) with
          cursor := found.cursor }

/-- Whether a text without quotes may start with the character that stands next. -/
def startsPlain (inFlow : Bool) : List Char → Bool
  | [] => false
  | c :: rest =>
    if isBlank c || isBreak c then false
    else if c == '-' then !(match rest with
      | d :: _ => isBlank d
      | [] => false)
    else if c == '?' || c == ':' then !inFlow && !endsWord rest
    else !",[]\x7b\x7d#&*!|>'\"%@`".toList.contains c

/-- The next token, given by the character that stands next. -/
def next (s : Scanner) : Option Scanner :=
  let afterFirst := s.cursor.rest.drop 1
  if s.cursor.column = 0 && s.cursor.rest.head? == some '%' then s.directiveToken
  else if s.cursor.atDocumentMarker then
    s.documentToken (if s.cursor.rest.head? == some '-' then .documentStart else .documentEnd)
  else
    match s.cursor.rest.head? with
    | none => some s
    | some '[' => s.openBracket .flowSequenceStart
    | some '\x7b' => s.openBracket .flowMappingStart
    | some ']' => s.closeBracket .flowSequenceEnd
    | some '\x7d' => s.closeBracket .flowMappingEnd
    | some ',' => s.flowEntry
    | some '*' => s.piece (anchorPiece .aliased)
    | some '&' => s.piece (anchorPiece .anchor)
    | some '!' => s.piece fun s => tagToken? s.inFlow s.cursor
    | some '\'' => s.piece (quotedPiece '\'')
    | some '"' => s.piece (quotedPiece '"')
    | some c =>
      if c == '-' && endsWord afterFirst then s.blockEntry
      else if c == '?' && (s.inFlow || endsWord afterFirst) then s.keyMark
      else if c == ':' && (s.inFlow || endsWord afterFirst) then s.valueMark
      else if c == '|' && !s.inFlow then s.blockText false
      else if c == '>' && !s.inFlow then s.blockText true
      else if startsPlain s.inFlow s.cursor.rest then s.plainPiece
      else none

/-- The end of the text. -/
def finish (s : Scanner) : Option (List Token) :=
  (s.closeBlocks (-1)).dropKey.map fun s => s.tokens.reverse

/-- The tokens from here on. The first number bounds the calls. -/
def run : Nat → Scanner → Option (List Token)
  | 0, _ => none
  | fuel + 1, s =>
    match (skipGap (s.cursor.rest.length + 1) s).dropStaleKeys with
    | none => none
    | some s =>
      let s := s.closeBlocks s.cursor.column
      if s.cursor.rest.isEmpty then s.finish
      else
        match s.next with
        | none => none
        | some s => run fuel s

end Scanner

/-- The tokens of a text, if it can be split into tokens. -/
def tokens? (text : List Char) : Option (List Token) :=
  if text.all isAllowed then (Scanner.start text).run (text.length + 2) else none

end Yaml

end StoreClient
