-- The tokens of a YAML text. Blocks are recognized by their indentation: a token is put in
-- where a block begins and where it ends. A key is recognized only at the colon after it, so the
-- token that announces it is put in before what has been read since.
import StoreClient.Yaml.Scalar

namespace StoreClient

namespace Yaml

inductive Token where
  | version (major minor : Nat)
  /-- A handle for tags, and what it stands for. -/
  | handle (handle uri : String)
  | documentStart
  | documentEnd
  | blockSequenceStart
  | blockMappingStart
  | blockEnd
  | flowSequenceStart
  | flowSequenceEnd
  | flowMappingStart
  | flowMappingEnd
  | blockEntry
  | flowEntry
  | key
  | value
  | aliased (name : String)
  | anchor (name : String)
  /-- The handle is empty for a tag that is written out. -/
  | tag (handle suffix : String)
  | scalar (isPlain : Bool) (text : String)
deriving DecidableEq, Repr, Inhabited

/-! ## Names, tags and directives -/

/-- The characters of a tag. -/
def isTagChar (c : Char) : Bool := isWordChar c || ";/?:@&=+$.!~*'()".toList.contains c

/-- The character that some bytes in percent escapes give. The first escape says how many bytes
there are. -/
def percentEscape? (cs : List Char) : Option (Char × Nat) :=
  let byte? : List Char → Option Nat
    | '%' :: a :: b :: _ => Digits.number? 16 [a, b]
    | _ => none
  let trailing? (n : Nat) : List Char → Option Nat := fun cs =>
    match byte? cs with
    | some b => if b / 64 = 2 then some (n * 64 + b % 64) else none
    | none => none
  match byte? cs with
  | none => none
  | some b =>
    if b < 0x80 then some (Char.ofNat b, 1)
    else if b / 32 = 6 then (trailing? (b % 32) (cs.drop 3)).map fun n => (Char.ofNat n, 2)
    else if b / 16 = 14 then
      ((trailing? (b % 16) (cs.drop 3)).bind fun n => trailing? n (cs.drop 6)).map fun n =>
        (Char.ofNat n, 3)
    else if b / 8 = 30 then
      (((trailing? (b % 8) (cs.drop 3)).bind fun n => trailing? n (cs.drop 6)).bind fun n =>
        trailing? n (cs.drop 9)).map fun n => (Char.ofNat n, 4)
    else none

/-- The characters of a tag from here on; inside angle brackets and in directives it may hold
commas and square brackets. The first number bounds the calls. -/
def tagText? (isWrittenOut : Bool) : Nat → Cursor → Option (List Char × Cursor)
  | 0, c => some ([], c)
  | fuel + 1, c =>
    match c.rest with
    | '%' :: _ =>
      match percentEscape? c.rest with
      | none => none
      | some (d, count) =>
        (tagText? isWrittenOut fuel (c.skipSome (3 * count))).map fun (text, c) => (d :: text, c)
    | d :: _ =>
      if isTagChar d || (isWrittenOut && (d == ',' || d == '[' || d == ']')) then
        (tagText? isWrittenOut fuel c.skip).map fun (text, c) => (d :: text, c)
      else some ([], c)
    | [] => some ([], c)

/-- A handle: exclamation marks around a word, or a single one before it. -/
def handleText (c : Cursor) : List Char × Cursor :=
  let (word, after) := c.skip.span isWordChar
  if after.rest.head? == some '!' then ('!' :: word ++ ['!'], after.skip)
  else ('!' :: word, after)

/-- A tag, from its exclamation mark on. -/
def tagToken? (inFlow : Bool) (c : Cursor) : Option (Token × Cursor) :=
  let scanned : Option (Token × Cursor) :=
    match c.rest with
    | '!' :: '<' :: _ =>
      match tagText? true c.rest.length (c.skipSome 2) with
      | some (text, after) =>
        if text.isEmpty || after.rest.head? != some '>' then none
        else some (.tag "" (String.ofList text), after.skip)
      | none => none
    | _ =>
      let (handle, after) := handleText c
      let isNamed := 1 < handle.length && handle.getLast? == some '!'
      match tagText? false c.rest.length after with
      | none => none
      | some (text, after) =>
        if isNamed then
          if text.isEmpty then none
          else some (.tag (String.ofList handle) (String.ofList text), after)
        else
          let suffix := handle.drop 1 ++ text
          if suffix.isEmpty then some (.tag "" "!", after)
          else some (.tag "!" (String.ofList suffix), after)
  match scanned with
  | some (token, c) =>
    if endsWord c.rest || (inFlow && c.rest.head? == some ',') then some (token, c) else none
  | none => none

/-- The name of an anchor or an alias, after its indicator. -/
def anchorName? (c : Cursor) : Option (String × Cursor) :=
  let (name, c) := c.span isWordChar
  let isEnded := endsWord c.rest || (match c.rest with
    | d :: _ => "?:,]\x7d%@`".toList.contains d
    | [] => true)
  if name.isEmpty || !isEnded then none else some (String.ofList name, c)

/-- A number of a version: at most nine digits. -/
def versionNumber? (c : Cursor) : Option (Nat × Cursor) :=
  let (digits, c) := c.span Identifier.isAsciiDigit
  if digits.isEmpty || 9 < digits.length then none else some (Number.natOfDigits digits, c)

/-- The value of a version directive. -/
def version? (c : Cursor) : Option (Token × Cursor) :=
  match versionNumber? (c.skipWhile isBlank) with
  | none => none
  | some (major, c) =>
    if c.rest.head? != some '.' then none
    else (versionNumber? c.skip).map fun (minor, c) => (.version major minor, c)

/-- The value of a directive for a tag handle. -/
def handle? (c : Cursor) : Option (Token × Cursor) :=
  let c := c.skipWhile isBlank
  if c.rest.head? != some '!' then none
  else
    let (handle, c) := handleText c
    let isWhole := handle = ['!'] || (1 < handle.length && handle.getLast? == some '!')
    let isSeparated := match c.rest with
      | d :: _ => isBlank d
      | [] => false
    if !isWhole || !isSeparated then none
    else
      let c := c.skipWhile isBlank
      match tagText? true c.rest.length c with
      | none => none
      | some (uri, c) =>
        if uri.isEmpty || !endsWord c.rest then none
        else some (.handle (String.ofList handle) (String.ofList uri), c)

/-- A directive, from its percent sign on to the end of the line. -/
def directive? (c : Cursor) : Option (Token × Cursor) :=
  let (name, c) := c.skip.span isWordChar
  if !endsWord c.rest then none
  else
    let scanned :=
      if name = "YAML".toList then version? c
      else if name = "TAG".toList then handle? c
      else none
    match scanned with
    | none => none
    | some (token, c) =>
      let c := c.skipWhile isBlank
      let c := if c.rest.head? == some '#' then c.skipWhile fun d => !isBreak d else c
      if endsLine c.rest then some (token, c.lineBreak.2) else none

end Yaml

end StoreClient
