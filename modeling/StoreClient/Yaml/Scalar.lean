-- Scalars: texts without quotes, texts in quotes, and blocks of lines. Lines of the first
-- two are folded: a single break between words counts as a space.
import StoreClient.Number.Basic
import StoreClient.Text.Digits
import StoreClient.Yaml.Cursor

namespace StoreClient

namespace Yaml

/-! ## Between words -/

/-- What stands between two words: blanks on a line, or line breaks. -/
structure Gap where
  blanks : List Char
  /-- Whether the line has been left. -/
  broke : Bool
  first : List Char
  more : List Char
deriving Inhabited

namespace Gap

def empty : Gap := ⟨[], false, [], []⟩

/-- How a gap counts: a single break is a space, and of several the first one is dropped. -/
def text (g : Gap) : List Char :=
  if !g.broke then g.blanks
  else if g.first = ['\n'] then (if g.more.isEmpty then [' '] else g.more)
  else g.first ++ g.more

/-- Reads blanks and breaks. A tab before the column `indent` on a later line is refused. The
first number bounds the calls. -/
def read (indent : Int) : Nat → Gap → Cursor → Option (Gap × Cursor)
  | 0, g, c => some (g, c)
  | fuel + 1, g, c =>
    match c.rest with
    | [] => some (g, c)
    | d :: _ =>
      if isBlank d then
        if !g.broke then read indent fuel { g with blanks := g.blanks ++ [d] } c.skip
        else if d = '\t' && (c.column : Int) < indent then none
        else read indent fuel g c.skip
      else if isBreak d then
        let (b, c) := c.lineBreak
        if g.broke then read indent fuel { g with more := g.more ++ b } c
        else read indent fuel { g with blanks := [], broke := true, first := b } c
      else some (g, c)

end Gap

/-! ## Texts without quotes -/

/-- The characters that end a text inside brackets. -/
def isFlowIndicator (c : Char) : Bool :=
  c == ',' || c == '[' || c == ']' || c == '\x7b' || c == '\x7d'

/-- The characters up to a blank or an indicator. Inside brackets a colon right before an
indicator is refused. -/
def plainWord (inFlow : Bool) : List Char → Option (List Char)
  | [] => some []
  | c :: rest =>
    let follows (p : Char → Bool) : Bool := match rest with
      | d :: _ => p d
      | [] => false
    if isBlank c || isBreak c then some []
    else if inFlow && c == ':' && follows (fun d => isFlowIndicator d || d == '?') then none
    else if (c == ':' && endsWord rest) || (inFlow && isFlowIndicator c) then some []
    else (plainWord inFlow rest).map (c :: ·)

/-- A scalar, the place after it, and whether a new line has begun since its last word. -/
structure PlainText where
  text : List Char
  cursor : Cursor
  broke : Bool

/-- A text without quotes. Outside brackets it ends at a line that starts before the column
`indent`. The first number bounds the calls. -/
def plainText (inFlow : Bool) (indent : Int) :
    Nat → List Char → Gap → Cursor → Option PlainText
  | 0, text, gap, c => some ⟨text, c, gap.broke⟩
  | fuel + 1, text, gap, c =>
    if c.atDocumentMarker || c.rest.head? == some '#' then some ⟨text, c, gap.broke⟩
    else
      match plainWord inFlow c.rest with
      | none => none
      | some word =>
        let (text, gap) :=
          if word.isEmpty then (text, gap) else (text ++ gap.text ++ word, Gap.empty)
        let c := c.skipSome word.length
        if c.rest.isEmpty || !endsWord c.rest then some ⟨text, c, gap.broke⟩
        else
          match Gap.read indent (c.rest.length + 1) Gap.empty c with
          | none => none
          | some (gap, c) =>
            if !inFlow && (c.column : Int) < indent then some ⟨text, c, gap.broke⟩
            else plainText inFlow indent fuel text gap c

/-! ## Texts in quotes -/

/-- The character of an escape by letter. -/
def letterEscape? : Char → Option Char
  | '0' => some '\x00'
  | 'a' => some '\x07'
  | 'b' => some '\x08'
  | 't' | '\t' => some '\t'
  | 'n' => some '\n'
  | 'v' => some '\x0b'
  | 'f' => some '\x0c'
  | 'r' => some '\r'
  | 'e' => some '\x1b'
  | ' ' => some ' '
  | '"' => some '"'
  | '\'' => some '\''
  | '/' => some '/'
  | '\\' => some '\\'
  | 'N' => some '\u0085'
  | '_' => some '\u00a0'
  | 'L' => some '\u2028'
  | 'P' => some '\u2029'
  | _ => none

/-- How many digits an escape by number has. -/
def numberedEscape? : Char → Option Nat
  | 'x' => some 2
  | 'u' => some 4
  | 'U' => some 8
  | _ => none

/-- The character of an escape, given after its backslash, and how many characters it takes. -/
def escape? : List Char → Option (Char × Nat)
  | [] => none
  | e :: rest =>
    match numberedEscape? e with
    | none => (letterEscape? e).map fun c => (c, 1)
    | some count =>
      if rest.length < count then none
      else
        match Digits.char? (rest.take count) with
        | none => none
        | some c => some (c, count + 1)

/-- A word in quotes, the place after it, and whether an escaped break has ended it. -/
structure QuotedWord where
  text : List Char
  cursor : Cursor
  broke : Bool

/-- The characters up to a blank, an escaped break or the closing quote. In single quotes a
doubled quote stands for itself, in double quotes there are escapes. The first number bounds the
calls. -/
def quotedWord (quote : Char) : Nat → List Char → Cursor → Option QuotedWord
  | 0, text, c => some ⟨text, c, false⟩
  | fuel + 1, text, c =>
    match c.rest with
    | [] => some ⟨text, c, false⟩
    | d :: rest =>
      if isBlank d || isBreak d then some ⟨text, c, false⟩
      else if d = '\'' && quote = '\'' && rest.head? == some '\'' then
        quotedWord quote fuel (text ++ ['\'']) (c.skipSome 2)
      else if d = quote then some ⟨text, c, false⟩
      else if d = '\\' && quote = '"' then
        if !rest.isEmpty && endsLine rest then some ⟨text, c.skip.lineBreak.2, true⟩
        else
          match escape? rest with
          | none => none
          | some (e, count) => quotedWord quote fuel (text ++ [e]) (c.skipSome (count + 1))
      else quotedWord quote fuel (text ++ [d]) c.skip

/-- A text in quotes after its opening quote. The first number bounds the calls. -/
def quotedText (quote : Char) : Nat → List Char → Cursor → Option (List Char × Cursor)
  | 0, _, _ => none
  | fuel + 1, text, c =>
    if c.atDocumentMarker || c.rest.isEmpty then none
    else
      match quotedWord quote (c.rest.length + 1) [] c with
      | none => none
      | some word =>
        let text := text ++ word.text
        if word.cursor.rest.head? == some quote then some (text, word.cursor.skip)
        else
          match Gap.read 0 (word.cursor.rest.length + 1)
              { Gap.empty with broke := word.broke } word.cursor with
          | none => none
          | some (gap, c) => quotedText quote fuel (text ++ gap.text) c

/-! ## Blocks of lines -/

/-- What is kept of the breaks at the end of a block. -/
inductive Chomping where
  | strip | clip | keep
deriving DecidableEq, Repr

/-- The header of a block after its indicator: a sign and a digit in either order. -/
def blockHeader? (c : Cursor) : Option (Chomping × Nat × Cursor) :=
  let sign? : List Char → Option Chomping
    | '+' :: _ => some .keep
    | '-' :: _ => some .strip
    | _ => none
  let digit? : List Char → Option Nat
    | d :: _ => if Identifier.isAsciiDigit d then some (Number.digitValue d) else none
    | [] => none
  match sign? c.rest, digit? c.rest with
  | some sign, _ =>
    match digit? c.skip.rest with
    | some 0 => none
    | some n => some (sign, n, c.skipSome 2)
    | none => some (sign, 0, c.skip)
  | none, some 0 => none
  | none, some n =>
    match sign? c.skip.rest with
    | some sign => some (sign, n, c.skipSome 2)
    | none => some (.clip, n, c.skip)
  | none, none => some (.clip, 0, c)

/-- Skips the indentation of lines and gathers the breaks of empty ones. While the indentation
is not known (zero) all spaces are skipped, and the widest line counts. A tab in the indentation is
refused. The first number bounds the calls. -/
def blockBreaks (indent : Nat) : Nat → List Char → Nat → Cursor → Option (List Char × Nat × Cursor)
  | 0, breaks, widest, c => some (breaks, widest, c)
  | fuel + 1, breaks, widest, c =>
    let spaces := c.rest.takeWhile (· == ' ')
    let c := c.skipSome
      (if indent = 0 then spaces.length else min spaces.length (indent - c.column))
    let widest := max widest c.column
    match c.rest with
    | [] => some (breaks, widest, c)
    | d :: _ =>
      if d = '\t' && (indent = 0 || c.column < indent) then none
      else if isBreak d then
        let (b, c) := c.lineBreak
        blockBreaks indent fuel (breaks ++ b) widest c
      else some (breaks, widest, c)

/-- A block of lines read so far: its text, the last break, and the breaks of empty lines. -/
structure Block where
  text : List Char
  last : List Char
  empty : List Char
  /-- Whether the last line starts with a blank; such lines are not folded. -/
  wasIndented : Bool

namespace Block

/-- The text with the breaks before a new line. -/
def beforeLine (b : Block) (isFolded isIndented : Bool) : List Char :=
  if isFolded && b.last = ['\n'] && !b.wasIndented && !isIndented then
    b.text ++ (if b.empty.isEmpty then [' '] else b.empty)
  else b.text ++ b.last ++ b.empty

/-- The text at the end of the block. -/
def finished (b : Block) : Chomping → List Char
  | .strip => b.text
  | .clip => b.text ++ b.last
  | .keep => b.text ++ b.last ++ b.empty

/-- The lines of a block. The first number bounds the calls. -/
def lines (isFolded : Bool) (indent : Nat) : Nat → Block → Cursor → Option (Block × Cursor)
  | 0, b, c => some (b, c)
  | fuel + 1, b, c =>
    match c.rest with
    | [] => some (b, c)
    | d :: _ =>
      if c.column ≠ indent then some (b, c)
      else
        let isIndented := isBlank d
        let (line, c) := c.span fun e => !isBreak e
        let text := b.beforeLine isFolded isIndented ++ line
        let (last, c) := c.lineBreak
        match blockBreaks indent (c.rest.length + 1) [] 0 c with
        | none => none
        | some (empty, _, c) => lines isFolded indent fuel ⟨text, last, empty, isIndented⟩ c

/-- A block after its indicator, inside a block of the indentation `parent` (-1 outside all). -/
def read (isFolded : Bool) (parent : Int) (c : Cursor) : Option (List Char × Cursor) :=
  match blockHeader? c with
  | none => none
  | some (chomping, increment, c) =>
    let c := c.skipWhile isBlank
    let c := if c.rest.head? == some '#' then c.skipWhile fun d => !isBreak d else c
    if !endsLine c.rest then none
    else
      let (_, c) := c.lineBreak
      let known := if increment = 0 then 0 else (max parent 0).toNat + increment
      match blockBreaks known (c.rest.length + 1) [] 0 c with
      | none => none
      | some (empty, widest, c) =>
        let indent := if known = 0 then max widest (max (parent + 1).toNat 1) else known
        match lines isFolded indent (c.rest.length + 1) ⟨[], [], empty, false⟩ c with
        | none => none
        | some (b, c) => some (b.finished chomping, c)

end Block

end Yaml

end StoreClient
