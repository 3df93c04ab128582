-- Which events are logged. A filter is a list of directives, of which the most specific one
-- that concerns an event decides.
import StoreClient.Log.Basic
import StoreClient.Text.Blank
import StoreClient.Text.Digits
import StoreClient.Text.Identifier

namespace StoreClient

/-- A rule on the events of some parts of the program. -/
structure Directive where
  /-- The origins of the events begin like this. -/
  origin : String
  /-- The events have a detail with this key. -/
  key : Option String
  /-- The least level that is logged; without one, nothing is. -/
  level : Option LogLevel
deriving DecidableEq, Repr, Inhabited

namespace Directive

/-! ## Meaning -/

def concerns (d : Directive) (e : Event) : Bool :=
  d.origin.toList.isPrefixOf e.origin.toList && d.key.all e.keys.contains

def allows (d : Directive) (e : Event) : Bool := d.level.any fun l => e.level.rank ≤ l.rank

/-- Whether a directive is at least as specific as another: a longer origin goes first, then a
key, then the later key in order. -/
def isAsSpecific (d other : Directive) : Bool :=
  let size := d.origin.utf8ByteSize
  let otherSize := other.origin.utf8ByteSize
  if size ≠ otherSize then otherSize < size
  else
    match d.key, other.key with
    | none, some _ => false
    | some k, some otherKey => otherKey ≤ k
    | _, none => true

/-- Of two directives the more specific one, or else the second. -/
def moreSpecific (best : Option Directive) (d : Directive) : Option Directive :=
  match best with
  | none => some d
  | some b => if d.isAsSpecific b then some d else some b

end Directive

/-- A filter. -/
structure LogFilter where
  directives : List Directive
deriving DecidableEq, Repr, Inhabited

/-- Whether an event is logged. -/
def LogFilter.admits (f : LogFilter) (e : Event) : Bool :=
  ((f.directives.filter (·.concerns e)).foldl Directive.moreSpecific none).any (·.allows e)

/-! ## From text -/

namespace LogLevel

/-- The level of a text: a number up to five or a name in any case; the inner result is missing
where nothing is logged. -/
def ofText? (text : List Char) : Option (Option LogLevel) :=
  let digits := match text with
    | '+' :: rest => rest
    | cs => cs
  match Digits.number? 10 digits with
  | some n => if n = 0 then some none else (all.find? fun l => l.rank = n).map some
  | none =>
    let lower := String.ofList (text.map Char.toLower)
    if lower = "off" then some none
    else (all.find? fun l => String.ofList (l.name.toList.map Char.toLower) = lower).map some

/-- The level after an equals sign; none written means all levels. -/
def ofSetting? (text : List Char) : Option (Option LogLevel) :=
  if text.isEmpty then some (some .trace) else ofText? text

end LogLevel

/-- A directive as it is written. It may name a span, or give a detail a value; such a directive
is about the inside of spans, and says nothing of events. -/
structure WrittenDirective where
  directive : Directive
  isOfSpans : Bool
deriving DecidableEq, Repr, Inhabited

namespace WrittenDirective

def isBlank (c : Char) : Bool := Blank.isSpace c

/-- A text without the blanks around it. -/
def trim (cs : List Char) : List Char :=
  ((cs.dropWhile isBlank).reverse.dropWhile isBlank).reverse

/-- What stands between two positions of a text. -/
def between (text : List Char) (start stop : Nat) : List Char := (text.take stop).drop start

/-- The characters that a directive may start with, brackets apart. -/
def isStart (c : Char) : Bool :=
  c == '-' || c == ':' || c == '_' || Identifier.isAsciiLetter c || Identifier.isAsciiDigit c ||
    0x80 ≤ c.toNat

/-- The directive whose origin and brackets are read; a level may follow at a position. -/
def leveled? (text : List Char) (origin : List Char) (key : Option String) (isOfSpans : Bool)
    (position : Nat) : List Char → Option WrittenDirective
  | [] => some ⟨⟨String.ofList origin, key, some .trace⟩, isOfSpans⟩
  | '=' :: _ =>
    (LogLevel.ofSetting? (text.drop (position + 1))).map fun level =>
      ⟨⟨String.ofList origin, key, level⟩, isOfSpans⟩
  | _ => none

/-- The directive whose origin is read, from what follows the opening bracket on. -/
def bracketed? (text : List Char) (origin : List Char) (start : Nat) (rest : List Char) :
    Option WrittenDirective :=
  let span := rest.takeWhile fun c => c != ']' && c != '\x7b'
  match rest.drop span.length with
  | ']' :: rest => leveled? text origin none true (start + span.length + 1) rest
  | '\x7b' :: rest =>
    let first := start + span.length + 1
    let field := rest.takeWhile (· != '\x7d')
    match rest.drop field.length with
    | '\x7d' :: ']' :: rest =>
      let field := between text first (first + field.length)
      if field.isEmpty then none
      else
        let key := field.takeWhile (· != '=')
        leveled? text origin (some (String.ofList key)) (!span.isEmpty || field.contains '=')
          (first + field.length + 2) rest
    | _ => none
  | _ => none

/-- One directive. Its form is found without the blanks around the text, but the parts are cut
out of the whole text at the positions found. -/
def ofText? (text : List Char) : Option WrittenDirective :=
  match trim text with
  | [] => none
  | '[' :: rest => bracketed? text [] 1 rest
  | c :: cs =>
    if !isStart c then none
    else
      let name := (c :: cs).takeWhile fun c => c != '=' && c != '['
      match (c :: cs).drop name.length with
      | '=' :: rest => leveled? text (text.take name.length) none false name.length ('=' :: rest)
      | '[' :: rest => bracketed? text (text.take name.length) (name.length + 1) rest
      | _ =>
        match LogLevel.ofText? text with
        | some level => some ⟨⟨"", none, level⟩, false⟩
        | none => some ⟨⟨String.ofList text, none, some .trace⟩, false⟩

end WrittenDirective

namespace LogFilter

/-- The text between commas. -/
def pieces : List Char → List (List Char)
  | [] => [[]]
  | c :: rest =>
    match pieces rest with
    | piece :: others => if c = ',' then [] :: piece :: others else (c :: piece) :: others
    | [] => [[c]]

/-- The filter of a text: directives with commas between them. Without any, only errors are
logged. -/
def ofText? (text : String) : Option LogFilter :=
  let texts := (pieces text.toList).filter fun piece => !piece.isEmpty
  match texts.mapM WrittenDirective.ofText? with
  | none => none
  | some [] => some ⟨[⟨"", none, some .error⟩]⟩
  | some all => some ⟨(all.filter fun w => !w.isOfSpans).map (·.directive)⟩

end LogFilter

end StoreClient
