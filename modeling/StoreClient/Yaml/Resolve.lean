-- What a text without quotes stands for: null, a truth value, a number, or itself.
import StoreClient.Json.Basic
import StoreClient.Number.Basic
import StoreClient.Text.Digits
import StoreClient.Text.Identifier

namespace StoreClient

namespace Yaml

/-! ## Numbers -/

/-- A leading zero before other digits, as in `007`: such a text is no number. -/
def hasLeadingZero (cs : List Char) : Bool :=
  let digits := match cs with
    | '-' :: rest | '+' :: rest => rest
    | cs => cs
  match digits with
  | '0' :: d :: rest => (d :: rest).all Identifier.isAsciiDigit
  | _ => false

/-- The base that a marker after a leading zero stands for. -/
def baseOf? : Char → Option Nat
  | 'x' => some 16
  | 'o' => some 8
  | 'b' => some 2
  | _ => none

/-- The whole number of a text, of any size. -/
def intOf? (cs : List Char) : Option Int :=
  let (sign, rest) : Int × List Char := match cs with
    | '-' :: rest => (-1, rest)
    | '+' :: rest => (1, rest)
    | rest => (1, rest)
  let based : Option Nat := match rest with
    | '0' :: marker :: digits => (baseOf? marker).bind fun base => Digits.number? base digits
    | _ => none
  match based with
  | some n => some (sign * n)
  | none => if hasLeadingZero cs then none else (Digits.number? 10 rest).map fun n => sign * n

/-- What stands after the digits of a number: an exponent or nothing. -/
def exponentOf? : List Char → Option Int
  | [] => some 0
  | e :: rest =>
    if e = 'e' || e = 'E' then
      match rest with
      | '-' :: digits => (Digits.number? 10 digits).map fun n => -(n : Int)
      | '+' :: digits => (Digits.number? 10 digits).map fun n => (n : Int)
      | digits => (Digits.number? 10 digits).map fun n => (n : Int)
    else none

/-- The double of a decimal number with a point, an exponent or both. -/
def doubleOf? (cs : List Char) : Option Double :=
  let (negative, cs) := match cs with
    | '-' :: rest => (true, rest)
    | '+' :: rest => (false, rest)
    | rest => (false, rest)
  let (whole, rest) := cs.span Identifier.isAsciiDigit
  let (fraction, rest) := match rest with
    | '.' :: rest => rest.span Identifier.isAsciiDigit
    | rest => ([], rest)
  if whole.isEmpty && fraction.isEmpty then none
  else
    match exponentOf? rest with
    | none => none
    | some e => Number.nearestDouble? negative (whole ++ fraction) (e - fraction.length)

/-- The texts of the infinities and of what is not a number. -/
def isNotFinite (s : String) : Bool :=
  [".inf", ".Inf", ".INF", "+.inf", "+.Inf", "+.INF", "-.inf", "-.Inf", "-.INF", ".nan", ".NaN",
   ".NAN"].contains s

/-! ## Plain texts -/

def isNull (s : String) : Bool := ["null", "Null", "NULL", "~"].contains s

def boolOf? (s : String) : Option Bool :=
  if ["true", "True", "TRUE"].contains s then some true
  else if ["false", "False", "FALSE"].contains s then some false
  else none

/-- A whole number as a value: beyond 64 bits but within 128 there is none. -/
def ofInt? (n : Int) : Option (Option Json) :=
  if -Int.pow 2 63 ≤ n ∧ n < Int.pow 2 64 then some (some (.number (.int n)))
  else if -Int.pow 2 127 ≤ n ∧ n < Int.pow 2 128 then some none
  else none

/-- A number that is not whole as a value; what is not finite becomes null. -/
def ofFloat? (s : String) : Option Json :=
  if isNotFinite s then some .null
  else if hasLeadingZero s.toList then none
  else (doubleOf? s.toList).map fun x => .number (.double x)

/-- The value of a whole number, if the text is one: the inner result is missing if there is no
such value. -/
def ofWhole? (s : String) : Option (Option Json) := (intOf? s.toList).bind ofInt?

/-- The value of a text without quotes, if it has one. -/
def ofPlain? (s : String) : Option Json :=
  if s.isEmpty || isNull s then some .null
  else
    match boolOf? s with
    | some b => some (.bool b)
    | none =>
      match ofWhole? s with
      | some value => value
      | none => some ((ofFloat? s).getD (.text s))

/-- The value of a text with a tag of the standard ones; other tags leave it a text. -/
def ofTagged? (tag s : String) : Option Json :=
  if tag = "tag:yaml.org,2002:bool" then (boolOf? s).map .bool
  else if tag = "tag:yaml.org,2002:int" then (ofWhole? s).join
  else if tag = "tag:yaml.org,2002:float" then
    if isNotFinite s then some .null else (doubleOf? s.toList).map fun x => .number (.double x)
  else if tag = "tag:yaml.org,2002:null" then if isNull s then some .null else none
  else some (.text s)

end Yaml

end StoreClient
