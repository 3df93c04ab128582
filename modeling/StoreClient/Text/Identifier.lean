-- The two kinds of name that the generated client may use without quotes: names of
-- values and properties, and names of types.

namespace StoreClient

namespace Identifier

def isAsciiLetter (c : Char) : Bool := ('a' ≤ c && c ≤ 'z') || ('A' ≤ c && c ≤ 'Z')

def isAsciiDigit (c : Char) : Bool := '0' ≤ c && c ≤ '9'

/-- A property name that needs no quotes starts so. -/
def isStart (c : Char) : Bool := isAsciiLetter c || c == '_' || c == '$'

/-- A property name that needs no quotes goes on so. -/
def isPart (c : Char) : Bool := isAsciiLetter c || isAsciiDigit c || c == '_' || c == '$'

/-- Whether a name may stand as a property or a variable without quotes. -/
def isPlain : List Char → Bool
  | [] => false
  | c :: rest => isStart c && rest.all isPart

/-- Whether a generated type name is usable: an ASCII letter, then letters, digits or `_`. -/
def isTypeName : List Char → Bool
  | [] => false
  | c :: rest => isAsciiLetter c && rest.all fun d => isAsciiLetter d || isAsciiDigit d || d == '_'

end Identifier

end StoreClient
