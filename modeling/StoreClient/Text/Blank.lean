-- White space of Unicode.
import StoreClient.Text.CaseTable

namespace StoreClient

namespace Blank

/-- The ranges of white space: ASCII blanks, line ends, and spaces of any width. -/
def ranges : List (Nat × Nat) :=
  [(0x0009, 0x000d), (0x0020, 0x0020), (0x0085, 0x0085), (0x00a0, 0x00a0), (0x1680, 0x1680),
   (0x2000, 0x200a), (0x2028, 0x2029), (0x202f, 0x202f), (0x205f, 0x205f), (0x3000, 0x3000)]

def isSpace (c : Char) : Bool := CaseTable.within ranges c.toNat

def trimStart (cs : List Char) : List Char := cs.dropWhile isSpace

end Blank

end StoreClient
