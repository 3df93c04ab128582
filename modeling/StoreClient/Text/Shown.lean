-- A text in quotes as messages show it: what has no printed form of its own, or would
-- be drawn on the character before it, is written as an escape.
import StoreClient.Text.CaseTable
import StoreClient.Text.HiddenTable
import StoreClient.Text.Literal
import StoreClient.Text.MarkTable

namespace StoreClient

namespace Shown

def isHidden (c : Char) : Bool := CaseTable.within HiddenTable.hidden c.toNat

/-- Extending marks; the colours of faces stand alone. -/
def isDrawnOnOthers (c : Char) : Bool :=
  CaseTable.within MarkTable.extending c.toNat && !(0x1f3fb ≤ c.toNat && c.toNat ≤ 0x1f3ff)

/-- The number of a character in braces. -/
def numbered (c : Char) : List Char :=
  '\\' :: 'u' :: '\x7b' :: (Nat.toDigits 16 c.toNat ++ ['\x7d'])

def escape (c : Char) : List Char :=
  match c with
  | '"' => ['\\', '"']
  | '\\' => ['\\', '\\']
  | '\n' => ['\\', 'n']
  | '\r' => ['\\', 'r']
  | '\t' => ['\\', 't']
  | '\x00' => ['\\', '0']
  | c =>
    if 32 ≤ c.toNat && c.toNat < 127 then [c]
    else if isHidden c || isDrawnOnOthers c then numbered c
    else [c]

/-- The text in quotes. -/
def ofString (s : String) : String :=
  String.ofList ('"' :: (s.toList.flatMap escape ++ ['"']))

end Shown

end StoreClient
