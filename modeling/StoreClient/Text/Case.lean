-- Upper and lower case of any text. A capital sigma at the end of a word becomes the
-- final sigma; every other character has one counterpart wherever it stands.
import StoreClient.Text.CaseTable

namespace StoreClient

namespace Case

/-- The counterpart of one character by a pair of tables. -/
def mapped (runs : List CaseTable.Run) (several : List (Nat × List Nat)) (c : Char) : List Char :=
  match several.lookup c.toNat with
  | some codes => codes.map Char.ofNat
  | none => [Char.ofNat (CaseTable.moved runs c.toNat)]

/-- One character in upper case: `ß` becomes two characters. -/
def upperChar (c : Char) : List Char :=
  if c.toNat < 128 then [c.toUpper] else mapped CaseTable.upper CaseTable.upperSeveral c

/-- One character in lower case, away from the end of a word. -/
def lowerChar (c : Char) : List Char :=
  if c.toNat < 128 then [c.toLower] else mapped CaseTable.lower CaseTable.lowerSeveral c

def isCased (c : Char) : Bool := CaseTable.within CaseTable.cased c.toNat

def isIgnorable (c : Char) : Bool := CaseTable.within CaseTable.caseIgnorable c.toNat

/-- Whether a cased character comes first, after characters that do not end a word. -/
def startsCased (cs : List Char) : Bool :=
  match cs.dropWhile isIgnorable with
  | c :: _ => isCased c
  | [] => false

def upper (cs : List Char) : List Char := cs.flatMap upperChar

/-- Lower case of a text whose characters before it are `before`, the last one first. -/
def lowerAfter : List Char → List Char → List Char
  | _, [] => []
  | before, c :: rest =>
    let here :=
      if c = 'Σ' then [if startsCased before && !startsCased rest then 'ς' else 'σ']
      else lowerChar c
    here ++ lowerAfter (c :: before) rest

def lower (cs : List Char) : List Char := lowerAfter [] cs

end Case

end StoreClient
