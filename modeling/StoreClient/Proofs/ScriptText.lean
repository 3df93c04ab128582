-- The tokens of an expression in the language of the generated client, each as long as it
-- can be. Only the tokens that are kept here are read, and a text with any other has none.
import StoreClient.Proofs.ClientDeclarations
import StoreClient.Proofs.JsonText

namespace StoreClient

namespace Script

/-! ## Tokens -/

/-- A token of an expression. -/
inductive Token where
  | word (name : String)
  | text (value : String)
  | number (value : Nat)
  | dot
  | openParen
  | closeParen
  | openBracket
  | closeBracket
  | question
  | colon
  /-- The mark `===`. -/
  | same
  /-- The mark `??`. -/
  | orElse
deriving DecidableEq, Repr

namespace Token

/-- The digits of a whole number that a double holds. A leading zero would change the base. -/
def isWhole (run : List Char) : Bool :=
  run.all Identifier.isAsciiDigit && run.length ≤ 15 && (run.head? != some '0' || run.length = 1)

/-- The token of a run of letters and digits. A point after a number would belong to it. -/
def ofRun? (run after : List Char) : Option (Token × List Char) :=
  if Identifier.isPlain run then some (.word (String.ofList run), after)
  else if isWhole run && after.head? != some '.' then
    some (.number (Number.natOfDigits run), after)
  else none

/-- A quoted text after its opening quote. It holds what a quoted text of JSON may hold, which
means the same here. -/
def quoted? (rest : List Char) : Option (Token × List Char) :=
  match Scan.text ⟨[], none, none⟩ rest with
  | (.text s, some after) => some (.text s, after)
  | _ => none

/-- The token of a mark. A point after a question mark makes another mark of the two. -/
def mark? : Char → List Char → Option (Token × List Char)
  | '.', rest => some (.dot, rest)
  | '(', rest => some (.openParen, rest)
  | ')', rest => some (.closeParen, rest)
  | '[', rest => some (.openBracket, rest)
  | ']', rest => some (.closeBracket, rest)
  | ':', rest => some (.colon, rest)
  | '=', '=' :: '=' :: rest => some (.same, rest)
  | '?', '?' :: rest => some (.orElse, rest)
  | '?', '.' :: _ => none
  | '?', rest => some (.question, rest)
  | _, _ => none

/-- The token that starts with a character, and what follows it. -/
def next? (c : Char) (rest : List Char) : Option (Token × List Char) :=
  if Identifier.isPart c then
    ofRun? (c :: rest.takeWhile Identifier.isPart) (rest.dropWhile Identifier.isPart)
  else if c = '"' then quoted? rest
  else mark? c rest

end Token

end Script

/-! ## From characters to tokens -/

/-- A plain name has a first character, and that may start a name. -/
theorem Identifier.exists_start {cs : List Char} (h : isPlain cs) :
    ∃ c rest, cs = c :: rest ∧ isStart c = true := by
  cases cs with
  | nil => cases h
  | cons c rest => exact ⟨c, rest, rfl, (Bool.and_eq_true_iff.mp h).1⟩

/-- What follows a quoted text is shorter than the two together. -/
theorem Scan.length_text {s : Inside} {cs after : List Char} {d : Draft}
    (h : text s cs = (d, some after)) : after.length < cs.length := by
  fun_induction text s cs with
  | case2 s rest =>
    simp only [Inside.closed] at h
    split at h <;> cases h <;> simp
  | _ =>
    simp_all [Inside.broken]
    try omega

namespace Script

namespace Token

theorem length_quoted? {rest after : List Char} {t : Token} (h : quoted? rest = some (t, after)) :
    after.length < rest.length := by
  unfold quoted? at h
  split at h <;> cases h
  rename_i htext
  exact Scan.length_text htext

theorem length_next? {c : Char} {rest after : List Char} {t : Token}
    (h : next? c rest = some (t, after)) : after.length ≤ rest.length := by
  unfold next? at h
  split at h
  · have hle : (rest.dropWhile Identifier.isPart).length ≤ rest.length :=
      (List.dropWhile_suffix _).length_le
    unfold ofRun? at h
    split at h
    · cases h
      exact hle
    · split at h <;> cases h
      exact hle
  · split at h
    · exact Nat.le_of_lt (length_quoted? h)
    · unfold mark? at h
      split at h <;> cases h <;> grind

/-- The tokens of a text, with blanks between them or not. -/
def ofChars? : List Char → Option (List Token)
  | [] => some []
  | c :: rest =>
    if c = ' ' then ofChars? rest
    else
      match h : next? c rest with
      | some (t, after) =>
        have := length_next? h
        (ofChars? after).map (t :: ·)
      | none => none
termination_by cs => cs.length

@[simp] theorem ofChars?_nil : ofChars? [] = some [] := by rw [ofChars?]

@[simp] theorem ofChars?_blank (rest : List Char) : ofChars? (' ' :: rest) = ofChars? rest := by
  rw [ofChars?, if_pos rfl]

theorem ofChars?_cons {c : Char} (hblank : c ≠ ' ') (rest : List Char) :
    ofChars? (c :: rest) =
      (next? c rest).bind fun (t, after) => (ofChars? after).map (t :: ·) := by
  rw [ofChars?, if_neg hblank]
  split
  · rename_i hnext
    simp only [hnext, Option.bind_some]
  · rename_i hnext
    simp only [hnext, Option.bind_none]

section

variable (rest : List Char)

@[simp] theorem next?_dot : next? '.' rest = some (.dot, rest) := rfl

@[simp] theorem next?_openParen : next? '(' rest = some (.openParen, rest) := rfl

@[simp] theorem next?_closeParen : next? ')' rest = some (.closeParen, rest) := rfl

@[simp] theorem next?_openBracket : next? '[' rest = some (.openBracket, rest) := rfl

@[simp] theorem next?_closeBracket : next? ']' rest = some (.closeBracket, rest) := rfl

@[simp] theorem next?_colon : next? ':' rest = some (.colon, rest) := rfl

@[simp] theorem next?_same : next? '=' ('=' :: '=' :: rest) = some (.same, rest) := rfl

@[simp] theorem next?_orElse : next? '?' ('?' :: rest) = some (.orElse, rest) := rfl

@[simp] theorem next?_question : next? '?' (' ' :: rest) = some (.question, ' ' :: rest) := rfl

@[simp] theorem next?_emptyText : next? '"' ('"' :: rest) = some (.text "", rest) := rfl

end

/-- The tokens of a text. -/
def ofString? (s : String) : Option (List Token) := ofChars? s.toList

open ClientText (EndsName)

/-- A name is one token, unless more of a name follows it. -/
theorem next?_word {c : Char} {cs tail : List Char} (hname : Identifier.isPlain (c :: cs))
    (htail : tail.takeWhile Identifier.isPart = []) :
    next? c (cs ++ tail) = some (.word (String.ofList (c :: cs)), tail) := by
  have hdrop : tail.dropWhile Identifier.isPart = tail := by
    have hsplit := List.takeWhile_append_dropWhile (p := Identifier.isPart) (l := tail)
    rwa [htail] at hsplit
  obtain ⟨hstart, hparts⟩ := Bool.and_eq_true_iff.mp hname
  rw [List.all_eq_true] at hparts
  have hpart : Identifier.isPart c := Identifier.isPart_of_isStart hstart
  rw [next?, if_pos hpart, List.takeWhile_append_of_pos hparts, htail, List.append_nil,
    List.dropWhile_append_of_pos hparts, hdrop, ofRun?, if_pos hname]

/-- A quoted text is one token. -/
theorem next?_quote (s : String) (tail : List Char) :
    next? '"' (Literal.encode s.toList ++ '"' :: tail) = some (.text s, tail) := by
  have hnext : next? '"' (Literal.encode s.toList ++ '"' :: tail) =
      quoted? (Literal.encode s.toList ++ '"' :: tail) := rfl
  rw [hnext, quoted?, Scan.text_quote]

theorem ofString?_word {name tail : String} (hname : Identifier.isPlain name.toList)
    (htail : EndsName tail) :
    ofString? (name ++ tail) = (ofString? tail).map (.word name :: ·) := by
  obtain ⟨c, cs, hchars, hstart⟩ := Identifier.exists_start hname
  have hblank : c ≠ ' ' := by
    rintro rfl
    cases hstart
  rw [hchars] at hname
  rw [ofString?, ofString?, String.toList_append, hchars, List.cons_append, ofChars?_cons hblank,
    next?_word hname htail, ← hchars, String.ofList_toList]
  rfl

theorem ofString?_quote (s tail : String) :
    ofString? (Literal.ofString s ++ tail) = (ofString? tail).map (.text s :: ·) := by
  rw [ofString?, String.toList_append, Literal.toList_ofString, Literal.quote_append,
    ofChars?_cons (by decide), next?_quote]
  rfl

end Token

end Script

end StoreClient
