-- Expressions in the language of the generated client: how tokens are read as an expression,
-- and that every expression is read back from the tokens it is written with.
import StoreClient.Proofs.ScriptText

namespace StoreClient

namespace Script

/-- An expression. -/
inductive Expression where
  /-- A variable, or a word with a value of its own. -/
  | word (name : String)
  | text (value : String)
  | number (value : Nat)
  | emptyList
  /-- A member of an object, under a key that may be computed. -/
  | member (object key : Expression)
  | call (function argument : Expression)
  | same (left right : Expression)
  | orElse (left right : Expression)
  | choose (condition yes no : Expression)
deriving DecidableEq, Repr

/-! ## From tokens to an expression -/

/-- What stands open to the left of an expression. -/
inductive Frame where
  | group
  | key (object : Expression)
  | argument (function : Expression)
  | same (left : Expression)
  | orElse (left : Expression)
  | yes (condition : Expression)
  | no (condition yes : Expression)

/-- How close a mark holds what is on its left. -/
def Token.strength : Token → Nat
  | dot | openParen | openBracket => 4
  | same => 3
  | orElse | question => 2
  | _ => 1

/-- Completes the expressions on the left that hold at least as close as a mark on the right. -/
def settle (strength : Nat) : List Frame → Expression → List Frame × Expression
  | .same left :: frames, e =>
    if strength ≤ 3 then settle strength frames (.same left e) else (.same left :: frames, e)
  | .orElse left :: frames, e =>
    if strength ≤ 2 then settle strength frames (.orElse left e) else (.orElse left :: frames, e)
  | .no c yes :: frames, e =>
    if strength ≤ 1 then settle strength frames (.choose c yes e) else (.no c yes :: frames, e)
  | frames, e => (frames, e)

mutual

/-- Reads on where an expression starts. -/
def operand? (frames : List Frame) : List Token → Option Expression
  | .word name :: rest => operator? frames (.word name) rest
  | .text s :: rest => operator? frames (.text s) rest
  | .number n :: rest => operator? frames (.number n) rest
  | .openBracket :: .closeBracket :: rest => operator? frames .emptyList rest
  | .openParen :: rest => operand? (.group :: frames) rest
  | _ => none

/-- Reads on after an expression. -/
def operator? (frames : List Frame) (e : Expression) : List Token → Option Expression
  | [] =>
    match settle 1 frames e with
    | ([], e) => some e
    | _ => none
  | t :: rest =>
    match t, settle t.strength frames e with
    | .dot, (frames, e) =>
      match rest with
      | .word name :: rest => operator? frames (.member e (.text name)) rest
      | _ => none
    | .openBracket, (frames, e) => operand? (.key e :: frames) rest
    | .openParen, (frames, e) => operand? (.argument e :: frames) rest
    | .same, (frames, e) => operand? (.same e :: frames) rest
    | .orElse, (frames, e) => operand? (.orElse e :: frames) rest
    | .question, (frames, e) => operand? (.yes e :: frames) rest
    | .colon, (.yes c :: frames, e) => operand? (.no c e :: frames) rest
    | .closeParen, (.group :: frames, e) => operator? frames e rest
    | .closeParen, (.argument f :: frames, e) => operator? frames (.call f e) rest
    | .closeBracket, (.key object :: frames, e) => operator? frames (.member object e) rest
    | _, _ => none

end

/-- The expression that a text is, as a whole. -/
def Expression.ofText? (text : String) : Option Expression :=
  (Token.ofString? text).bind (operand? [])

/-! ## From an expression to tokens -/

namespace Expression

/-- The name of a member that may stand after a point. -/
def plainKey? : Expression → Option String
  | text name => if Identifier.isPlain name.toList then some name else none
  | _ => none

/-- Tokens in parentheses, if they need them. -/
def grouped (group : Bool) (ts : List Token) : List Token :=
  if group then .openParen :: (ts ++ [.closeParen]) else ts

/-- The tokens of an expression that is held as close as a strength says. -/
def tokens : Nat → Expression → List Token
  | _, word name => [.word name]
  | _, text s => [.text s]
  | _, number n => [.number n]
  | _, emptyList => [.openBracket, .closeBracket]
  | _, member object key =>
    object.tokens 4 ++
      match key.plainKey? with
      | some name => [.dot, .word name]
      | none => .openBracket :: (key.tokens 1 ++ [.closeBracket])
  | _, call f argument => f.tokens 4 ++ .openParen :: (argument.tokens 1 ++ [.closeParen])
  | strength, same left right =>
    grouped (3 < strength) (left.tokens 3 ++ .same :: right.tokens 4)
  | strength, orElse left right =>
    grouped (2 < strength) (left.tokens 2 ++ .orElse :: right.tokens 3)
  | strength, choose condition yes no =>
    grouped (1 < strength)
      (condition.tokens 2 ++ .question :: (yes.tokens 1 ++ .colon :: no.tokens 1))

end Expression

/-! ## Reading back -/

/-- How close a frame holds the expression on its right; one that waits for its mark has 0. -/
def Frame.strength : Frame → Nat
  | same _ => 3
  | orElse _ => 2
  | no _ _ => 1
  | _ => 0

/-- No expression on the left holds as close as a mark of some strength. -/
def Neutral (strength : Nat) (frames : List Frame) : Prop :=
  ∀ f ∈ frames.head?, f.strength < strength

/-- What follows an expression holds it at most as close as a strength says. -/
def Closed (strength : Nat) (rest : List Token) : Prop := ∀ t ∈ rest.head?, t.strength ≤ strength

theorem neutral_cons {strength : Nat} {f : Frame} (h : f.strength < strength)
    (frames : List Frame) : Neutral strength (f :: frames) := by
  rintro _ ⟨⟩
  exact h

theorem closed_cons {strength : Nat} {t : Token} (h : t.strength ≤ strength)
    (rest : List Token) : Closed strength (t :: rest) := by
  rintro _ ⟨⟩
  exact h

theorem Neutral.mono {m n : Nat} {frames : List Frame} (h : Neutral m frames) (hmn : m ≤ n) :
    Neutral n frames := fun f hf => Nat.lt_of_lt_of_le (h f hf) hmn

theorem Closed.mono {m n : Nat} {rest : List Token} (h : Closed m rest) (hmn : m ≤ n) :
    Closed n rest := fun t ht => Nat.le_trans (h t ht) hmn

theorem neutral_four (frames : List Frame) : Neutral 4 frames := by
  intro f _
  cases f <;> simp [Frame.strength]

theorem closed_four (rest : List Token) : Closed 4 rest := by
  intro t _
  cases t <;> simp [Token.strength]

theorem Neutral.settle_eq {strength : Nat} {frames : List Frame} (h : Neutral strength frames)
    (e : Expression) : settle strength frames e = (frames, e) := by
  cases frames with
  | nil => rfl
  | cons f frames =>
    have hf : ¬ strength ≤ f.strength := Nat.not_le_of_lt (h f rfl)
    cases f <;> first | rfl | exact if_neg hf

/-- Expressions that what follows completes alike are read on alike. -/
theorem operator?_congr {frames frames' : List Frame} {e e' : Expression} {rest : List Token}
    {strength : Nat} (hpos : 1 ≤ strength) (hrest : Closed strength rest)
    (h : ∀ n ≤ strength, settle n frames e = settle n frames' e') :
    operator? frames e rest = operator? frames' e' rest := by
  cases rest with
  | nil => simp only [operator?, h 1 hpos]
  | cons t rest =>
    rw [operator?.eq_def, operator?.eq_def frames' e']
    simp only [h t.strength (hrest t rfl)]

/-- Tokens that are read as an expression wherever an operand of some strength may stand. -/
def ReadAs (strength : Nat) (ts : List Token) (e : Expression) : Prop :=
  ∀ frames rest, Neutral (max 2 strength) frames → Closed strength rest →
    operand? frames (ts ++ rest) = operator? frames e rest

/-- In parentheses an expression may stand where an operand of any strength may. -/
theorem ReadAs.grouped {own : Nat} (hown : 1 ≤ own) {ts : List Token} {e : Expression}
    (h : ReadAs own ts e) (strength : Nat) :
    ReadAs strength (Expression.grouped (own < strength) ts) e := by
  intro frames rest hframes hrest
  by_cases hgroup : own < strength
  · have hinside : Neutral (max 2 own) (.group :: frames) :=
      neutral_cons (Nat.lt_of_lt_of_le Nat.zero_lt_two (Nat.le_max_left 2 own)) frames
    have hclosed : Closed own (.closeParen :: rest) := closed_cons hown rest
    simp only [Expression.grouped, hgroup, decide_true, if_true, List.cons_append,
      List.append_assoc, List.nil_append, operand?]
    rw [h _ _ hinside hclosed]
    rfl
  · have hle : strength ≤ own := Nat.le_of_not_lt hgroup
    simp only [Expression.grouped, hgroup, decide_false, Bool.false_eq_true, if_false]
    exact h frames rest (hframes.mono (by omega)) (hrest.mono hle)

section

variable (frames : List Frame) (e : Expression) (rest : List Token)

theorem operator?_dot (name : String) : operator? frames e (.dot :: .word name :: rest) =
    operator? frames (.member e (.text name)) rest := by
  simp only [operator?, Token.strength, (neutral_four frames).settle_eq]

theorem operator?_openBracket :
    operator? frames e (.openBracket :: rest) = operand? (.key e :: frames) rest := by
  simp only [operator?, Token.strength, (neutral_four frames).settle_eq]

theorem operator?_openParen :
    operator? frames e (.openParen :: rest) = operand? (.argument e :: frames) rest := by
  simp only [operator?, Token.strength, (neutral_four frames).settle_eq]

variable {frames}

theorem operator?_same (h : Neutral 3 frames) :
    operator? frames e (.same :: rest) = operand? (.same e :: frames) rest := by
  simp only [operator?, Token.strength, h.settle_eq]

theorem operator?_orElse (h : Neutral 2 frames) :
    operator? frames e (.orElse :: rest) = operand? (.orElse e :: frames) rest := by
  simp only [operator?, Token.strength, h.settle_eq]

theorem operator?_question (h : Neutral 2 frames) :
    operator? frames e (.question :: rest) = operand? (.yes e :: frames) rest := by
  simp only [operator?, Token.strength, h.settle_eq]

end

theorem Expression.eq_text_of_plainKey? {key : Expression} {name : String}
    (h : key.plainKey? = some name) : key = .text name := by
  unfold plainKey? at h
  split at h
  · split at h <;> cases h
    rfl
  · cases h

/-- Every expression is read back from its tokens, whatever stands around it. -/
theorem Expression.readAs_tokens (e : Expression) (strength : Nat) :
    ReadAs strength (e.tokens strength) e := by
  induction e generalizing strength with
  | word name => exact fun _ _ _ _ => rfl
  | text s => exact fun _ _ _ _ => rfl
  | number n => exact fun _ _ _ _ => rfl
  | emptyList => exact fun _ _ _ _ => rfl
  | member object key ihobject ihkey =>
    intro frames rest _ _
    rw [tokens, List.append_assoc, ihobject 4 _ _ (neutral_four _) (closed_four _)]
    cases hkey : key.plainKey? with
    | some name =>
      rw [eq_text_of_plainKey? hkey]
      exact operator?_dot frames object rest name
    | none =>
      have hinside : Neutral 2 (.key object :: frames) := neutral_cons Nat.zero_lt_two frames
      have hclosed : Closed 1 (.closeBracket :: rest) := closed_cons (Nat.le_refl 1) rest
      simp only [List.cons_append, List.append_assoc, List.nil_append]
      rw [operator?_openBracket, ihkey 1 _ _ hinside hclosed]
      rfl
  | call f argument ihf ihargument =>
    intro frames rest _ _
    have hinside : Neutral 2 (.argument f :: frames) := neutral_cons Nat.zero_lt_two frames
    have hclosed : Closed 1 (.closeParen :: rest) := closed_cons (Nat.le_refl 1) rest
    rw [tokens, List.append_assoc, ihf 4 _ _ (neutral_four _) (closed_four _)]
    simp only [List.cons_append, List.append_assoc, List.nil_append]
    rw [operator?_openParen, ihargument 1 _ _ hinside hclosed]
    rfl
  | same left right ihleft ihright =>
    apply ReadAs.grouped (by decide)
    intro frames rest hframes hrest
    rw [List.append_assoc, List.cons_append,
      ihleft 3 _ _ hframes (closed_cons (Nat.le_refl 3) _), operator?_same _ _ hframes,
      ihright 4 _ _ (neutral_four _) (closed_four _)]
    apply operator?_congr (by decide) hrest
    intro n hn
    exact if_pos hn
  | orElse left right ihleft ihright =>
    apply ReadAs.grouped (by decide)
    intro frames rest hframes hrest
    have hright : Neutral 3 (.orElse left :: frames) :=
      neutral_cons (Nat.lt_succ_self 2) frames
    rw [List.append_assoc, List.cons_append,
      ihleft 2 _ _ hframes (closed_cons (Nat.le_refl 2) _), operator?_orElse _ _ hframes,
      ihright 3 _ _ hright (hrest.mono (by decide))]
    apply operator?_congr (by decide) hrest
    intro n hn
    exact if_pos hn
  | choose condition yes no ihcondition ihyes ihno =>
    apply ReadAs.grouped (by decide)
    intro frames rest hframes hrest
    have hyes : Neutral 2 (.yes condition :: frames) := neutral_cons Nat.zero_lt_two frames
    have hno : Neutral 2 (.no condition yes :: frames) := neutral_cons Nat.one_lt_two frames
    simp only [List.append_assoc, List.cons_append]
    rw [ihcondition 2 _ _ hframes (closed_cons (Nat.le_refl 2) _), operator?_question _ _ hframes,
      ihyes 1 _ _ hyes (closed_cons (Nat.le_refl 1) _)]
    have hcolon (more : List Token) : operator? (.yes condition :: frames) yes (.colon :: more) =
        operand? (.no condition yes :: frames) more := rfl
    rw [hcolon, ihno 1 _ _ hno hrest]
    apply operator?_congr (Nat.le_refl 1) hrest
    intro n hn
    exact if_pos hn

/-- A text with the tokens of an expression is read as the expression. -/
theorem Expression.ofText?_of_tokens {text : String} {e : Expression}
    (h : Token.ofString? text = some (e.tokens 1)) : ofText? text = some e := by
  have hframes : Neutral 2 [] := nofun
  have hrest : Closed 1 [] := nofun
  have hread := e.readAs_tokens 1 [] [] hframes hrest
  rw [List.append_nil] at hread
  rw [ofText?, h, Option.bind_some, hread]
  rfl

example : Expression.ofText? "a ?? b === c ? d : e" = some (.choose
    (.orElse (.word "a") (.same (.word "b") (.word "c"))) (.word "d") (.word "e")) := by cbv

end Script

end StoreClient
