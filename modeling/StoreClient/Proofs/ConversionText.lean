-- The expressions that the generated client converts a value with, read back from their
-- text. Each is a member of the record with fixed parts around it, and it is read so whatever
-- the member is called.
import StoreClient.Client.View
import StoreClient.Proofs.ScriptExpressions

namespace StoreClient

theorem ClientText.EndsName.append {s : String} (h : EndsName s) (hs : s ≠ "") (tail : String) :
    EndsName (s ++ tail) := by
  unfold EndsName at h ⊢
  cases hchars : s.toList with
  | nil => exact absurd (String.toList_eq_nil_iff.mp hchars) hs
  | cons c cs =>
    have hc : ¬ Identifier.isPart c := by
      intro hc
      rw [hchars, List.takeWhile_cons_of_pos hc] at h
      cases h
    rw [String.toList_append, hchars, List.cons_append, List.takeWhile_cons_of_neg hc]

open ClientText (EndsName)

namespace Script

namespace Token

/-! ## The fixed parts of the conversions -/

section

variable (rest : List Char)

@[simp] theorem next?_null : next? 'n' ('u' :: 'l' :: 'l' :: ' ' :: rest) =
    some (.word "null", ' ' :: rest) := rfl

@[simp] theorem next?_length : next? 'l' ('e' :: 'n' :: 'g' :: 't' :: 'h' :: ' ' :: rest) =
    some (.word "length", ' ' :: rest) := rfl

@[simp] theorem next?_zero : next? '0' (' ' :: rest) = some (.number 0, ' ' :: rest) := rfl

@[simp] theorem next?_parseISO :
    next? 'p' ('a' :: 'r' :: 's' :: 'e' :: 'I' :: 'S' :: 'O' :: '(' :: rest) =
      some (.word "parseISO", '(' :: rest) := rfl

@[simp] theorem next?_formatISO :
    next? 'f' ('o' :: 'r' :: 'm' :: 'a' :: 't' :: 'I' :: 'S' :: 'O' :: '(' :: rest) =
      some (.word "formatISO", '(' :: rest) := rfl

end

section

variable (tail : String)

theorem ofString?_dot : ofString? ("." ++ tail) = (ofString? tail).map (.dot :: ·) := by
  simp [ofString?, ofChars?_cons]

theorem ofString?_openBracket :
    ofString? ("[" ++ tail) = (ofString? tail).map (.openBracket :: ·) := by
  simp [ofString?, ofChars?_cons]

theorem ofString?_closeBracket :
    ofString? ("]" ++ tail) = (ofString? tail).map (.closeBracket :: ·) := by
  simp [ofString?, ofChars?_cons]

theorem ofString?_parseISO : ofString? ("parseISO(" ++ tail) =
    (ofString? tail).map ([.word "parseISO", .openParen] ++ ·) := by
  simp [ofString?, ofChars?_cons, Function.comp_def]

theorem ofString?_formatISO : ofString? ("formatISO(" ++ tail) =
    (ofString? tail).map ([.word "formatISO", .openParen] ++ ·) := by
  simp [ofString?, ofChars?_cons, Function.comp_def]

theorem ofString?_sameEmpty : ofString? (" === \"\" ? null : " ++ tail) =
    (ofString? tail).map ([.same, .text "", .question, .word "null", .colon] ++ ·) := by
  simp [ofString?, ofChars?_cons, Function.comp_def]

theorem ofString?_length : ofString? (".length === 0 ? null : " ++ tail) =
    (ofString? tail).map
      ([.dot, .word "length", .same, .number 0, .question, .word "null", .colon] ++ ·) := by
  simp [ofString?, ofChars?_cons, Function.comp_def]

theorem ofString?_question : ofString? (" ? formatISO(" ++ tail) =
    (ofString? tail).map ([.question, .word "formatISO", .openParen] ++ ·) := by
  simp [ofString?, ofChars?_cons, Function.comp_def]

end

theorem ofString?_empty : ofString? "" = some [] := ofChars?_nil

theorem ofString?_closeParen : ofString? ")" = some [.closeParen] := by
  simp [ofString?, ofChars?_cons]

theorem ofString?_orEmpty : ofString? ") : \"\"" = some [.closeParen, .colon, .text ""] := by
  simp [ofString?, ofChars?_cons]

theorem ofString?_orElseEmpty : ofString? " ?? \"\"" = some [.orElse, .text ""] := by
  simp [ofString?, ofChars?_cons]

theorem ofString?_orElseList :
    ofString? " ?? []" = some [.orElse, .openBracket, .closeBracket] := by
  simp [ofString?, ofChars?_cons]

end Token

/-! ## Members of a variable -/

/-- A member binds so close that its tokens are the same everywhere. -/
theorem tokens_member (strength : Nat) (object name : String) :
    (Expression.member (.word object) (.text name)).tokens strength =
      if Identifier.isPlain name.toList then [.word object, .dot, .word name]
      else [.word object, .openBracket, .text name, .closeBracket] := by
  by_cases hname : Identifier.isPlain name.toList = true
  · simp [Expression.tokens, Expression.plainKey?, hname]
  · simp [Expression.tokens, Expression.plainKey?, hname]

section

variable {object : String} (hobject : Identifier.isPlain object.toList) (name : String)

include hobject

theorem ofString?_member {tail : String} (htail : EndsName tail) :
    Token.ofString? (Member.access object name ++ tail) = (Token.ofString? tail).map
      ((Expression.member (.word object) (.text name)).tokens 1 ++ ·) := by
  have hdot : EndsName "." := rfl
  have hbracket : EndsName "[" := rfl
  rw [tokens_member]
  unfold Member.access
  split
  · rename_i hname
    rw [String.append_assoc, String.append_assoc,
      Token.ofString?_word hobject (hdot.append (by decide) _), Token.ofString?_dot,
      Token.ofString?_word hname htail, Option.map_map, Option.map_map]
    rfl
  · rw [String.append_assoc, String.append_assoc, String.append_assoc,
      Token.ofString?_word hobject (hbracket.append (by decide) _), Token.ofString?_openBracket,
      Token.ofString?_quote, Token.ofString?_closeBracket, Option.map_map, Option.map_map,
      Option.map_map]
    rfl

/-- A text that is one member of a variable, and nothing else. -/
theorem ofString?_member_alone : Token.ofString? (Member.access object name) =
    some ((Expression.member (.word object) (.text name)).tokens 1) := by
  have hend : EndsName "" := rfl
  have htokens := ofString?_member hobject name hend
  rwa [String.append_empty, Token.ofString?_empty, Option.map_some, List.append_nil] at htokens

end

/-- A member of the record. -/
def access (name : String) : Expression := .member (.word "record") (.text name)

theorem tokens_access (strength : Nat) (name : String) : (access name).tokens strength =
    if Identifier.isPlain name.toList then [.word "record", .dot, .word name]
    else [.word "record", .openBracket, .text name, .closeBracket] :=
  tokens_member strength "record" name

theorem ofString?_access (name : String) {tail : String} (htail : EndsName tail) :
    Token.ofString? (Member.access FieldView.record name ++ tail) =
      (Token.ofString? tail).map ((access name).tokens 1 ++ ·) := by
  have hrecord : Identifier.isPlain FieldView.record.toList := rfl
  exact ofString?_member hrecord name htail

theorem ofString?_access_alone (name : String) :
    Token.ofString? (Member.access FieldView.record name) = some ((access name).tokens 1) := by
  have hrecord : Identifier.isPlain FieldView.record.toList := rfl
  exact ofString?_member_alone hrecord name

end Script

/-! ## What the conversions say -/

namespace Codec

open Script

/-- What the expression from the store to memory says. -/
def parsed (c : Codec) (value : Expression) : Expression :=
  match c with
  | temporal => .call (.word "parseISO") value
  | nullableTemporal =>
    .choose (.same value (.text "")) (.word "null") (.call (.word "parseISO") value)
  | emptyAsNull .emptyString => .choose (.same value (.text "")) (.word "null") value
  | emptyAsNull .emptyList =>
    .choose (.same (.member value (.text "length")) (.number 0)) (.word "null") value
  | arrayPatch _ => value

/-- What the expression from memory to the store says. -/
def serialized (c : Codec) (value : Expression) : Expression :=
  match c with
  | temporal => .call (.word "formatISO") value
  | nullableTemporal => .choose value (.call (.word "formatISO") value) (.text "")
  | emptyAsNull .emptyString => .orElse value (.text "")
  | emptyAsNull .emptyList => .orElse value .emptyList
  | arrayPatch _ => value

/-- The text from the store to memory is the expression it is meant to be. -/
theorem ofText?_parsing (c : Codec) (name : String) :
    Expression.ofText? (c.parsing (Member.access FieldView.record name)) =
      some (c.parsed (access name)) := by
  have hparen : EndsName ")" := rfl
  have hsame : EndsName " === \"\" ? null : " := rfl
  apply Expression.ofText?_of_tokens
  cases c with
  | temporal =>
    rw [parsing, String.append_assoc, Token.ofString?_parseISO, ofString?_access name hparen,
      Token.ofString?_closeParen]
    simp [parsed, Expression.tokens, tokens_access]
  | nullableTemporal =>
    have hsplit : " === \"\" ? null : parseISO(" = " === \"\" ? null : " ++ "parseISO(" := rfl
    rw [parsing, hsplit]
    simp only [String.append_assoc]
    rw [ofString?_access name (hsame.append (by decide) _), Token.ofString?_sameEmpty,
      Token.ofString?_parseISO, ofString?_access name hparen, Token.ofString?_closeParen]
    simp [parsed, Expression.tokens, Expression.grouped, tokens_access]
  | emptyAsNull s =>
    cases s with
    | emptyString =>
      rw [parsing, String.append_assoc, ofString?_access name (hsame.append (by decide) _),
        Token.ofString?_sameEmpty, ofString?_access_alone]
      simp [parsed, Expression.tokens, Expression.grouped, tokens_access]
    | emptyList =>
      have hlength : EndsName ".length === 0 ? null : " := rfl
      have hplain : (Expression.text "length").plainKey? = some "length" := rfl
      rw [parsing, String.append_assoc, ofString?_access name (hlength.append (by decide) _),
        Token.ofString?_length, ofString?_access_alone]
      simp [parsed, Expression.tokens, Expression.grouped, tokens_access, hplain]
  | arrayPatch op => rw [parsing, parsed, ofString?_access_alone]

/-- The text from memory to the store is the expression it is meant to be. -/
theorem ofText?_serializing (c : Codec) (name : String) :
    Expression.ofText? (c.serializing (Member.access FieldView.record name)) =
      some (c.serialized (access name)) := by
  apply Expression.ofText?_of_tokens
  cases c with
  | temporal =>
    have hparen : EndsName ")" := rfl
    rw [serializing, String.append_assoc, Token.ofString?_formatISO, ofString?_access name hparen,
      Token.ofString?_closeParen]
    simp [serialized, Expression.tokens, tokens_access]
  | nullableTemporal =>
    have hquestion : EndsName " ? formatISO(" := rfl
    have hparen : EndsName ") : \"\"" := rfl
    rw [serializing]
    simp only [String.append_assoc]
    rw [ofString?_access name (hquestion.append (by decide) _), Token.ofString?_question,
      ofString?_access name hparen, Token.ofString?_orEmpty]
    simp [serialized, Expression.tokens, Expression.grouped, tokens_access]
  | emptyAsNull s =>
    cases s with
    | emptyString =>
      have helse : EndsName " ?? \"\"" := rfl
      rw [serializing, ofString?_access name helse, Token.ofString?_orElseEmpty]
      simp [serialized, Expression.tokens, Expression.grouped, tokens_access]
    | emptyList =>
      have helse : EndsName " ?? []" := rfl
      rw [serializing, ofString?_access name helse, Token.ofString?_orElseList]
      simp [serialized, Expression.tokens, Expression.grouped, tokens_access]
  | arrayPatch op => rw [serializing, serialized, ofString?_access_alone]

example : Expression.ofText? "record[\"a\\\"b\"] ?? []" =
    some (.orElse (.member (.word "record") (.text "a\"b")) .emptyList) := by cbv

end Codec

end StoreClient
