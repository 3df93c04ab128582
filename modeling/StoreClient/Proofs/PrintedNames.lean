-- The law of printed names: whatever a name says, its literal, its key and its place as a member
-- are read as this name and as no other. Only plain names stand without quotes.
import StoreClient.Proofs.ConversionText
import StoreClient.Proofs.Literals
import StoreClient.Proofs.ScriptValues
import StoreClient.Proofs.TypeBodies

namespace StoreClient

/-! ## Names without quotes -/

/-- A name that needs no quotes: an ASCII letter, `_` or `$`, then these and ASCII digits. -/
def IsBareName (name : String) : Prop :=
  ∃ c rest, name.toList = c :: rest ∧ (c.isAlpha ∨ c = '_' ∨ c = '$') ∧
    ∀ d ∈ rest, d.isAlphanum ∨ d = '_' ∨ d = '$'

theorem Identifier.isPlain_iff (name : String) :
    isPlain name.toList = true ↔ IsBareName name := by
  unfold IsBareName
  cases h : name.toList with
  | nil => simp [isPlain]
  | cons c rest =>
    simp [isPlain, isStart, isPart, isAsciiLetter_eq, isAsciiDigit_eq, Char.isAlphanum, or_assoc]

/-! ## Literals -/

namespace Literal

theorem escape_ne_nil (c : Char) : escape c ≠ [] := by
  unfold escape
  split
  case h_8 => split <;> simp
  all_goals simp

theorem length_le_encode (cs : List Char) : cs.length ≤ (encode cs).length := by
  induction cs with
  | nil => exact Nat.le_refl 0
  | cons c cs ih =>
    have hsplit : encode (c :: cs) = escape c ++ encode cs := rfl
    have hpos := List.length_pos_iff.mpr (escape_ne_nil c)
    rw [hsplit, List.length_append, List.length_cons]
    omega

/-- The quotes make a literal longer than its text. -/
theorem ofString_ne_self (s : String) : ofString s ≠ s := by
  intro h
  have hlength := congrArg (·.toList.length) h
  have hle := length_le_encode s.toList
  simp only [toList_ofString, quote, List.length_cons, List.length_append,
    List.length_nil] at hlength
  omega

end Literal

/-- A literal is the JSON text of its text. -/
theorem Json.parse_literal (s : String) : parse (Literal.ofString s) = .ok (.text s) := by
  have htext : Literal.ofString s = (text s).prettyText := by
    rw [prettyText, pretty, Literal.ofString]
  have hdraft := (Numberless.text s).draft_prettyText
  rw [← htext] at hdraft
  rw [parse, hdraft]
  rfl

/-! ## Keys and members -/

namespace Member

theorem key_eq_self_iff (name : String) : key name = name ↔ IsBareName name := by
  rw [← Identifier.isPlain_iff]
  unfold key
  split
  · rename_i hplain
    exact iff_of_true rfl hplain
  · rename_i hplain
    exact iff_of_false (Literal.ofString_ne_self name) hplain

/-- A member in brackets has no point after its object. -/
theorem access_eq_dot_iff (object name : String) :
    access object name = object ++ "." ++ name ↔ IsBareName name := by
  rw [← Identifier.isPlain_iff]
  unfold access
  split
  · rename_i hplain
    exact iff_of_true rfl hplain
  · rename_i hplain
    refine iff_of_false ?_ hplain
    intro h
    have hmark : "[" ++ (Literal.ofString name ++ "]") = "." ++ name := by
      simpa only [String.append_assoc, String.append_right_inj] using h
    have hfirst := congrArg (·.toList.head?) hmark
    simp at hfirst

/-- A key is read as its name, and no further, wherever the name ends. -/
theorem key?_key_append (name : String) {tail : String} (h : ClientText.EndsName tail) :
    ClientText.key? (key name ++ tail).toList = some (name, tail.toList) := by
  rw [String.toList_append]
  exact ClientText.key?_key name tail.toList h

theorem key_injective : Function.Injective key := by
  intro a b h
  have hend : ClientText.EndsName "" := rfl
  have hread := key?_key_append a hend
  rw [h, key?_key_append b hend] at hread
  simpa using hread.symm

variable {object : String} (hobject : IsBareName object) (name : String)

include hobject

theorem ofText?_access : Script.Expression.ofText? (access object name) =
    some (.member (.word object) (.text name)) :=
  Script.Expression.ofText?_of_tokens
    (Script.ofString?_member_alone ((Identifier.isPlain_iff object).mpr hobject) name)

/-- A member is what the object has under the name. -/
theorem run_access {scope : Script.Scope} {record : String → Option Script.Value}
    (h : scope object = some (.record record)) :
    Script.run scope (access object name) = Script.known (record name) := by
  rw [Script.run, ofText?_access hobject name]
  exact Script.eval_member_word h name

end Member

/-! ## The law -/

/-- What is printed for a name says this name and nothing else. -/
structure PrintedFaithfully (name : String) : Prop where
  literal : ∃ inside, (Literal.ofString name).toList = '"' :: (inside ++ ['"']) ∧
    Literal.Inside inside
  visible : ∀ c ∈ (Literal.ofString name).toList, 32 ≤ c.toNat
  literal_read : Json.parse (Literal.ofString name) = .ok (.text name)
  /-- The key of another name is another one. -/
  key_alone : ∀ other, Member.key other = Member.key name → other = name
  key_read : ∀ tail, ClientText.EndsName tail →
    ClientText.key? (Member.key name ++ tail).toList = some (name, tail.toList)
  key_bare_iff : Member.key name = name ↔ IsBareName name
  member_read : ∀ object, IsBareName object →
    Script.Expression.ofText? (Member.access object name) =
      some (.member (.word object) (.text name))
  /-- Where a variable holds a record, its member is what the record has under the name. -/
  member_found : ∀ object, IsBareName object → ∀ (scope : Script.Scope) record,
    scope object = some (.record record) →
      Script.run scope (Member.access object name) = Script.known (record name)
  member_bare_iff : ∀ object,
    Member.access object name = object ++ "." ++ name ↔ IsBareName name

theorem a_name_is_printed_faithfully (name : String) : PrintedFaithfully name where
  literal := by
    refine ⟨Literal.encode name.toList, ?_, Literal.inside_encode name.toList⟩
    rw [Literal.toList_ofString, Literal.quote]
  visible := by
    rw [Literal.toList_ofString]
    exact Literal.visible_quote name.toList
  literal_read := Json.parse_literal name
  key_alone := fun _ h => Member.key_injective h
  key_read := fun _ htail => Member.key?_key_append name htail
  key_bare_iff := Member.key_eq_self_iff name
  member_read := fun _ hobject => Member.ofText?_access hobject name
  member_found := fun _ hobject _ _ h => Member.run_access hobject name h
  member_bare_iff := fun object => Member.access_eq_dot_iff object name

/-- A member is found in the record although its name breaks a line and holds a quote. -/
theorem the_quoted_member_is_found :
    Script.run (Script.scopeOf fun name => some (.data (.text name)))
        (Member.access "record" "é\"\n") = .ok (.data (.text "é\"\n")) := by
  have hobject : IsBareName "record" := (Identifier.isPlain_iff "record").mp rfl
  have hscope (record : String → Option Script.Value) :
      Script.scopeOf record "record" = some (.record record) := rfl
  exact (a_name_is_printed_faithfully "é\"\n").member_found "record" hobject _ _ (hscope _)

example : Member.access "record" "é\"\n" = "record[\"é\\\"\\n\"]" := by decide

end StoreClient
