-- The law of printed types: whoever reads the text of a type, with brackets that bind tighter than
-- bars, reads the type. A list is printed with brackets after its item only if the item has no
-- bar, and then the item is a single alternative, so the brackets belong to all of it.
import StoreClient.Client.TypeText
import StoreClient.Proofs.DeclaredCollections
import StoreClient.Proofs.OneLine
import StoreClient.Proofs.ScriptText

namespace StoreClient

namespace Script

/-! ## Tokens of types -/

/-- A token of a type. -/
inductive TypeToken where
  | word (name : String)
  | text (value : String)
  | openBracket
  | closeBracket
  | openAngle
  | closeAngle
  | bar
deriving DecidableEq, Repr

namespace TypeToken

/-- The tokens that types share with expressions. -/
def ofToken? : Token → Option TypeToken
  | .word name => some (.word name)
  | .text value => some (.text value)
  | .openBracket => some .openBracket
  | .closeBracket => some .closeBracket
  | _ => none

/-- The token that starts with a character, and what follows it. -/
def next? (c : Char) (rest : List Char) : Option (TypeToken × List Char) :=
  if c = '|' then some (.bar, rest)
  else if c = '<' then some (.openAngle, rest)
  else if c = '>' then some (.closeAngle, rest)
  else (Token.next? c rest).bind fun (t, after) => (ofToken? t).map fun t => (t, after)

theorem length_next? {c : Char} {rest after : List Char} {t : TypeToken}
    (h : next? c rest = some (t, after)) : after.length ≤ rest.length := by
  unfold next? at h
  split_ifs at h
  · cases h
    exact Nat.le_refl _
  · cases h
    exact Nat.le_refl _
  · cases h
    exact Nat.le_refl _
  · obtain ⟨⟨token, _⟩, hnext, hkept⟩ := Option.bind_eq_some_iff.mp h
    obtain ⟨_, -, hpair⟩ := Option.map_eq_some_iff.mp hkept
    cases hpair
    exact Token.length_next? hnext

/-- The tokens of a type, with blanks between them or not. -/
def ofChars? : List Char → Option (List TypeToken)
  | [] => some []
  | c :: rest =>
    if c = ' ' then ofChars? rest
    else
      match h : next? c rest with
      | some (t, after) =>
        have := length_next? h
        (ofChars? after).map (t :: ·)
      | none => none
termination_by cs => cs.length

theorem ofChars?_nil : ofChars? [] = some [] := by rw [ofChars?]

theorem ofChars?_cons {c : Char} {rest after : List Char} {t : TypeToken} (hblank : c ≠ ' ')
    (h : next? c rest = some (t, after)) :
    ofChars? (c :: rest) = (ofChars? after).map (t :: ·) := by
  rw [ofChars?, if_neg hblank]
  split
  · rename_i hnext
    rw [h] at hnext
    cases hnext
    rfl
  · rename_i hnext
    rw [h] at hnext
    cases hnext

end TypeToken

/-! ## Reading types -/

/-- One alternative of a type. -/
inductive Alternative where
  | named (name : String)
  | text (value : String)
  | null
  | undefined
  /-- The empty list only, `[]`. -/
  | emptyList
  /-- Lists whose items are of some alternatives. -/
  | listOf (items : List Alternative)
deriving Repr

/-- What a word means alone. The name of the lists needs their items. -/
def Alternative.ofWord? (name : String) : Option Alternative :=
  if name = "null" then some .null
  else if name = "undefined" then some .undefined
  else if name = "Array" then none
  else some (.named name)

mutual

/-- Reads from the start of an alternative on. There are alternatives before it in its own type, and
some before each list that is still open. -/
def alternative? (outer : List (List Alternative)) (before : List Alternative) :
    List TypeToken → Option (List Alternative)
  | .word "Array" :: .openAngle :: rest => alternative? (before :: outer) [] rest
  | .word name :: rest =>
    match Alternative.ofWord? name with
    | some a => after? outer before a rest
    | none => none
  | .text value :: rest => after? outer before (.text value) rest
  | .openBracket :: .closeBracket :: rest => after? outer before .emptyList rest
  | _ => none

/-- Reads on after an alternative. Brackets belong to it alone, and a bar ends it. -/
def after? (outer : List (List Alternative)) (before : List Alternative) (last : Alternative) :
    List TypeToken → Option (List Alternative)
  | .openBracket :: .closeBracket :: rest => after? outer before (.listOf [last]) rest
  | .bar :: rest => alternative? outer (before ++ [last]) rest
  | .closeAngle :: rest =>
    match outer with
    | [] => none
    | above :: outer => after? outer above (.listOf (before ++ [last])) rest
  | [] => if outer.isEmpty then some (before ++ [last]) else none
  | _ => none

end

/-- The alternatives of a type, in order. -/
def alternatives? (text : String) : Option (List Alternative) :=
  (TypeToken.ofChars? text.toList).bind (alternative? [] [])

example : alternatives? "Array<\"A\"|\"B\"[]>[]|null" = some
    [.listOf [.listOf [.text "A", .listOf [.text "B"]]], .null] := by cbv

/-! ## Texts of types, part by part -/

/-- Characters that are read as these tokens, unless more of a name follows. -/
def Lexes (cs : List Char) (tokens : List TypeToken) : Prop :=
  ∀ tail : List Char, tail.takeWhile Identifier.isPart = [] →
    TypeToken.ofChars? (cs ++ tail) = (TypeToken.ofChars? tail).map (tokens ++ ·)

/-- Tokens that are read as these alternatives, wherever an alternative may start. The last one is
still open to brackets. -/
def ReadsAs (tokens : List TypeToken) (alternatives : List Alternative) : Prop :=
  ∃ first last, alternatives = first ++ [last] ∧ ∀ outer before rest,
    alternative? outer before (tokens ++ rest) = after? outer (before ++ first) last rest

/-- Characters that spell these alternatives. -/
def Spells (cs : List Char) (alternatives : List Alternative) : Prop :=
  ∃ tokens, Lexes cs tokens ∧ ReadsAs tokens alternatives

namespace Lexes

open TypeToken (ofChars?_cons)

variable {cs ds : List Char} {ts us : List TypeToken}

theorem append (hcs : Lexes cs ts) (hds : Lexes ds us)
    (hsplit : ∀ tail : List Char, (ds ++ tail).takeWhile Identifier.isPart = []) :
    Lexes (cs ++ ds) (ts ++ us) := by
  intro tail htail
  rw [List.append_assoc, hcs _ (hsplit tail), hds tail htail, Option.map_map]
  simp only [Function.comp_def, List.append_assoc]

theorem nil : Lexes [] [] := by
  intro tail _
  simp

/-- A mark that is a token by itself, and what follows it. -/
theorem cons {c : Char} {t : TypeToken} (hcs : Lexes cs ts) (hblank : c ≠ ' ')
    (h : ∀ rest, TypeToken.next? c rest = some (t, rest)) :
    Lexes (c :: cs) (t :: ts) := by
  intro tail htail
  rw [List.cons_append, ofChars?_cons hblank (h _), hcs tail htail, Option.map_map]
  rfl

theorem word {name : String} (h : Identifier.isPlain name.toList = true) :
    Lexes name.toList [.word name] := by
  intro tail htail
  obtain ⟨c, cs, hchars, hstart⟩ := Identifier.exists_start h
  have hnot (mark : Char) (hmark : Identifier.isStart mark = false) : c ≠ mark := by
    rintro rfl
    rw [hmark] at hstart
    cases hstart
  rw [hchars] at h ⊢
  have hnext : TypeToken.next? c (cs ++ tail) = some (.word name, tail) := by
    rw [TypeToken.next?, if_neg (hnot '|' rfl), if_neg (hnot '<' rfl), if_neg (hnot '>' rfl),
      Token.next?_word h htail, ← hchars, String.ofList_toList]
    rfl
  exact ofChars?_cons (hnot ' ' rfl) hnext

theorem quote (s : String) : Lexes (Literal.quote s.toList) [.text s] := by
  intro tail _
  have hnext : TypeToken.next? '"' (Literal.encode s.toList ++ '"' :: tail) =
      some (.text s, tail) := by
    simp [TypeToken.next?, Token.next?_quote, TypeToken.ofToken?]
  rw [Literal.quote_append]
  exact ofChars?_cons (by decide) hnext

theorem brackets : Lexes ['[', ']'] [.openBracket, .closeBracket] :=
  (nil.cons (by decide) fun _ => rfl).cons (by decide) fun _ => rfl

end Lexes

namespace ReadsAs

variable {ts us : List TypeToken} {as bs : List Alternative} {a : Alternative}

/-- One token that is an alternative. -/
theorem token {t : TypeToken} (h : ∀ outer before rest,
    alternative? outer before (t :: rest) = after? outer before a rest) : ReadsAs [t] [a] := by
  refine ⟨[], a, rfl, fun outer before rest => ?_⟩
  rw [List.append_nil]
  exact h outer before rest

theorem word {name : String} (h : Alternative.ofWord? name = some a) :
    ReadsAs [.word name] [a] := by
  refine token fun outer before rest => ?_
  have hname : name ≠ "Array" := by
    rintro rfl
    cases h
  simp [alternative?, hname, h]

theorem union (has : ReadsAs ts as) (hbs : ReadsAs us bs) :
    ReadsAs (ts ++ .bar :: us) (as ++ bs) := by
  obtain ⟨first, last, rfl, hfirst⟩ := has
  obtain ⟨second, final, rfl, hsecond⟩ := hbs
  refine ⟨first ++ [last] ++ second, final, by simp, fun outer before rest => ?_⟩
  rw [List.append_assoc, hfirst, List.cons_append, after?, hsecond]
  simp only [List.append_assoc]

/-- Brackets belong to the last alternative, so there must be no other one. -/
theorem brackets (h : ReadsAs ts [a]) :
    ReadsAs (ts ++ [.openBracket, .closeBracket]) [.listOf [a]] := by
  obtain ⟨first, last, hlast, hread⟩ := h
  have hsingle : first = [] ∧ last = a := by
    cases first with
    | nil => simpa using hlast.symm
    | cons b first => simp at hlast
  obtain ⟨rfl, rfl⟩ := hsingle
  refine ⟨[], .listOf [last], rfl, fun outer before rest => ?_⟩
  rw [List.append_assoc, hread]
  simp only [List.cons_append, List.nil_append, after?, List.append_nil]

/-- Between the brackets of `Array` there may be any alternatives. -/
theorem array (h : ReadsAs ts as) :
    ReadsAs (.word "Array" :: .openAngle :: (ts ++ [.closeAngle])) [.listOf as] := by
  obtain ⟨first, last, rfl, hread⟩ := h
  refine ⟨[], .listOf (first ++ [last]), rfl, fun outer before rest => ?_⟩
  simp only [List.cons_append, List.append_assoc, List.nil_append, alternative?, hread, after?,
    List.append_nil]

end ReadsAs

namespace Spells

variable {cs ds : List Char} {as bs : List Alternative} {a : Alternative}

theorem word (name : String) (h : Identifier.isPlain name.toList = true)
    (ha : Alternative.ofWord? name = some a) : Spells name.toList [a] :=
  ⟨_, .word h, .word ha⟩

theorem quote (s : String) : Spells (Literal.quote s.toList) [.text s] :=
  ⟨_, .quote s, .token fun _ _ _ => by simp [alternative?]⟩

theorem emptyList : Spells ['[', ']'] [.emptyList] := by
  refine ⟨_, .brackets, [], .emptyList, rfl, fun outer before rest => ?_⟩
  simp [alternative?]

theorem union (has : Spells cs as) (hbs : Spells ds bs) : Spells (cs ++ '|' :: ds) (as ++ bs) := by
  obtain ⟨ts, hcs, hts⟩ := has
  obtain ⟨us, hds, hus⟩ := hbs
  have hbar : Lexes ('|' :: ds) (.bar :: us) := hds.cons (by decide) fun _ => rfl
  exact ⟨_, hcs.append hbar fun _ => rfl, hts.union hus⟩

theorem brackets (h : Spells cs [a]) : Spells (cs ++ ['[', ']']) [.listOf [a]] := by
  obtain ⟨ts, hcs, hts⟩ := h
  exact ⟨_, hcs.append .brackets fun _ => rfl, hts.brackets⟩

theorem array (h : Spells cs as) :
    Spells ("Array<".toList ++ (cs ++ ['>'])) [.listOf as] := by
  obtain ⟨ts, hcs, hts⟩ := h
  have hword : Lexes "Array".toList [.word "Array"] := .word rfl
  have hclose : Lexes ['>'] [.closeAngle] := Lexes.nil.cons (by decide) fun _ => rfl
  have hitem : Lexes ('<' :: (cs ++ ['>'])) (.openAngle :: (ts ++ [.closeAngle])) :=
    (hcs.append hclose fun _ => rfl).cons (by decide) fun _ => rfl
  exact ⟨_, hword.append hitem fun _ => rfl, hts.array⟩

/-- A text that spells alternatives is read as them. -/
theorem alternatives?_eq (h : Spells cs as) : alternatives? (String.ofList cs) = some as := by
  obtain ⟨tokens, hlexes, first, last, rfl, hread⟩ := h
  have htokens := hlexes [] rfl
  have hend := hread [] [] []
  rw [List.append_nil] at htokens hend
  rw [alternatives?, String.toList_ofList, htokens, TypeToken.ofChars?_nil, Option.map_some,
    Option.bind_some, List.append_nil, hend]
  rfl

end Spells

end Script

/-! ## Types and their alternatives -/

open Script (Alternative Spells)

namespace ValueType

/-- Where texts are to be chosen from, there are some. -/
def IsSpelled : ValueType → Prop
  | literals values => values ≠ []
  | list inner | nullable inner | clearable inner => inner.IsSpelled
  | _ => True

/-- The alternatives that a type is made of. -/
def alternatives : ValueType → List Alternative
  | string | fileRef => [.named "string"]
  | number => [.named "number"]
  | boolean => [.named "boolean"]
  | unknown => [.named "unknown"]
  | temporal => [.named "Date"]
  | flavored f => [.named f.typeName]
  | recordId => [.named "RecordId"]
  | binary => [.named "File"]
  | geoPoint => [.named "GeoPoint"]
  | literals values => values.map .text
  | list item => [.listOf item.alternatives]
  | nullable inner => inner.alternatives ++ [.null]
  | clearable inner =>
    inner.alternatives ++ [.undefined, if inner.isList then .emptyList else .text ""]

theorem chars_literals (values : List String) : (literals values).chars =
    ['|'].intercalate (values.map fun s => Literal.quote s.toList) := rfl

theorem chars_literals_cons (s t : String) (rest : List String) :
    (literals (s :: t :: rest)).chars =
      Literal.quote s.toList ++ '|' :: (literals (t :: rest)).chars := by
  rw [chars_literals, chars_literals, List.map_cons, List.map_cons, List.intercalate_cons_cons,
    List.append_assoc]
  rfl

theorem spells_literals (s : String) (rest : List String) :
    Spells (literals (s :: rest)).chars (literals (s :: rest)).alternatives := by
  induction rest generalizing s with
  | nil =>
    rw [chars_literals, List.map_singleton, List.intercalate_singleton]
    exact Spells.quote s
  | cons t rest ih =>
    rw [chars_literals_cons]
    exact (Spells.quote s).union (ih t)

/-- A type that is printed without a bar is a single alternative. -/
theorem exists_alternative {t : ValueType} (h : t.IsSpelled) (hbar : '|' ∉ t.chars) :
    ∃ a, t.alternatives = [a] := by
  cases t with
  | literals values =>
    rcases values with _ | ⟨s, _ | ⟨t, rest⟩⟩
    · exact absurd rfl h
    · exact ⟨.text s, rfl⟩
    · simp [chars_literals_cons] at hbar
  | nullable inner => simp [chars_nullable] at hbar
  | clearable inner => simp [chars_clearable] at hbar
  | _ => exact ⟨_, rfl⟩

theorem spells_list {item : ValueType} (h : item.IsSpelled)
    (hitem : Spells item.chars item.alternatives) :
    Spells (list item).chars (list item).alternatives := by
  rw [chars_list, listChars]
  split
  · exact hitem.array
  · rename_i hbar
    obtain ⟨a, ha⟩ := exists_alternative h (by simpa using hbar)
    rw [ha] at hitem
    rw [alternatives, ha]
    exact hitem.brackets

theorem spells (t : ValueType) (h : t.IsSpelled) : Spells t.chars t.alternatives := by
  induction t with
  | string | fileRef => exact Spells.word "string" rfl rfl
  | number => exact Spells.word "number" rfl rfl
  | boolean => exact Spells.word "boolean" rfl rfl
  | unknown => exact Spells.word "unknown" rfl rfl
  | temporal => exact Spells.word "Date" rfl rfl
  | recordId => exact Spells.word "RecordId" rfl rfl
  | binary => exact Spells.word "File" rfl rfl
  | geoPoint => exact Spells.word "GeoPoint" rfl rfl
  | flavored f =>
    refine Spells.word f.typeName ?_ ?_
    · cases f <;> rfl
    · cases f <;> rfl
  | literals values =>
    cases values with
    | nil => exact absurd rfl h
    | cons s rest => exact spells_literals s rest
  | list item ih => exact spells_list h (ih h)
  | nullable inner ih =>
    have hnull : Spells "null".toList [.null] := Spells.word "null" rfl rfl
    exact (ih h).union hnull
  | clearable inner ih =>
    have hundefined : Spells "undefined".toList [.undefined] :=
      Spells.word "undefined" rfl rfl
    have hempty : Spells (if inner.isList then ['[', ']'] else ['"', '"'])
        [if inner.isList then .emptyList else .text ""] := by
      split
      · exact .emptyList
      · exact .quote ""
    have hunion := ((ih h).union hundefined).union hempty
    rw [chars_clearable, alternatives]
    simpa using hunion

end ValueType

/-! ## Types of declared fields -/

def ReadField.IsSpelled (e : ReadField) : Prop := e.modelType.IsSpelled ∧ e.wireType.IsSpelled

def WriteField.IsSpelled (e : WriteField) : Prop := e.modelType.IsSpelled ∧ e.wireType.IsSpelled

theorem Cardinality.isSpelled_apply {t : ValueType} (c : Cardinality) (h : t.IsSpelled) :
    (c.apply t).IsSpelled := by
  cases c
  · exact h
  · exact h

theorem ValueType.isSpelled_nullableIf {t : ValueType} (isNullable : Bool) (h : t.IsSpelled) :
    (t.nullableIf isNullable).IsSpelled := by
  cases isNullable
  · exact h
  · exact h

namespace Field

/-- Every type in the shapes of a field is spelled. -/
structure IsSpelled (policy : EmptyListPolicy) (f : Field) : Prop where
  read : ∀ e ∈ f.readField? policy, e.IsSpelled
  create : ∀ e ∈ f.createField? policy, e.IsSpelled
  update : ∀ e ∈ f.updateFields policy, e.IsSpelled

variable {policy : EmptyListPolicy} {f : Field}

theorem options_of_declaration {raw : Json} (h : ofDeclaration raw = .ok f) :
    ∀ options c, f.form = .select options c → options ≠ [] := by
  intro options c hselect
  obtain ⟨members, -, -, -, hform⟩ := (ofDeclaration_ok_iff raw f).mp h
  have hkind : f.kind = .select := by simp [Field.kind, FieldForm.kind, hselect]
  rw [hkind, hselect] at hform
  obtain ⟨_, _, hread, -, hsame⟩ := (Declaration.select_form_ok_iff _ _).mp hform
  rw [Declaration.named_ok_iff, Declaration.someTexts_ok_iff] at hread
  cases hsame
  exact hread.2.1

variable (hoptions : ∀ options c, f.form = .select options c → options ≠ [])

include hoptions

theorem isSpelled_readType? {t : ValueType} (h : f.readType? policy = some t) : t.IsSpelled := by
  unfold readType? at h
  split at h
  all_goals cases h
  case h_2 | h_3 | h_4 | h_6 | h_7 | h_8 => exact ValueType.isSpelled_nullableIf _ trivial
  case h_12 options c hform => exact c.isSpelled_apply (hoptions options c hform)
  case h_13 => exact Cardinality.isSpelled_apply _ trivial
  all_goals exact trivial

theorem isSpelled_wireType : f.wireType.IsSpelled := by
  unfold wireType
  split
  case h_12 options c hform => exact c.isSpelled_apply (hoptions options c hform)
  case h_9 | h_13 => exact Cardinality.isSpelled_apply _ trivial
  all_goals exact trivial

theorem isSpelled_readField? : ∀ e ∈ f.readField? policy, e.IsSpelled := by
  intro e he
  obtain ⟨t, ht, rfl⟩ := Option.map_eq_some_iff.mp he
  exact ⟨isSpelled_readType? hoptions ht, isSpelled_wireType hoptions⟩

theorem isSpelled_createField? : ∀ e ∈ f.createField? policy, e.IsSpelled := by
  intro e he
  unfold createField? at he
  split at he
  · cases he
  · cases he
    have hfile (c : Cardinality) : (c.apply .binary).IsSpelled := c.isSpelled_apply trivial
    exact ⟨hfile _, hfile _⟩
  · cases he
    exact ⟨trivial, trivial⟩
  · obtain ⟨t, ht, rfl⟩ := Option.map_eq_some_iff.mp he
    exact ⟨isSpelled_readType? hoptions ht, isSpelled_wireType hoptions⟩

theorem isSpelled_updateFields : ∀ e ∈ f.updateFields policy, e.IsSpelled := by
  intro e he
  unfold updateFields at he
  split at he
  · cases he
  · have hfile (c : Cardinality) : (c.apply .binary).IsSpelled := c.isSpelled_apply trivial
    rcases List.mem_cons.mp he with rfl | hpatch
    · exact ⟨hfile _, hfile _⟩
    · split at hpatch
      · cases hpatch
      · obtain ⟨op, -, rfl⟩ := List.mem_map.mp hpatch
        cases op <;> exact ⟨trivial, trivial⟩
  · exact isSpelled_createField? hoptions e (Option.mem_toList.mp he)

end Field

/-! ## The law -/

/-- The text of a type is read as the alternatives of the type, however deep it is and whatever the
texts in it say; and all types of the fields of a collection have such a text. -/
theorem printed_types_are_read_as_they_are :
    (∀ t : ValueType, t.IsSpelled → Script.alternatives? t.text = some t.alternatives) ∧
      ∀ policy raw f, Field.ofDeclaration raw = .ok f → f.IsSpelled policy := by
  refine ⟨fun t h => (t.spells h).alternatives?_eq, fun policy raw f h => ?_⟩
  have hoptions := Field.options_of_declaration h
  exact ⟨Field.isSpelled_readField? hoptions, Field.isSpelled_createField? hoptions,
    Field.isSpelled_updateFields hoptions⟩

/-- A type with texts that look like parts of types. -/
def tangled : ValueType :=
  .clearable (.list (.nullable (.list (.literals ["a|b", "[]", "Array<\"c\">", "\\"]))))

/-- Marks, one of which is a bar. -/
def marks : Json :=
  .object [("name", .text "marks"), ("type", .text "select"),
    ("options", .array [.text "|", .text "<>"]), ("mode", .text "multiple")]

theorem the_tangled_type_is_read : tangled.IsSpelled ∧
    Script.alternatives? tangled.text = some tangled.alternatives ∧
      ∃ f, Field.ofDeclaration marks = .ok f ∧ f.IsSpelled .null := by
  have htangled : tangled.IsSpelled := List.cons_ne_nil _ _
  exact ⟨htangled, printed_types_are_read_as_they_are.1 tangled htangled, _, rfl,
    printed_types_are_read_as_they_are.2 .null marks _ rfl⟩

/-- A text with a bar in it is a single alternative, and still it is put between the brackets of
`Array`. -/
example : (ValueType.list (.literals ["|"])).text = "Array<\"|\">" := rfl

end StoreClient
