-- Texts of one line. Whatever a name or an option says, the views of a schema have it in quotes
-- unless it is plain, so that no text of theirs breaks a line, apart from the bare names that
-- they hold besides.
import Mathlib.Data.Option.Basic
import StoreClient.Proofs.ClientDeclarations
import StoreClient.Proofs.Digits
import StoreClient.Proofs.Literals

namespace StoreClient

/-! ## Texts of one line -/

/-- The characters that end a line. -/
def IsBreak (c : Char) : Prop := c = '\n' ∨ c = '\r'

instance (c : Char) : Decidable (IsBreak c) := inferInstanceAs (Decidable (_ ∨ _))

def OneLine (text : String) : Prop := ∀ c ∈ text.toList, ¬ IsBreak c

/-- A test of characters for breaks. -/
def isUnbroken (cs : List Char) : Bool := cs.all fun c => !decide (IsBreak c)

theorem isUnbroken_iff (cs : List Char) : isUnbroken cs = true ↔ ∀ c ∈ cs, ¬ IsBreak c := by
  simp only [isUnbroken, List.all_eq_true, Bool.not_eq_true', decide_eq_false_iff_not]

/-- A fixed text is read from its characters. -/
theorem oneLine_of_chars {text : String} {cs : List Char} (htext : text = String.ofList cs)
    (h : isUnbroken cs = true) : OneLine text := by
  rw [OneLine, htext, String.toList_ofList]
  exact (isUnbroken_iff cs).mp h

theorem oneLine_of_forall_chars {lines : List String} {css : List (List Char)}
    (hlines : List.Forall₂ (fun line cs => line = String.ofList cs) lines css)
    (h : css.all isUnbroken = true) : ∀ line ∈ lines, OneLine line :=
  fun line hline => (isUnbroken_iff _).mp (ClientText.all_of_chars hlines h line hline)

theorem oneLine_append (a b : String) : OneLine (a ++ b) ↔ OneLine a ∧ OneLine b := by
  simp only [OneLine, String.toList_append, List.forall_mem_append]

theorem not_isBreak_intercalate {separator : List Char} {parts : List (List Char)}
    (hseparator : ∀ c ∈ separator, ¬ IsBreak c) (h : ∀ cs ∈ parts, ∀ c ∈ cs, ¬ IsBreak c) :
    ∀ c ∈ separator.intercalate parts, ¬ IsBreak c := by
  induction parts with
  | nil => exact fun c hc => absurd hc List.not_mem_nil
  | cons part parts ih =>
    rw [List.forall_mem_cons] at h
    cases parts with
    | nil => simpa [List.intercalate] using h.1
    | cons next parts =>
      rw [List.intercalate_cons_cons, List.forall_mem_append, List.forall_mem_append]
      exact ⟨⟨h.1, hseparator⟩, ih h.2⟩

theorem oneLine_intercalate {separator : String} {parts : List String}
    (hseparator : OneLine separator) (h : ∀ part ∈ parts, OneLine part) :
    OneLine (separator.intercalate parts) := by
  rw [OneLine, String.toList_intercalate]
  exact not_isBreak_intercalate hseparator (List.forall_mem_map.mpr h)

/-! ## Names and literals -/

theorem not_isBreak_of_isPart {c : Char} (h : Identifier.isPart c = true) : ¬ IsBreak c := by
  rintro (rfl | rfl)
  · exact absurd h (by decide)
  · exact absurd h (by decide)

theorem oneLine_of_isWord {name : String} (h : ClientText.IsWord name) : OneLine name :=
  fun c hc => not_isBreak_of_isPart (h c hc)

theorem oneLine_of_isPlain {name : String} (h : Identifier.isPlain name.toList = true) :
    OneLine name := oneLine_of_isWord (ClientText.isWord_of_isPlain h)

/-- The characters that end a line are control characters. -/
theorem not_isBreak_of_visible {c : Char} (h : 32 ≤ c.toNat) : ¬ IsBreak c := by
  rintro (rfl | rfl)
  · exact absurd h (by decide)
  · exact absurd h (by decide)

namespace Literal

theorem not_isBreak_quote (cs : List Char) : ∀ c ∈ quote cs, ¬ IsBreak c :=
  fun c hc => not_isBreak_of_visible (visible_quote cs c hc)

theorem oneLine_ofString (s : String) : OneLine (ofString s) := by
  rw [OneLine, toList_ofString]
  exact not_isBreak_quote s.toList

end Literal

theorem Member.oneLine_key (name : String) : OneLine (key name) := by
  unfold key
  split
  · rename_i hplain
    exact oneLine_of_isPlain hplain
  · exact Literal.oneLine_ofString name

theorem Member.oneLine_access {object : String} (h : OneLine object) (name : String) :
    OneLine (access object name) := by
  unfold access
  split
  · rename_i hplain
    simp only [oneLine_append]
    exact ⟨⟨h, oneLine_of_chars rfl rfl⟩, oneLine_of_isPlain hplain⟩
  · simp only [oneLine_append]
    exact ⟨⟨⟨h, oneLine_of_chars rfl rfl⟩, Literal.oneLine_ofString name⟩, oneLine_of_chars rfl rfl⟩

/-! ## Types and expressions -/

namespace ValueType

theorem chars_list (item : ValueType) : (list item).chars = listChars item.chars := rfl

theorem chars_nullable (inner : ValueType) :
    (nullable inner).chars = inner.chars ++ "|null".toList := rfl

theorem chars_clearable (inner : ValueType) : (clearable inner).chars =
    inner.chars ++ "|undefined|".toList ++ (if inner.isList then ['[', ']'] else ['"', '"']) := rfl

theorem oneLine_typeName (f : Flavor) : OneLine f.typeName := by
  cases f <;> exact oneLine_of_chars rfl rfl

theorem not_isBreak_chars (t : ValueType) : ∀ c ∈ t.chars, ¬ IsBreak c := by
  induction t with
  | string | fileRef => exact show OneLine "string" from oneLine_of_chars rfl rfl
  | number => exact show OneLine "number" from oneLine_of_chars rfl rfl
  | boolean => exact show OneLine "boolean" from oneLine_of_chars rfl rfl
  | unknown => exact show OneLine "unknown" from oneLine_of_chars rfl rfl
  | temporal => exact show OneLine "Date" from oneLine_of_chars rfl rfl
  | recordId => exact show OneLine "RecordId" from oneLine_of_chars rfl rfl
  | binary => exact show OneLine "File" from oneLine_of_chars rfl rfl
  | geoPoint => exact show OneLine "GeoPoint" from oneLine_of_chars rfl rfl
  | flavored f => exact oneLine_typeName f
  | literals values =>
    have hbar : ∀ c ∈ ['|'], ¬ IsBreak c := (isUnbroken_iff _).mp rfl
    refine not_isBreak_intercalate hbar (List.forall_mem_map.mpr fun v _ => ?_)
    exact Literal.not_isBreak_quote v.toList
  | list item ih =>
    have hopen : OneLine "Array<" := oneLine_of_chars rfl rfl
    rw [chars_list, listChars]
    split
    · simp only [List.forall_mem_append]
      exact ⟨hopen, ih, (isUnbroken_iff _).mp rfl⟩
    · rw [List.forall_mem_append]
      exact ⟨ih, (isUnbroken_iff _).mp rfl⟩
  | nullable inner ih =>
    have hnull : OneLine "|null" := oneLine_of_chars rfl rfl
    rw [chars_nullable, List.forall_mem_append]
    exact ⟨ih, hnull⟩
  | clearable inner ih =>
    have hundefined : OneLine "|undefined|" := oneLine_of_chars rfl rfl
    rw [chars_clearable, List.forall_mem_append, List.forall_mem_append]
    refine ⟨⟨ih, hundefined⟩, ?_⟩
    split
    · exact (isUnbroken_iff _).mp rfl
    · exact (isUnbroken_iff _).mp rfl

theorem oneLine_text (t : ValueType) : OneLine t.text := by
  rw [OneLine, text, String.toList_ofList]
  exact t.not_isBreak_chars

end ValueType

namespace Codec

variable {value : String}

theorem oneLine_parsing (c : Codec) (h : OneLine value) : OneLine (c.parsing value) := by
  unfold parsing
  split
  all_goals simp only [oneLine_append, h, true_and, and_true]
  all_goals and_intros
  all_goals exact oneLine_of_chars rfl rfl

theorem oneLine_serializing (c : Codec) (h : OneLine value) : OneLine (c.serializing value) := by
  unfold serializing
  split
  all_goals simp only [oneLine_append, h, true_and, and_true]
  all_goals and_intros
  all_goals exact oneLine_of_chars rfl rfl

end Codec

/-! ## Views -/

/-- No text of a field that the client shows breaks a line. -/
structure FieldView.Unbroken (v : FieldView) : Prop where
  key : OneLine v.key
  wireKey : OneLine v.wireKey
  modelType : OneLine v.modelType
  wireType : OneLine v.wireType
  parser : ∀ e ∈ v.parser, OneLine e
  serializer : ∀ e ∈ v.serializer, OneLine e
  doc : ∀ e ∈ v.doc, OneLine e

structure ExpansionView.Unbroken (v : ExpansionView) : Prop where
  key : OneLine v.key
  value : OneLine v.value
  typeName : OneLine v.typeName

/-- No text of a collection that the client shows breaks a line, apart from its bare name. -/
structure BundleView.Unbroken (v : BundleView) : Prop where
  nameLiteral : OneLine v.nameLiteral
  typeName : OneLine v.typeName
  read : ∀ f ∈ v.read, f.Unbroken
  create : ∀ f ∈ v.create, f.Unbroken
  update : ∀ f ∈ v.update, f.Unbroken
  companionBindings : ∀ binding ∈ v.companionBindings, OneLine binding
  expand : ∀ e ∈ v.expand, e.Unbroken
  fieldNames : OneLine v.fieldNames

namespace FieldView

theorem oneLine_access (name : String) : OneLine (Member.access record name) :=
  Member.oneLine_access (oneLine_of_chars rfl rfl) name

theorem unbroken_ofRead {f : ReadField} (hdoc : ∀ e ∈ f.doc, OneLine e) : (ofRead f).Unbroken where
  key := Member.oneLine_key f.name
  wireKey := Member.oneLine_key f.name
  modelType := f.modelType.oneLine_text
  wireType := f.wireType.oneLine_text
  parser := Option.forall_mem_map.mpr fun c _ => c.oneLine_parsing (oneLine_access f.name)
  serializer := Option.forall_mem_map.mpr fun c _ => c.oneLine_serializing (oneLine_access f.name)
  doc := hdoc

theorem unbroken_ofWrite {f : WriteField} (hdoc : ∀ e ∈ f.doc, OneLine e) :
    (ofWrite f).Unbroken where
  key := Member.oneLine_key f.name
  wireKey := Member.oneLine_key f.wireKey
  modelType := f.modelType.oneLine_text
  wireType := f.wireType.oneLine_text
  parser := fun e he => absurd he (Option.not_mem_none e)
  serializer := Option.forall_mem_map.mpr fun c _ => c.oneLine_serializing (oneLine_access f.name)
  doc := hdoc

theorem oneLine_companionLocal (f : WriteField) (number : Nat) :
    OneLine (companionLocal f number) := by
  unfold companionLocal
  split
  · rename_i hplain
    exact oneLine_of_isPlain hplain
  · have hnumber : OneLine (String.ofList (Number.natChars number)) := by
      rw [OneLine, String.toList_ofList]
      intro c hc
      have hdigit := Number.isAsciiDigit_of_mem_natChars hc
      exact not_isBreak_of_isPart (by simp [Identifier.isPart, hdigit])
    rw [oneLine_append]
    exact ⟨oneLine_of_chars rfl rfl, hnumber⟩

theorem oneLine_binding {localName : String} (h : OneLine localName) (name : String) :
    OneLine (binding name localName) := by
  unfold binding
  split
  · exact h
  · simp only [oneLine_append]
    exact ⟨⟨Literal.oneLine_ofString name, oneLine_of_chars rfl rfl⟩, h⟩

theorem unbroken_ofCompanion {f : WriteField} (hdoc : ∀ e ∈ f.doc, OneLine e)
    {localName : String} (h : OneLine localName) : (ofCompanion f localName).Unbroken := by
  refine { unbroken_ofWrite hdoc with serializer := ?_ }
  intro e he
  cases he
  cases f.serialize with
  | none => exact h
  | some c => exact c.oneLine_serializing h

theorem unbroken_ofUpdates (number : Nat) {fs : List WriteField}
    (h : ∀ f ∈ fs, ∀ e ∈ f.doc, OneLine e) :
    (∀ v ∈ (ofUpdates number fs).1, v.Unbroken) ∧
      ∀ binding ∈ (ofUpdates number fs).2, OneLine binding := by
  induction fs generalizing number with
  | nil => simp [ofUpdates]
  | cons f rest ih =>
    rw [List.forall_mem_cons] at h
    have hlocal := oneLine_companionLocal f number
    unfold ofUpdates
    split
    · obtain ⟨hviews, hbindings⟩ := ih (number + 1) h.2
      rw [List.forall_mem_cons, List.forall_mem_cons]
      exact ⟨⟨unbroken_ofCompanion h.1 hlocal, hviews⟩, oneLine_binding hlocal f.name, hbindings⟩
    · obtain ⟨hviews, hbindings⟩ := ih number h.2
      rw [List.forall_mem_cons]
      exact ⟨⟨unbroken_ofWrite h.1, hviews⟩, hbindings⟩

end FieldView

/-- What a bundle must keep free of breaks itself: its type names and the fixed comments. -/
structure Bundle.Unbroken (b : Bundle) : Prop where
  typeName : OneLine b.typeName
  read : ∀ f ∈ b.read, ∀ e ∈ f.doc, OneLine e
  create : ∀ f ∈ b.create, ∀ e ∈ f.doc, OneLine e
  update : ∀ f ∈ b.update, ∀ e ∈ f.doc, OneLine e
  expand : ∀ e ∈ b.expand, OneLine e.typeName

theorem BundleView.unbroken_ofBundle {b : Bundle} (h : b.Unbroken) : (ofBundle b).Unbroken where
  nameLiteral := Literal.oneLine_ofString b.name
  typeName := h.typeName
  read := List.forall_mem_map.mpr fun f hf => FieldView.unbroken_ofRead (h.read f hf)
  create := List.forall_mem_map.mpr fun f hf => FieldView.unbroken_ofWrite (h.create f hf)
  update := (FieldView.unbroken_ofUpdates 0 h.update).1
  companionBindings := (FieldView.unbroken_ofUpdates 0 h.update).2
  expand := List.forall_mem_map.mpr fun e he =>
    { key := Member.oneLine_key e.field
      value := Member.oneLine_access (oneLine_of_chars rfl rfl) e.field
      typeName := h.expand e he }
  fieldNames := oneLine_intercalate (oneLine_of_chars rfl rfl)
    (List.forall_mem_map.mpr fun name _ => Literal.oneLine_ofString name)

end StoreClient
