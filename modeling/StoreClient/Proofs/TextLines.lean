-- The lines of a text, as a reader of scripts takes it apart. The lines that the generated client
-- is made of stand in its text as they are, except that the name of a collection may end the
-- comment that shows it; what follows in the name then stands on lines of its own.
import Mathlib.Data.List.Basic
import StoreClient.Proofs.ClientLines

namespace StoreClient

/-! ## Ends of lines -/

/-- A line ends at a line feed, at a carriage return, or at both in this order. -/
def brokenLines : List Char → List (List Char)
  | [] => [[]]
  | '\r' :: '\n' :: cs => [] :: brokenLines cs
  | c :: cs => if IsBreak c then [] :: brokenLines cs else (brokenLines cs).modifyHead (c :: ·)

/-- Two characters that end a line as well, unless they stand in a literal. -/
def isSeparator (c : Char) : Bool := c = '\u2028' || c = '\u2029'

def isComment (line : List Char) : Bool := "//".toList.isPrefixOf line

/-- A separator ends a comment. In code it is left alone, since it may stand in a literal. -/
def commentLines (line : List Char) : List (List Char) :=
  if isComment line then line.splitOnP isSeparator else [line]

/-- The lines of a text. -/
def textLines (text : String) : List String :=
  ((brokenLines text.toList).flatMap commentLines).map String.ofList

/-- What becomes of a line that is put into a text: it stands there as one line, or as several. -/
def shownLines (line : String) : List String := (textLines (line ++ "\n")).dropLast

/-- What keeps to its line, even in a comment. -/
def KeepsToLine (text : String) : Prop :=
  ∀ c ∈ text.toList, ¬ IsBreak c ∧ isSeparator c = false

theorem keepsToLine_append (a b : String) :
    KeepsToLine (a ++ b) ↔ KeepsToLine a ∧ KeepsToLine b := by
  simp only [KeepsToLine, String.toList_append, List.forall_mem_append]

/-- A fixed text is read from its characters. -/
theorem keepsToLine_of_chars {text : String} {cs : List Char} (htext : text = String.ofList cs)
    (h : (cs.all fun c => !decide (IsBreak c) && !isSeparator c) = true) : KeepsToLine text := by
  rw [KeepsToLine, htext, String.toList_ofList]
  simpa only [List.all_eq_true, Bool.and_eq_true, Bool.not_eq_true',
    decide_eq_false_iff_not] using h

/-! ### Breaks -/

theorem brokenLines_of_break {c : Char} {cs : List Char} (hc : IsBreak c)
    (h : c = '\n' ∨ cs.head? ≠ some '\n') : brokenLines (c :: cs) = [] :: brokenLines cs := by
  rw [brokenLines, if_pos hc]
  rintro rest rfl rfl
  simp at h

theorem brokenLines_of_not_break {c : Char} (cs : List Char) (hc : ¬ IsBreak c) :
    brokenLines (c :: cs) = (brokenLines cs).modifyHead (c :: ·) := by
  rw [brokenLines, if_neg hc]
  rintro rest rfl rfl
  exact hc (.inr rfl)

/-- After a line feed, a text goes on with lines of its own, whatever stood before. -/
theorem exists_brokenLines (cs : List Char) : ∃ first others, ∀ rest,
    brokenLines (cs ++ '\n' :: rest) = first :: others ++ brokenLines rest := by
  fun_induction brokenLines cs with
  | case1 => exact ⟨[], [], fun rest => brokenLines_of_break (.inl rfl) (.inl rfl)⟩
  | case2 cs ih =>
    obtain ⟨first, others, h⟩ := ih
    refine ⟨[], first :: others, fun rest => ?_⟩
    rw [List.cons_append, List.cons_append, brokenLines, h]
    rfl
  | case3 c cs hother hbreak ih =>
    cases cs with
    | nil =>
      rcases hbreak with rfl | rfl
      · exact ⟨[], [[]], fun rest => rfl⟩
      · exact ⟨[], [], fun rest => rfl⟩
    | cons d cs =>
      obtain ⟨first, others, h⟩ := ih
      refine ⟨[], first :: others, fun rest => ?_⟩
      rw [List.cons_append, brokenLines_of_break hbreak, h]
      · rfl
      · rcases hbreak with rfl | rfl
        · exact .inl rfl
        · refine .inr fun hd => hother cs rfl ?_
          cases hd
          rfl
  | case4 c cs _ hbreak ih =>
    obtain ⟨first, others, h⟩ := ih
    refine ⟨c :: first, others, fun rest => ?_⟩
    rw [List.cons_append, brokenLines_of_not_break _ hbreak, h]
    rfl

theorem brokenLines_line {line : List Char} (h : ∀ c ∈ line, ¬ IsBreak c) (rest : List Char) :
    brokenLines (line ++ '\n' :: rest) = line :: brokenLines rest := by
  induction line with
  | nil => rfl
  | cons c line ih =>
    rw [List.forall_mem_cons] at h
    rw [List.cons_append, brokenLines_of_not_break _ h.1, ih h.2]
    rfl

theorem not_isBreak_of_mem_brokenLines {cs line : List Char} (h : line ∈ brokenLines cs) :
    ∀ c ∈ line, ¬ IsBreak c := by
  fun_induction brokenLines cs generalizing line with
  | case1 =>
    obtain rfl := List.mem_singleton.mp h
    exact List.forall_mem_nil _
  | case2 cs ih =>
    rcases List.mem_cons.mp h with rfl | h
    · exact List.forall_mem_nil _
    · exact ih h
  | case3 c cs _ _ ih =>
    rcases List.mem_cons.mp h with rfl | h
    · exact List.forall_mem_nil _
    · exact ih h
  | case4 c cs _ hbreak ih =>
    cases hlines : brokenLines cs with
    | nil =>
      rw [hlines] at h
      exact absurd h List.not_mem_nil
    | cons first others =>
      rw [hlines, List.modifyHead_cons] at h
      rw [hlines] at ih
      rcases List.mem_cons.mp h with rfl | h
      · exact List.forall_mem_cons.mpr ⟨hbreak, ih List.mem_cons_self⟩
      · exact ih (List.mem_cons_of_mem _ h)

/-! ### Comments -/

theorem commentLines_code {line : List Char} (h : isComment line = false) :
    commentLines line = [line] := by
  rw [commentLines, h]
  rfl

theorem commentLines_of_forall {line : List Char} (h : ∀ c ∈ line, isSeparator c = false) :
    commentLines line = [line] := by
  unfold commentLines
  split
  · exact List.splitOnP_eq_singleton h
  · rfl

theorem mem_splitOnP {cs line : List Char} {p : Char → Bool} (h : line ∈ cs.splitOnP p) :
    ∀ c ∈ line, p c = false ∧ c ∈ cs := by
  induction cs generalizing line with
  | nil =>
    obtain rfl := List.mem_singleton.mp (List.splitOnP_nil ▸ h)
    exact List.forall_mem_nil _
  | cons c cs ih =>
    have hrest {line} (h : line ∈ cs.splitOnP p) : ∀ d ∈ line, p d = false ∧ d ∈ c :: cs :=
      fun d hd => ⟨(ih h d hd).1, List.mem_cons_of_mem c (ih h d hd).2⟩
    rw [List.splitOnP_cons_eq_if_modifyHead] at h
    split at h
    · rcases List.mem_cons.mp h with rfl | h
      · exact List.forall_mem_nil _
      · exact hrest h
    · rename_i hc
      obtain ⟨first, others, hlines⟩ := List.exists_cons_of_ne_nil (List.splitOnP_ne_nil p cs)
      rw [hlines, List.modifyHead_cons] at h
      rw [hlines] at hrest
      rcases List.mem_cons.mp h with rfl | h
      · refine List.forall_mem_cons.mpr ⟨⟨?_, List.mem_cons_self⟩, hrest List.mem_cons_self⟩
        exact eq_false_of_ne_true hc
      · exact hrest (List.mem_cons_of_mem _ h)

/-- A line of a text does not go past a break, nor a comment past a separator. -/
theorem mem_textLines {text line : String} (h : line ∈ textLines text) :
    OneLine line ∧ (isComment line.toList → ∀ c ∈ line.toList, isSeparator c = false) := by
  obtain ⟨cs, hcs, rfl⟩ := List.mem_map.mp h
  obtain ⟨broken, hbroken, hcs⟩ := List.mem_flatMap.mp hcs
  have hunbroken := not_isBreak_of_mem_brokenLines hbroken
  rw [OneLine, String.toList_ofList]
  unfold commentLines at hcs
  split at hcs
  · exact ⟨fun c hc => hunbroken c (mem_splitOnP hcs c hc).2,
      fun _ c hc => (mem_splitOnP hcs c hc).1⟩
  · rename_i hcode
    obtain rfl := List.mem_singleton.mp hcs
    exact ⟨hunbroken, fun hcomment => absurd hcomment hcode⟩

/-! ### Lines of a text -/

theorem exists_textLines (line : String) : ∃ shown, ∀ rest,
    textLines (line ++ "\n" ++ rest) = shown ++ textLines rest := by
  obtain ⟨first, others, h⟩ := exists_brokenLines line.toList
  refine ⟨((first :: others).flatMap commentLines).map String.ofList, fun rest => ?_⟩
  have hchars : (line ++ "\n" ++ rest).toList = line.toList ++ '\n' :: rest.toList := by
    simp
  rw [textLines, hchars, h, List.flatMap_append, List.map_append]
  rfl

theorem textLines_append (line rest : String) :
    textLines (line ++ "\n" ++ rest) = shownLines line ++ textLines rest := by
  obtain ⟨shown, h⟩ := exists_textLines line
  have hshown : shownLines line = shown := by
    have hempty := h ""
    rw [String.append_empty] at hempty
    rw [shownLines, hempty]
    exact List.dropLast_concat
  rw [h, hshown]

theorem textLines_join (lines : List String) :
    textLines (String.join (lines.map fun line => line ++ "\n")) =
      lines.flatMap shownLines ++ [""] := by
  induction lines with
  | nil => rfl
  | cons line lines ih =>
    rw [List.map_cons, String.join_cons, textLines_append, ih, List.flatMap_cons, List.append_assoc]

theorem shownLines_of_commentLines {line : String} (h : OneLine line)
    (hcomment : commentLines line.toList = [line.toList]) : shownLines line = [line] := by
  have hchars : (line ++ "\n").toList = line.toList ++ '\n' :: [] := by
    simp
  rw [shownLines, textLines, hchars, brokenLines_line h, List.flatMap_cons, hcomment]
  simp [brokenLines, commentLines, isComment]

theorem shownLines_code {line : String} (h : OneLine line) (hcode : isComment line.toList = false) :
    shownLines line = [line] := shownLines_of_commentLines h (commentLines_code hcode)

theorem shownLines_comment {line : String} (h : KeepsToLine line) : shownLines line = [line] :=
  shownLines_of_commentLines (fun c hc => (h c hc).1)
    (commentLines_of_forall fun c hc => (h c hc).2)

/-! ## Lines of the client -/

namespace ClientText

/-- A line that is no comment to its end. -/
def IsCode (line : String) : Prop := isComment line.toList = false

theorem isCode_of_head {line : String} (h : line.toList.head? ≠ some '/') : IsCode line := by
  unfold IsCode
  cases hline : line.toList with
  | nil => rfl
  | cons c cs =>
    have hc : ('/' == c) = false := by
      rw [beq_eq_false_iff_ne]
      rintro rfl
      exact h (congrArg List.head? hline)
    change ('/' == c && _) = false
    rw [hc, Bool.false_and]

theorem isCode_of_indented {line : String} (h : Indented line) : IsCode line := by
  apply isCode_of_head
  rw [h]
  decide

theorem isCode_of_chars {lines : List String} {css : List (List Char)}
    (hlines : List.Forall₂ (fun line cs => line = String.ofList cs) lines css)
    (h : css.all (fun cs => !isComment cs) = true) : ∀ line ∈ lines, IsCode line :=
  fun line hline => (Bool.not_eq_true' _).mp (all_of_chars hlines h line hline)

/-- A blank line, one at which a declaration starts, its inside and the line that closes it. -/
theorem isCode_block {first last : String} (hfirst : first.toList.head? ≠ some '/')
    (hlast : last.toList.head? ≠ some '/') {inside : List String}
    (hin : ∀ line ∈ inside, Indented line) :
    ∀ line ∈ ["", first] ++ inside ++ [last], IsCode line := by
  simp only [List.forall_mem_append, List.forall_mem_cons, List.not_mem_nil, false_implies,
    implies_true, and_true]
  exact ⟨⟨⟨rfl, isCode_of_head hfirst⟩, fun line hline => isCode_of_indented (hin line hline)⟩,
    isCode_of_head hlast⟩

theorem isCode_objectType (name : String) {properties : List String}
    (hin : ∀ line ∈ properties, Indented line) :
    ∀ line ∈ objectType name properties, IsCode line :=
  isCode_block (by simp) (by simp) hin

theorem isCode_aliasType (name type : String) : ∀ line ∈ aliasType name type, IsCode line := by
  simp only [aliasType, List.forall_mem_cons, List.not_mem_nil, false_implies, implies_true,
    and_true]
  exact ⟨rfl, isCode_of_head (by simp)⟩

theorem isCode_function (name recordType resultType : String) {body : List String}
    (hin : ∀ line ∈ body, Indented line) :
    ∀ line ∈ function name recordType resultType body, IsCode line :=
  isCode_block (by simp) (by simp) hin

theorem isCode_preamble : ∀ line ∈ preamble, IsCode line := by
  apply isCode_of_chars
  · repeat' constructor
  · exact rfl

theorem isCode_interface : ∀ line ∈ interface, IsCode line := by
  apply isCode_of_chars
  · repeat' constructor
  · exact rfl

theorem isCode_table (vs : List BundleView) : ∀ line ∈ table vs, IsCode line :=
  isCode_block (by simp) (by simp) (indented_tableEntries vs)

section

variable (v : BundleView)

theorem isCode_recordTypes : ∀ line ∈ recordTypes v, IsCode line := by
  simp only [recordTypes, List.forall_mem_append]
  refine ⟨⟨⟨⟨⟨?_, ?_⟩, ?_⟩, ?_⟩, ?_⟩, ?_⟩
  · exact isCode_objectType _
      (List.forall_mem_append.mpr ⟨indented_idProperty v _, indented_modelProperties v.read⟩)
  · exact isCode_objectType _
      (List.forall_mem_append.mpr ⟨indented_idProperty v _, indented_wireProperties v.read⟩)
  · exact isCode_objectType _ (indented_modelProperties v.create)
  · exact isCode_objectType _ (indented_wireProperties v.create)
  · exact isCode_objectType _ (indented_modelProperties v.update)
  · exact isCode_objectType _ (indented_wireProperties v.update)

theorem isCode_expandedTypes : ∀ line ∈ expandedTypes v, IsCode line := by
  unfold expandedTypes
  dsimp only
  split
  · simp only [List.forall_mem_append]
    exact ⟨⟨⟨isCode_objectType _ (indented_expandProperties _ _),
      isCode_objectType _ (indented_expandProperties _ _)⟩, isCode_aliasType _ _⟩,
      isCode_aliasType _ _⟩
  · rw [List.forall_mem_append]
    exact ⟨isCode_aliasType _ _, isCode_aliasType _ _⟩

theorem isCode_optionTypes : ∀ line ∈ optionTypes v, IsCode line := by
  unfold optionTypes
  simp only [List.forall_mem_append]
  refine ⟨⟨isCode_aliasType _ _, ?_⟩, isCode_aliasType _ _⟩
  split
  · exact isCode_objectType _ (List.forall_mem_map.mpr fun _ _ => indented_property _ _ _)
  · exact isCode_aliasType _ _

theorem isCode_functions : ∀ line ∈ functions v, IsCode line := by
  simp only [functions, List.forall_mem_append]
  refine ⟨⟨⟨⟨?_, ?_⟩, ?_⟩, ?_⟩, ?_⟩
  · exact isCode_function _ _ _ (indented_returnParsed v.read)
  · exact isCode_function _ _ _ (indented_parseExpandedBody v)
  · exact isCode_function _ _ _ (indented_returnSerialized _ v.read)
  · exact isCode_function _ _ _ (indented_returnSerialized _ v.create)
  · exact isCode_function _ _ _ (indented_serializeUpdateBody v)

theorem isCode_collectionCode : ∀ line ∈ collectionCode v, IsCode line := by
  simp only [collectionCode, List.forall_mem_append]
  exact ⟨⟨⟨isCode_recordTypes v, isCode_expandedTypes v⟩, isCode_optionTypes v⟩,
    isCode_functions v⟩

/-- The lines of the part of a collection in the text. -/
def shownCollection : List String := "" :: shownLines ("// " ++ v.name) ++ collectionCode v

end

theorem flatMap_shownLines {lines : List String} (hlines : ∀ line ∈ lines, OneLine line)
    (hcode : ∀ line ∈ lines, IsCode line) : lines.flatMap shownLines = lines := by
  induction lines with
  | nil => rfl
  | cons line lines ih =>
    rw [List.forall_mem_cons] at hlines hcode
    rw [List.flatMap_cons, shownLines_code hlines.1 hcode.1, ih hlines.2 hcode.2]
    rfl

theorem shownLines_collection {v : BundleView} (h : v.Unbroken) :
    (collection v).flatMap shownLines = shownCollection v := by
  have hblank : shownLines "" = [""] := shownLines_code oneLine_empty rfl
  rw [collection_eq, List.flatMap_append,
    flatMap_shownLines (oneLine_collectionCode h) (isCode_collectionCode v), List.flatMap_cons,
    List.flatMap_singleton, hblank]
  rfl

theorem shownLines_title :
    shownLines ("// Generated by " ++ generatorName ++ ". Do not edit.") =
      ["// Generated by " ++ generatorName ++ ". Do not edit."] := by
  apply shownLines_comment
  simp only [keepsToLine_append]
  exact ⟨⟨keepsToLine_of_chars rfl rfl, keepsToLine_of_chars rfl rfl⟩, keepsToLine_of_chars rfl rfl⟩

/-- The lines of a client in its text. -/
theorem shownLines_lines {vs : List BundleView} (h : ∀ v ∈ vs, v.Unbroken) :
    (lines vs).flatMap shownLines =
      ("// Generated by " ++ generatorName ++ ". Do not edit.") :: preamble ++
        vs.flatMap shownCollection ++ table vs ++ interface := by
  have hparts : (vs.flatMap collection).flatMap shownLines = vs.flatMap shownCollection := by
    rw [List.flatMap_assoc]
    exact List.flatMap_congr fun v hv => shownLines_collection (h v hv)
  rw [lines, List.flatMap_append, List.flatMap_append, List.flatMap_append, List.flatMap_cons,
    shownLines_title, flatMap_shownLines oneLine_preamble isCode_preamble, hparts,
    flatMap_shownLines (oneLine_table h) (isCode_table vs),
    flatMap_shownLines oneLine_interface isCode_interface]
  rfl

/-- The comment with a name is one line exactly when the name keeps to it. -/
theorem keepsToLine_comment_iff (name : String) :
    KeepsToLine ("// " ++ name) ↔ KeepsToLine name := by
  rw [keepsToLine_append]
  exact and_iff_right (keepsToLine_of_chars rfl rfl)

theorem shownCollection_eq {v : BundleView} (h : KeepsToLine v.name) :
    shownCollection v = collection v := by
  rw [shownCollection, shownLines_comment ((keepsToLine_comment_iff v.name).mpr h), collection_eq]

end ClientText

namespace Schema

variable {s : Schema} (h : ∀ v ∈ s.views, v.Unbroken)

include h

/-- The lines of the text of a client. -/
theorem textLines_clientText : textLines s.clientText =
    ("// Generated by " ++ generatorName ++ ". Do not edit.") :: ClientText.preamble ++
      s.views.flatMap ClientText.shownCollection ++ ClientText.table s.views ++
        ClientText.interface ++ [""] := by
  rw [clientText, textLines_join, ClientText.shownLines_lines h]

/-- The part of a collection stands in the text as it is, if the name keeps to its comment. -/
theorem collection_infix_textLines {v : BundleView} (hv : v ∈ s.views)
    (hname : KeepsToLine v.name) : ClientText.collection v <:+: textLines s.clientText := by
  have hpart : ClientText.collection v <:+: s.views.flatMap ClientText.shownCollection := by
    rw [← ClientText.shownCollection_eq hname, List.flatMap_def]
    exact List.infix_of_mem_flatten (List.mem_map_of_mem hv)
  rw [textLines_clientText h, List.append_assoc _ ClientText.interface,
    List.append_assoc _ (ClientText.table s.views)]
  exact hpart.trans (List.infix_append _ _ _)

/-- The text has the lines that it is made of exactly when every name keeps to its comment. -/
theorem textLines_clientText_eq_iff : textLines s.clientText = ClientText.lines s.views ++ [""] ↔
    ∀ v ∈ s.views, KeepsToLine v.name := by
  constructor
  · intro hlines v hv
    have hcollection : "// " ++ v.name ∈ s.views.flatMap ClientText.collection :=
      List.mem_flatMap.mpr ⟨v, hv, List.mem_cons_of_mem _ List.mem_cons_self⟩
    have hmem : "// " ++ v.name ∈ textLines s.clientText := by
      rw [hlines]
      simp only [ClientText.lines, List.mem_append, hcollection, or_true, true_or]
    obtain ⟨hunbroken, hcomment⟩ := mem_textLines hmem
    have hslashes : isComment ("// " ++ v.name).toList = true := by
      rw [String.toList_append]
      rfl
    exact (ClientText.keepsToLine_comment_iff v.name).mp
      fun c hc => ⟨hunbroken c hc, hcomment hslashes c hc⟩
  · intro hnames
    have hparts : s.views.flatMap ClientText.shownCollection =
        s.views.flatMap ClientText.collection :=
      List.flatMap_congr fun v hv => ClientText.shownCollection_eq (hnames v hv)
    rw [textLines_clientText h, hparts]
    rfl

end Schema

end StoreClient
