-- What the generated client says of its types, read off its lines: the properties of an object
-- type, and the texts of a union of texts. A declaration is a line with the indented lines after
-- it; a property stands on a line that is indented once.
import StoreClient.Proofs.ScriptText

namespace StoreClient

namespace ClientText

/-! ## Declarations with their insides -/

/-- A line that declares something, and the indented lines after it. -/
structure Block where
  declared : Declared
  line : List Char
  inside : List (List Char)

def isIndented (line : List Char) : Bool := line.head? = some ' '

def blocksIn : List (List Char) → List Block
  | [] => []
  | line :: rest =>
    match declaredIn? line with
    | some d => ⟨d, line, rest.takeWhile isIndented⟩ :: blocksIn rest
    | none => blocksIn rest

def blocks (lines : List String) : List Block := blocksIn (lines.map String.toList)

/-- What a line says after the name of the type that it declares. -/
def afterName (line : List Char) : List Char :=
  let line := ("export ".toList.isPrefixOf? line).getD line
  let name? := ("type ".toList.isPrefixOf? line).or ("interface ".toList.isPrefixOf? line)
  (name?.getD line).dropWhile Identifier.isPart

/-! ## Properties -/

/-- The name that a key stands for, be it bare or in quotes, and what follows the key. -/
def key? : List Char → Option (String × List Char)
  | [] => none
  | c :: rest =>
    match Script.Token.next? c rest with
    | some (.word name, after) | some (.text name, after) => some (name, after)
    | _ => none

/-- The property that a line declares, if it is indented once. -/
def property? : List Char → Option String
  | ' ' :: ' ' :: rest =>
    match key? rest with
    | some (name, ':' :: _) | some (name, '?' :: _) | some (name, '<' :: _) => some name
    | _ => none
  | _ => none

/-! ## Types -/

/-- What a type is declared to be. -/
inductive TypeBody where
  | object (properties : List String)
  /-- One of some texts. -/
  | texts (values : List String)
  /-- A type with one more property, which may be missing. -/
  | extended (type property : String)
  | other
deriving DecidableEq, Repr

/-- Quoted texts with bars between them, up to the end of the line; the first quote is read. -/
def texts? (cs : List Char) : Option (List String) :=
  match _h : Script.Token.quoted? cs with
  | some (.text s, [';']) => some [s]
  | some (.text s, '|' :: '"' :: rest) => (texts? rest).map (s :: ·)
  | _ => none
termination_by cs.length
decreasing_by
  have hlength := Script.Token.length_quoted? _h
  simp only [List.length_cons] at hlength
  omega

/-- A named type and a property to go with it, up to the end of the line. -/
def extended? (type : List Char) : Option (String × String) := do
  let inside ← " & \x7b ".toList.isPrefixOf? (type.dropWhile Identifier.isPart)
  let (property, rest) ← key? inside
  let rest ← "?: ".toList.isPrefixOf? rest
  if rest.dropWhile Identifier.isPart = " \x7d;".toList then
    return (String.ofList (type.takeWhile Identifier.isPart), property)
  else none

namespace TypeBody

/-- A type that is written on one line. -/
def ofLine (type : List Char) : TypeBody :=
  match extended? type, type with
  | some (base, property), _ => .extended base property
  | none, '"' :: rest => ((texts? rest).map .texts).getD .other
  | none, _ => .other

/-- An object type opens a brace at the end of its line, and the rest of any other type follows
its name. -/
def ofBlock (b : Block) : TypeBody :=
  if b.line.getLast? = some '\x7b' then .object (b.inside.filterMap property?)
  else ((" = ".toList.isPrefixOf? (afterName b.line)).map ofLine).getD .other

end TypeBody

def Block.type? (b : Block) : Option (String × TypeBody) :=
  match b.declared with
  | .type name => some (name, TypeBody.ofBlock b)
  | .function _ => none

/-- The types that are declared, with what they are declared to be. -/
def types (lines : List String) : List (String × TypeBody) := (blocks lines).filterMap Block.type?

/-! ## Reading lines -/

theorem declared_eq_map_blocks (lines : List String) :
    declared lines = (blocks lines).map (·.declared) := by
  induction lines with
  | nil => rfl
  | cons line rest ih =>
    simp only [declared, blocks, List.filterMap_cons, List.map_cons, blocksIn, declared?] at ih ⊢
    rw [ih]
    cases declaredIn? line.toList <;> rfl

/-- Fixed lines are read from their characters. -/
theorem types_of_chars {lines : List String} {css : List (List Char)}
    {ts : List (String × TypeBody)}
    (hlines : List.Forall₂ (fun line cs => line = String.ofList cs) lines css)
    (hts : (blocksIn css).filterMap Block.type? = ts) : types lines = ts := by
  rw [types, blocks, map_toList_of_chars lines hlines, hts]

theorem isIndented_iff (line : String) : isIndented line.toList = true ↔ Indented line := by
  rw [isIndented, decide_eq_true_eq, Indented]

/-- Lines that follow a blank one, if there are any. -/
def BeginsBlank (lines : List String) : Prop := ∀ line ∈ lines.head?, line = ""

/-- An inside goes no further than to a blank line. -/
theorem takeWhile_isIndented_append (css : List (List Char)) {more : List String}
    (h : BeginsBlank more) : (css ++ more.map String.toList).takeWhile isIndented =
      css.takeWhile isIndented := by
  have hmore : (more.map String.toList).takeWhile isIndented = [] := by
    cases more with
    | nil => rfl
    | cons line more =>
      rw [h line rfl]
      rfl
  rw [List.takeWhile_append, hmore, List.append_nil]
  split
  · rename_i hall
    exact ((List.takeWhile_prefix isIndented).eq_of_length hall).symm
  · rfl

theorem blocks_append (lines : List String) {more : List String} (h : BeginsBlank more) :
    blocks (lines ++ more) = blocks lines ++ blocks more := by
  induction lines with
  | nil => rfl
  | cons line rest ih =>
    simp only [blocks, List.cons_append, List.map_cons, List.map_append, blocksIn] at ih ⊢
    rw [ih, takeWhile_isIndented_append _ h]
    split <;> rfl

theorem types_append (lines : List String) {more : List String} (h : BeginsBlank more) :
    types (lines ++ more) = types lines ++ types more := by
  rw [types, blocks_append lines h, List.filterMap_append]
  rfl

theorem types_cons {line : String} (h : declared? line = none) (rest : List String) :
    types (line :: rest) = types rest := by
  rw [declared?] at h
  simp only [types, blocks, List.map_cons, blocksIn, h]

/-- After a blank line, a declaration and its inside up to a line that is neither. -/
theorem blocks_block {first last : String} {inside : List String} {d : Declared}
    (hfirst : declared? first = some d) (hin : ∀ line ∈ inside, Indented line)
    (hlast : declared? last = none) (hend : ¬ Indented last) :
    blocks (["", first] ++ inside ++ [last]) =
      [⟨d, first.toList, inside.map String.toList⟩] := by
  have hinside : (inside.map String.toList ++ [last.toList]).takeWhile isIndented =
      inside.map String.toList := by
    rw [List.takeWhile_append_of_pos]
    · rw [List.takeWhile_cons_of_neg, List.append_nil]
      rwa [isIndented_iff]
    · rw [List.forall_mem_map]
      exact fun line hline => (isIndented_iff line).mpr (hin line hline)
  have hrest : blocks (inside ++ [last]) = [] := by
    have hnone := declared_eq_map_blocks (inside ++ [last])
    rw [declared_append, declared_of_indented hin] at hnone
    simp only [declared, List.filterMap_cons, hlast, List.filterMap_nil, List.nil_append] at hnone
    exact List.map_eq_nil_iff.mp hnone.symm
  have hblank : declaredIn? "".toList = none := rfl
  simp only [blocks, List.map_append, List.map_cons, List.map_nil] at hrest
  simp only [blocks, List.cons_append, List.nil_append, List.map_cons, List.map_append,
    List.map_nil, blocksIn, hblank]
  rw [declared?] at hfirst
  rw [hfirst, hinside, hrest]

/-! ## Reading properties -/

theorem key?_quote (s : String) (tail : List Char) :
    key? ((Literal.ofString s).toList ++ tail) = some (s, tail) := by
  rw [Literal.toList_ofString, Literal.quote_append, key?, Script.Token.next?_quote]

theorem key?_key (name : String) (tail : List Char)
    (htail : tail.takeWhile Identifier.isPart = []) :
    key? ((Member.key name).toList ++ tail) = some (name, tail) := by
  unfold Member.key
  split
  · rename_i hname
    obtain ⟨c, cs, hchars, -⟩ := Identifier.exists_start hname
    rw [hchars] at hname
    rw [hchars, List.cons_append, key?, Script.Token.next?_word hname htail, ← hchars,
      String.ofList_toList]
  · exact key?_quote name tail

/-- A line with a key on it, one step in. -/
theorem property?_of_key? {cs rest : List Char} {name : String} {mark : Char}
    (hmark : mark ∈ [':', '?', '<']) (h : key? cs = some (name, mark :: rest)) :
    property? (' ' :: ' ' :: cs) = some name := by
  simp only [List.mem_cons, List.not_mem_nil, or_false] at hmark
  rcases hmark with rfl | rfl | rfl
  all_goals
    rw [property?, h]
    rfl

theorem property?_property (name : String) (isOptional : Bool) (type : String) :
    property? (property (Member.key name) isOptional type).toList = some name := by
  cases isOptional with
  | true =>
    have hkey := property?_of_key? (by decide)
      (key?_key name ('?' :: (": " ++ type ++ ";").toList) rfl)
    simpa [property] using hkey
  | false =>
    have hkey := property?_of_key? (by decide)
      (key?_key name (':' :: (" " ++ type ++ ";").toList) rfl)
    simpa [property] using hkey

theorem property?_doc (doc : String) : property? ("  /** " ++ doc ++ " */").toList = none := by
  rw [String.append_assoc, String.toList_append]
  rfl

/-- The properties among some lines. -/
def properties (lines : List String) : List String := (lines.map String.toList).filterMap property?

theorem properties_append (lines more : List String) :
    properties (lines ++ more) = properties lines ++ properties more := by
  rw [properties, List.map_append, List.filterMap_append]
  rfl

/-- A comment on a property is none. -/
theorem properties_modelProperty {f : FieldView} {name : String} (h : f.key = Member.key name) :
    properties (modelProperty f) = [name] := by
  have hline := property?_property name f.isOptional f.modelType
  rw [modelProperty, h]
  cases f.doc with
  | none => simp [docLines, properties, hline]
  | some doc =>
    have hdoc := property?_doc doc
    simp only [docLines, properties, List.cons_append, List.nil_append, List.map_cons,
      List.map_nil, List.filterMap_cons, List.filterMap_nil, hdoc, hline]

/-- Lines with a property each are read as its name each. -/
theorem properties_of_lines {lines names : List String}
    (h : List.Forall₂ (fun line name => ∃ isOptional type,
      line = property (Member.key name) isOptional type) lines names) :
    properties lines = names := by
  induction h with
  | nil => rfl
  | cons hline _ ih =>
    obtain ⟨isOptional, type, rfl⟩ := hline
    rw [properties] at ih ⊢
    rw [List.map_cons, List.filterMap_cons, property?_property, ih]

/-! ## Reading types -/

theorem texts?_last {cs : List Char} {s : String}
    (h : Script.Token.quoted? cs = some (.text s, [';'])) : texts? cs = some [s] := by
  rw [texts?]
  split <;> simp_all

theorem texts?_next {cs rest : List Char} {s : String}
    (h : Script.Token.quoted? cs = some (.text s, '|' :: '"' :: rest)) :
    texts? cs = (texts? rest).map (s :: ·) := by
  rw [texts?]
  split <;> simp_all

/-- The rest of a union after its first text. -/
def alternatives (values : List String) : List Char :=
  values.flatMap fun s => '|' :: Literal.quote s.toList

theorem texts?_alternatives (s : String) (rest : List String) :
    texts? (Literal.encode s.toList ++ '"' :: (alternatives rest ++ [';'])) = some (s :: rest) := by
  have hquoted (tail : List Char) :
      Script.Token.quoted? (Literal.encode s.toList ++ '"' :: tail) = some (.text s, tail) :=
    Script.Token.next?_quote s tail
  induction rest generalizing s with
  | nil => exact texts?_last (hquoted _)
  | cons t rest ih =>
    have hnext : alternatives (t :: rest) ++ [';'] =
        '|' :: '"' :: (Literal.encode t.toList ++ '"' :: (alternatives rest ++ [';'])) := by
      simp [alternatives, Literal.quote]
    rw [hnext, texts?_next (hquoted _), ih t fun tail => Script.Token.next?_quote t tail]
    rfl

theorem toList_union (s : String) (rest : List String) :
    ("|".intercalate ((s :: rest).map Literal.ofString)).toList =
      Literal.quote s.toList ++ alternatives rest := by
  have hbar : "|".toList = ['|'] := rfl
  rw [String.toList_intercalate, hbar]
  induction rest generalizing s with
  | nil => simp [alternatives, List.intercalate, Literal.ofString]
  | cons t rest ih =>
    have hcons := ih t
    simp only [List.map_cons] at hcons ⊢
    rw [List.intercalate_cons_cons, hcons]
    simp [alternatives, Literal.ofString]

/-- A union of texts, of which there is one at least. -/
theorem ofLine_union {values : List String} (h : values ≠ []) :
    TypeBody.ofLine ("|".intercalate (values.map Literal.ofString) ++ ";").toList =
      .texts values := by
  cases values with
  | nil => exact absurd rfl h
  | cons s rest =>
    have hchars : ("|".intercalate ((s :: rest).map Literal.ofString) ++ ";").toList =
        '"' :: (Literal.encode s.toList ++ '"' :: (alternatives rest ++ [';'])) := by
      rw [String.toList_append, toList_union]
      simp [Literal.quote]
    have hquoted (after : List Char) : TypeBody.ofLine ('"' :: after) =
        ((texts? after).map .texts).getD .other := rfl
    rw [hchars, hquoted, texts?_alternatives]
    rfl

/-- A type that is only named. -/
theorem ofLine_word {type : String} (h : IsWord type) :
    TypeBody.ofLine (type ++ ";").toList = .other := by
  have hread : extended? (type ++ ";").toList = none := by
    rw [String.toList_append, extended?, List.dropWhile_append_of_pos h]
    rfl
  unfold TypeBody.ofLine
  rw [hread]
  rw [String.toList_append]
  cases hchars : type.toList with
  | nil => rfl
  | cons c cs =>
    have hquote : c ≠ '"' := by
      rintro rfl
      have hpart := h '"' (hchars ▸ List.mem_cons_self)
      cases hpart
    simp [hquote]

theorem ofLine_withExpand {type expand : String} (htype : IsWord type) (hexpand : IsWord expand) :
    TypeBody.ofLine (withExpand type expand ++ ";").toList = .extended type "expand" := by
  have hblank : Identifier.isPart ' ' = false := rfl
  have hkey (rest : List Char) : key? ('e' :: 'x' :: 'p' :: 'a' :: 'n' :: 'd' :: '?' :: rest) =
    some ("expand", '?' :: rest) := rfl
  have hread : extended? (withExpand type expand ++ ";").toList = some (type, "expand") := by
    simp [extended?, withExpand, List.isPrefixOf?, List.takeWhile_append_of_pos htype,
      List.dropWhile_append_of_pos htype, List.dropWhile_append_of_pos hexpand, hblank, hkey]
  unfold TypeBody.ofLine
  rw [hread]

/-! ## Parts of a client -/

theorem beginsBlank_objectType (name : String) (lines : List String) :
    BeginsBlank (objectType name lines) := by
  rintro _ ⟨⟩
  rfl

theorem beginsBlank_aliasType (name type : String) : BeginsBlank (aliasType name type) := by
  rintro _ ⟨⟩
  rfl

theorem beginsBlank_function (name recordType resultType : String) (body : List String) :
    BeginsBlank (function name recordType resultType body) := by
  rintro _ ⟨⟩
  rfl

section

variable (v : BundleView)

theorem beginsBlank_recordTypes : BeginsBlank (recordTypes v) := by
  rintro _ ⟨⟩
  rfl

theorem beginsBlank_expandedTypes : BeginsBlank (expandedTypes v) := by
  unfold expandedTypes
  dsimp only
  split
  all_goals
    rintro _ ⟨⟩
    rfl

theorem beginsBlank_optionTypes : BeginsBlank (optionTypes v) := by
  rintro _ ⟨⟩
  rfl

theorem beginsBlank_functions : BeginsBlank (functions v) := by
  rintro _ ⟨⟩
  rfl

end

/-- The line of a declaration goes on after the name as it was written. -/
theorem afterName_type {name tail : String} (h : IsWord name) (ht : EndsName tail) :
    afterName ("export type " ++ (name ++ tail)).toList = tail.toList := by
  have hdrop : tail.toList.dropWhile Identifier.isPart = tail.toList := by
    have hsplit := List.takeWhile_append_dropWhile (p := Identifier.isPart) (l := tail.toList)
    rwa [ht] at hsplit
  simp [afterName, List.isPrefixOf?, List.dropWhile_append_of_pos h, hdrop]

/-- After a blank line, a type that opens a brace, up to the line that closes it. -/
theorem types_block {first last name : String} {inside : List String}
    (hfirst : declared? first = some (.type name)) (hopen : first.toList.getLast? = some '\x7b')
    (hin : ∀ line ∈ inside, Indented line) (hlast : declared? last = none)
    (hend : ¬ Indented last) :
    types (["", first] ++ inside ++ [last]) = [(name, .object (properties inside))] := by
  rw [types, blocks_block hfirst hin hlast hend]
  simp only [List.filterMap_cons, List.filterMap_nil, Block.type?, TypeBody.ofBlock]
  rw [if_pos hopen]
  rfl

theorem types_objectType {name : String} (h : IsWord name) {lines : List String}
    (hin : ∀ line ∈ lines, Indented line) :
    types (objectType name lines) = [(name, .object (properties lines))] := by
  refine types_block ?_ ?_ hin rfl (by simp [Indented])
  · rw [String.append_assoc]
    exact declared?_type h rfl
  · rw [String.toList_append, List.getLast?_append]
    rfl

theorem types_aliasType {name : String} (h : IsWord name) (type : String) :
    types (aliasType name type) = [(name, TypeBody.ofLine (type ++ ";").toList)] := by
  have hequals : EndsName (" = " ++ (type ++ ";")) := by
    simp [EndsName, Identifier.isPart, Identifier.isAsciiLetter, Identifier.isAsciiDigit]
  have hline : "export type " ++ name ++ " = " ++ type ++ ";" =
      "export type " ++ (name ++ (" = " ++ (type ++ ";"))) := by
    simp only [String.append_assoc]
  have hdeclared := declared?_type h hequals
  have hend : ("export type " ++ name ++ " = " ++ type ++ ";").toList.getLast? = some ';' := by
    rw [String.toList_append, List.getLast?_append]
    rfl
  have hbody : " = ".toList.isPrefixOf? (" = " ++ (type ++ ";")).toList =
      some (type ++ ";").toList := by
    rw [String.toList_append]
    rfl
  have hblank : declaredIn? "".toList = none := rfl
  rw [declared?, ← hline] at hdeclared
  simp only [types, aliasType, blocks, List.map_cons, List.map_nil, blocksIn, hblank, hdeclared,
    List.takeWhile_nil, List.filterMap_cons, List.filterMap_nil, Block.type?, TypeBody.ofBlock]
  rw [hend, if_neg (by decide), hline, afterName_type h hequals, hbody]
  rfl

/-- Lines that declare no type have none. -/
theorem types_eq_nil {lines : List String} (h : ∀ name, .type name ∉ declared lines) :
    types lines = [] := by
  rw [types, List.filterMap_eq_nil_iff]
  intro b hb
  cases hd : b.declared with
  | type name =>
    rw [declared_eq_map_blocks] at h
    exact absurd (hd ▸ List.mem_map_of_mem hb) (h name)
  | function name => rw [Block.type?, hd]

end ClientText

end StoreClient
