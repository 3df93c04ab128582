-- The law of patch variables: what turns a change to a record into what the store expects takes
-- each patch out into a variable, and sends it from there under the key of the patch. A variable
-- is called like its patch if that is possible, and else it has a number; whatever the lists of
-- files are called, no two patches share a variable.
import Mathlib.Data.List.Nodup
import StoreClient.Proofs.EntryKeys
import StoreClient.Proofs.FunctionBodies
import StoreClient.Proofs.HiddenFields

namespace StoreClient

/-! ## Variables -/

/-- The words that no variable of a module may be called by. -/
def reservedWords : List String :=
  ["arguments", "await", "break", "case", "catch", "class", "const", "continue", "debugger",
   "default", "delete", "do", "else", "enum", "eval", "export", "extends", "false", "finally",
   "for", "function", "if", "implements", "import", "in", "instanceof", "interface", "let", "new",
   "null", "package", "private", "protected", "public", "return", "static", "super", "switch",
   "this", "throw", "true", "try", "typeof", "var", "void", "while", "with", "yield"]

def IsVariable (name : String) : Prop :=
  Identifier.isPlain name.toList = true ∧ name ∉ reservedWords

/-- The variables that the record and what is left of it stand in. -/
def recordVariables : List String := ["record", "rest"]

namespace ClientText

/-- What a line of an object gives under a key, if that is a variable as it stands. -/
def given? (line : List Char) : Option (String × String) := do
  let inside ← "    ".toList.isPrefixOf? line
  let (name, after) ← key? inside
  let after ← ": ".toList.isPrefixOf? after
  let (localName, after) ← localName? after
  if after = [','] then return (name, localName) else none

end ClientText

/-! ## What is said of each patch -/

/-- The views of the patches among the views of a change. -/
def Bundle.companionViews (b : Bundle) : List FieldView :=
  ((b.update.zip (BundleView.ofBundle b).update).filter (·.1.isCompanion)).map (·.2)

/-- A patch goes from the change to a variable, and from the variable to the key of the patch. -/
structure SentFrom (e : WriteField) (localName binding : String) (view : FieldView) : Prop where
  taken : ∀ more, ClientText.binding? (binding.toList ++ (", ".toList ++ more)) =
    some ((e.name, localName), more)
  sent : view.serializer = some localName
  key : ∀ tail, ClientText.EndsName tail →
    ClientText.key? (view.wireKey ++ tail).toList = some (e.wireKey, tail.toList)

/-- The client sends each patch of a collection from a variable of its own. In the function that
does it the first statement takes exactly the patches out of the record, and each of them has a
line in the object that is given back. -/
structure SendsPatches (d : CollectionDeclaration) (b : Bundle) (locals : List String) :
    Prop where
  bindings_length : (BundleView.ofBundle b).companionBindings.length = b.companions.length
  views_length : b.companionViews.length = b.companions.length
  variables_length : locals.length = b.companions.length
  each : ∀ (i : Nat) (e : WriteField), b.companions[i]? = some e →
    ∃ (localName binding : String) (view : FieldView),
    locals[i]? = some localName ∧
    (BundleView.ofBundle b).companionBindings[i]? = some binding ∧
    b.companionViews[i]? = some view ∧ SentFrom e localName binding view
  usable : ∀ localName ∈ locals, IsVariable localName
  differ : locals.Nodup
  free : ∀ localName ∈ locals, localName ∉ recordVariables
  function : b.companions ≠ [] → ∃ first lines,
    ("serialize" ++ b.typeName ++ "Update", first :: lines) ∈
      ClientText.functionBodies b.clientPart ∧
    ClientText.pattern? first = some ⟨(b.companions.map (·.name)).zip locals, "rest", "record"⟩ ∧
    ∀ sent ∈ (b.companions.map (·.wireKey)).zip locals, ∃ line ∈ lines,
      ClientText.given? line = some sent
  has_companions_iff : (BundleView.ofBundle b).hasCompanions = true ↔ ∃ name, d.HasFileList name

/-! ## Names of patches and of variables -/

namespace Patch

def ending : Patch → String
  | append => "Append"
  | prepend => "Prepend"
  | remove => "Remove"

theorem modelName_eq (op : Patch) (field : String) : op.modelName field = field ++ op.ending := by
  cases op <;> rfl

theorem getLast?_ending (op : Patch) :
    op.ending.toList.getLast? = some 'd' ∨ op.ending.toList.getLast? = some 'e' := by
  cases op
  · exact .inl rfl
  · exact .inl rfl
  · exact .inr rfl

/-- No word that is fixed ends like the name of a patch. -/
theorem not_suffix_fixed : ∀ word ∈ reservedWords ++ recordVariables, ∀ op : Patch,
    op.ending.toList.isSuffixOf word.toList = false := by
  intro word hword op
  revert word
  cases op <;> decide

theorem modelName_not_fixed (op : Patch) (field : String) :
    op.modelName field ∉ reservedWords ++ recordVariables := by
  intro hmem
  have hno := not_suffix_fixed _ hmem op
  have hsuffix : op.ending.toList <:+ (op.modelName field).toList := by
    rw [modelName_eq, String.toList_append]
    exact List.suffix_append _ _
  rw [List.isSuffixOf_iff_suffix.mpr hsuffix] at hno
  cases hno

end Patch

/-- The variable of a patch whose name is not plain, after its number. -/
def FieldView.numbered (number : Nat) : String :=
  "patch" ++ String.ofList (Number.natChars number)

namespace FieldView

theorem toList_numbered (number : Nat) :
    (numbered number).toList = "patch".toList ++ Number.natChars number := by
  simp only [numbered, String.toList_append, String.toList_ofList]

theorem companionLocal_eq (e : WriteField) (number : Nat) : companionLocal e number =
    if Identifier.isPlain e.name.toList then e.name else numbered number := rfl

/-- No word that is fixed begins like a numbered variable. -/
theorem not_prefix_fixed : ∀ word ∈ reservedWords ++ recordVariables,
    "patch".toList.isPrefixOf word.toList = false := by decide

theorem isPlain_numbered (number : Nat) : Identifier.isPlain (numbered number).toList = true := by
  have hparts : (Number.natChars number).all Identifier.isPart = true := by
    rw [List.all_eq_true]
    intro c hc
    simp [Identifier.isPart, Number.isAsciiDigit_of_mem_natChars hc]
  rw [toList_numbered]
  have hfirst : "patch".toList ++ Number.natChars number =
      'p' :: ("atch".toList ++ Number.natChars number) := rfl
  rw [hfirst, Identifier.isPlain, List.all_append, hparts]
  rfl

/-- A number at the end tells apart what is numbered. -/
theorem numbered_inj {m n : Nat} (h : numbered m = numbered n) : m = n := by
  have hchars := congrArg String.toList h
  rw [toList_numbered, toList_numbered, List.append_cancel_left_eq] at hchars
  rw [← Number.natOfDigits_natChars m, hchars, Number.natOfDigits_natChars]

theorem numbered_not_fixed (number : Nat) : numbered number ∉ reservedWords ++ recordVariables := by
  intro hmem
  have hno := not_prefix_fixed _ hmem
  have hprefix : "patch".toList <+: (numbered number).toList := by
    rw [toList_numbered]
    exact List.prefix_append _ _
  rw [List.isPrefixOf_iff_prefix.mpr hprefix] at hno
  cases hno

/-- A patch is called like its list of files, with an ending that is no number. -/
theorem numbered_ne_modelName (number : Nat) (field : String) (op : Patch) :
    numbered number ≠ op.modelName field := by
  intro heq
  have hlast := congrArg (fun name : String => name.toList.getLast?) heq
  simp only [toList_numbered, Patch.modelName_eq, String.toList_append,
    List.getLast?_append] at hlast
  cases hdigits : (Number.natChars number).getLast? with
  | none =>
    rw [hdigits] at hlast
    rcases op.getLast?_ending with hop | hop <;> rw [hop] at hlast <;> cases hlast
  | some c =>
    have hdigit := Number.isAsciiDigit_of_mem_natChars (List.mem_of_getLast? hdigits)
    rw [hdigits] at hlast
    rcases op.getLast?_ending with hop | hop <;> rw [hop] at hlast <;> cases hlast <;> cases hdigit

/-! ### Variables of patches -/

section

variable (field : String) (op : Patch) (number : Nat)

theorem isPlain_companionLocal (e : WriteField) :
    Identifier.isPlain (companionLocal e number).toList = true := by
  rw [companionLocal_eq]
  split
  · assumption
  · exact isPlain_numbered number

theorem companionLocal_not_fixed :
    companionLocal (Field.companion field op) number ∉ reservedWords ++ recordVariables := by
  rw [companionLocal_eq]
  split
  · exact op.modelName_not_fixed field
  · exact numbered_not_fixed number

end

/-- Patches share a variable only if they share their name or their number. -/
theorem companionLocal_inj {field other : String} {op op' : Patch} {m n : Nat}
    (h : companionLocal (Field.companion field op) m =
      companionLocal (Field.companion other op') n) :
    op.modelName field = op'.modelName other ∨ m = n := by
  rw [companionLocal_eq, companionLocal_eq] at h
  split at h
  · split at h
    · exact .inl h
    · exact absurd h.symm (numbered_ne_modelName n field op)
  · split at h
    · exact absurd h (numbered_ne_modelName m other op')
    · exact .inr (numbered_inj h)

/-! ### Views of patches -/

/-- Each patch gets the number of the patches before it, on top of the first number. -/
theorem ofUpdates_eq (number : Nat) (fs : List WriteField) :
    (ofUpdates number fs).2 = ((fs.filter (·.isCompanion)).mapIdx fun i e =>
      binding e.name (companionLocal e (number + i))) ∧
    ((fs.zip (ofUpdates number fs).1).filter (·.1.isCompanion)).map (·.2) =
      (fs.filter (·.isCompanion)).mapIdx fun i e =>
        ofCompanion e (companionLocal e (number + i)) := by
  induction fs generalizing number with
  | nil => exact ⟨rfl, rfl⟩
  | cons e rest ih =>
    by_cases hpatch : e.isCompanion = true
    · obtain ⟨hbindings, hviews⟩ := ih (number + 1)
      have hnext (i : Nat) : number + 1 + i = number + (i + 1) := by omega
      simp only [hnext] at hbindings hviews
      simp [ofUpdates, hpatch, hbindings, hviews, List.mapIdx_cons]
    · obtain ⟨hbindings, hviews⟩ := ih number
      simp [ofUpdates, hpatch, hbindings, hviews]

end FieldView

/-! ## Reading statements and lines -/

namespace ClientText

section

variable {localName : String} (hlocal : Identifier.isPlain localName.toList = true)

include hlocal

theorem localName?_plain {tail : List Char} (htail : tail.takeWhile Identifier.isPart = []) :
    localName? (localName.toList ++ tail) = some (localName, tail) := by
  have hkey := key?_key localName tail htail
  rw [Member.key, if_pos hlocal] at hkey
  have hbare : (localName.toList ++ tail).head? ≠ some '"' := by
    obtain ⟨c, cs, hchars, hstart⟩ := Identifier.exists_start hlocal
    rw [hchars]
    rintro ⟨⟩
    cases hstart
  rw [localName?, if_neg hbare, hkey]

/-- A member that is taken into a variable is read as that, up to the next one. -/
theorem binding?_binding (name : String) (more : List Char) :
    binding? ((FieldView.binding name localName).toList ++ (", ".toList ++ more)) =
      some ((name, localName), more) := by
  have hnext : ", ".toList ++ more = ',' :: ' ' :: more := rfl
  have hread : localName? (localName.toList ++ ',' :: ' ' :: more) =
      some (localName, ',' :: ' ' :: more) := localName?_plain hlocal rfl
  rw [FieldView.binding, hnext]
  split
  · rename_i hsame
    subst hsame
    have hkey := key?_key name (',' :: ' ' :: more) rfl
    rw [Member.key, if_pos hlocal] at hkey
    simp [binding?, hkey, hread]
  · have hchars : (Literal.ofString name ++ ": " ++ localName).toList ++ ',' :: ' ' :: more =
        (Literal.ofString name).toList ++
          ':' :: ' ' :: (localName.toList ++ ',' :: ' ' :: more) := by
      simp [String.toList_append]
    rw [hchars, binding?, key?_quote]
    simp [hread]

theorem given?_replacement (key : String) :
    given? (replacement (Member.key key) localName).toList = some (key, localName) := by
  have hkey := key?_key key (':' :: ' ' :: (localName.toList ++ [','])) rfl
  have hread : localName? (localName.toList ++ [',']) = some (localName, [',']) :=
    localName?_plain hlocal rfl
  have hline : (replacement (Member.key key) localName).toList =
      "    ".toList ++ ((Member.key key).toList ++ ':' :: ' ' :: (localName.toList ++ [','])) := by
    simp [replacement, String.toList_append]
  rw [hline]
  simp [given?, List.isPrefixOf?, hkey, hread]

end

/-- Members with their variables, and then what is no such member. -/
theorem bindings_append {texts : List String} {pairs : List (String × String)} {tail : List Char}
    (h : List.Forall₂ (fun text pair => ∀ more,
      binding? (text.toList ++ (", ".toList ++ more)) = some (pair, more)) texts pairs)
    (htail : binding? tail = none) :
    bindings (texts.flatMap (fun text => text.toList ++ ", ".toList) ++ tail) = (pairs, tail) := by
  induction h with
  | nil =>
    rw [bindings]
    split <;> simp_all
  | @cons text pair texts pairs hread _ ih =>
    have hchars : (text :: texts).flatMap (fun text => text.toList ++ ", ".toList) ++ tail =
        text.toList ++ (", ".toList ++
          (texts.flatMap (fun text => text.toList ++ ", ".toList) ++ tail)) := by
      simp
    rw [hchars, bindings]
    split
    · rename_i hpair
      rw [hread] at hpair
      cases hpair
      rw [ih]
    · rename_i hnone
      rw [hread] at hnone
      cases hnone

theorem toList_intercalate_comma {texts : List String} (h : texts ≠ []) (more : List Char) :
    (", ".intercalate texts).toList ++ (", ".toList ++ more) =
      texts.flatMap (fun text => text.toList ++ ", ".toList) ++ more := by
  rw [String.toList_intercalate]
  induction texts with
  | nil => exact absurd rfl h
  | cons text texts ih =>
    cases texts with
    | nil => simp
    | cons next texts =>
      have hnext := ih (by simp)
      rw [List.map_cons] at hnext
      rw [List.map_cons, List.map_cons, List.intercalate_cons_cons, List.flatMap_cons,
        List.append_assoc, List.append_assoc, hnext]
      simp

/-- The statement that takes some members into variables. -/
theorem pattern?_bindings {texts : List String} {pairs : List (String × String)}
    (h : List.Forall₂ (fun text pair => ∀ more,
      binding? (text.toList ++ (", ".toList ++ more)) = some (pair, more)) texts pairs)
    (hsome : texts ≠ []) :
    pattern? ("  const \x7b " ++ ", ".intercalate texts ++ ", ...rest \x7d = record;").toList =
      some ⟨pairs, "rest", "record"⟩ := by
  have htail : binding? "...rest \x7d = record;".toList = none := rfl
  have hline : ("  const \x7b " ++ ", ".intercalate texts ++ ", ...rest \x7d = record;").toList =
      "  const \x7b ".toList ++ (texts.flatMap (fun text => text.toList ++ ", ".toList) ++
        "...rest \x7d = record;".toList) := by
    rw [← toList_intercalate_comma hsome, String.toList_append, String.toList_append]
    simp
  have hinside (cs : List Char) :
      "  const \x7b ".toList.isPrefixOf? ("  const \x7b ".toList ++ cs) = some cs := rfl
  rw [hline, pattern?, hinside, Option.bind_eq_bind, Option.bind_some, bindings_append h htail]
  rfl

end ClientText

/-! ## Patches of a collection -/

theorem FieldView.sentFrom (field : String) (op : Patch) (number : Nat) :
    SentFrom (Field.companion field op) (companionLocal (Field.companion field op) number)
      (binding (op.modelName field) (companionLocal (Field.companion field op) number))
      (ofCompanion (Field.companion field op)
        (companionLocal (Field.companion field op) number)) where
  taken := ClientText.binding?_binding (isPlain_companionLocal number _) (op.modelName field)
  sent := rfl
  key tail htail := by
    rw [String.toList_append]
    exact ClientText.key?_key (op.wireKey field) tail.toList htail

namespace Bundle

/-- The variables of the patches. -/
def patchLocals (b : Bundle) : List String :=
  b.companions.mapIdx fun i e => FieldView.companionLocal e i

theorem companionBindings_eq (b : Bundle) : (BundleView.ofBundle b).companionBindings =
    b.companions.mapIdx fun i e =>
      FieldView.binding e.name (FieldView.companionLocal e i) := by
  have hbindings := (FieldView.ofUpdates_eq 0 b.update).1
  simp only [Nat.zero_add] at hbindings
  exact hbindings

theorem companionViews_eq (b : Bundle) : b.companionViews =
    b.companions.mapIdx fun i e =>
      FieldView.ofCompanion e (FieldView.companionLocal e i) := by
  have hviews := (FieldView.ofUpdates_eq 0 b.update).2
  simp only [Nat.zero_add] at hviews
  exact hviews

theorem mem_update_of_mem_companionViews {b : Bundle} {view : FieldView}
    (h : view ∈ b.companionViews) : view ∈ (BundleView.ofBundle b).update := by
  obtain ⟨⟨e, _⟩, hmem, rfl⟩ := List.mem_map.mp h
  exact (List.of_mem_zip (List.mem_of_mem_filter hmem)).2

theorem hasCompanions_iff (b : Bundle) :
    (BundleView.ofBundle b).hasCompanions = true ↔ b.companions ≠ [] := by
  rw [BundleView.hasCompanions, companionBindings_eq]
  simp

/-- The statement that takes the patches out of a change, and only them. -/
theorem pattern?_patches {b : Bundle} (hsome : b.companions ≠ []) :
    ClientText.pattern? ("  const \x7b " ++
      ", ".intercalate (BundleView.ofBundle b).companionBindings ++
        ", ...rest \x7d = record;").toList =
      some ⟨(b.companions.map (·.name)).zip b.patchLocals, "rest", "record"⟩ := by
  apply ClientText.pattern?_bindings
  · rw [companionBindings_eq, List.forall₂_iff_get]
    refine ⟨by simp [patchLocals], fun i hi _ more => ?_⟩
    rw [List.length_mapIdx] at hi
    simp only [patchLocals, List.get_eq_getElem, List.getElem_mapIdx, List.getElem_zip,
      List.getElem_map]
    exact ClientText.binding?_binding (FieldView.isPlain_companionLocal i _) _ more
  · rw [companionBindings_eq]
    simpa using hsome

end Bundle

namespace KeysApart

variable {d : CollectionDeclaration} {b : Bundle} (h : KeysApart d b)

include h

theorem eq_companion {i : Nat} (hi : i < b.companions.length) :
    ∃ field op, b.companions[i] = Field.companion field op := by
  obtain ⟨field, -, op, he⟩ := (h.patches_of_files _).mp (List.getElem_mem hi)
  exact ⟨field, op, he⟩

theorem nodup_patchLocals : b.patchLocals.Nodup := by
  have hnames : (b.companions.map (·.name)).Nodup :=
    h.update_names.sublist (List.filter_sublist.map _)
  rw [List.nodup_iff_pairwise_ne, List.pairwise_iff_getElem]
  intro i j hi hj hij heq
  simp only [Bundle.patchLocals, List.length_mapIdx, List.getElem_mapIdx] at hi hj heq
  obtain ⟨field, op, he⟩ := h.eq_companion hi
  obtain ⟨other, op', he'⟩ := h.eq_companion hj
  rw [he, he'] at heq
  rcases FieldView.companionLocal_inj heq with hsame | hsame
  · have hi : i < (b.companions.map (·.name)).length := by rwa [List.length_map]
    have hj : j < (b.companions.map (·.name)).length := by rwa [List.length_map]
    have hname : (b.companions.map (·.name))[i] = (b.companions.map (·.name))[j] := by
      rw [List.getElem_map, List.getElem_map, he, he']
      exact hsame
    have := hnames.getElem_inj_iff.mp hname
    omega
  · omega

theorem hasCompanions_iff :
    (BundleView.ofBundle b).hasCompanions = true ↔ ∃ name, d.HasFileList name := by
  rw [Bundle.hasCompanions_iff]
  constructor
  · intro hsome
    obtain ⟨e, he⟩ := List.exists_mem_of_ne_nil _ hsome
    obtain ⟨name, hname, -⟩ := (h.patches_of_files e).mp he
    exact ⟨name, hname⟩
  · rintro ⟨name, hname⟩
    exact List.ne_nil_of_mem ((h.patches_of_files _).mpr ⟨name, hname, .append, rfl⟩)

/-- Each patch is sent under its key, on a line of the object that is given back. -/
theorem exists_sent : ∀ sent ∈ (b.companions.map (·.wireKey)).zip b.patchLocals,
    ∃ line ∈ (BundleView.ofBundle b).update.filterMap ClientText.serialized,
      ClientText.given? line.toList = some sent := by
  intro sent hsent
  obtain ⟨i, hi, rfl⟩ := List.mem_iff_getElem.mp hsent
  have hlength : i < b.companions.length := by
    simp only [List.length_zip, List.length_map] at hi
    omega
  obtain ⟨field, op, he⟩ := h.eq_companion hlength
  have hview : FieldView.ofCompanion b.companions[i] (FieldView.companionLocal b.companions[i] i) ∈
      b.companionViews := by
    rw [Bundle.companionViews_eq, List.mem_mapIdx]
    exact ⟨i, hlength, rfl⟩
  refine ⟨ClientText.replacement (Member.key b.companions[i].wireKey)
    (FieldView.companionLocal b.companions[i] i), ?_, ?_⟩
  · rw [List.mem_filterMap]
    refine ⟨_, Bundle.mem_update_of_mem_companionViews hview, ?_⟩
    rw [he]
    rfl
  · rw [ClientText.given?_replacement (FieldView.isPlain_companionLocal i _)]
    simp [Bundle.patchLocals]

theorem patchLocals_usable : ∀ localName ∈ b.patchLocals,
    Identifier.isPlain localName.toList = true ∧ localName ∉ reservedWords ++ recordVariables := by
  intro localName hlocal
  obtain ⟨i, hi, rfl⟩ := List.mem_mapIdx.mp hlocal
  obtain ⟨field, op, he⟩ := h.eq_companion hi
  rw [he]
  exact ⟨FieldView.isPlain_companionLocal i _, FieldView.companionLocal_not_fixed field op i⟩

theorem exists_function (htype : IsTypeName b.typeName) (hsome : b.companions ≠ []) :
    ∃ first lines, ("serialize" ++ b.typeName ++ "Update", first :: lines) ∈
        ClientText.functionBodies b.clientPart ∧
      ClientText.pattern? first =
        some ⟨(b.companions.map (·.name)).zip b.patchLocals, "rest", "record"⟩ ∧
      ∀ sent ∈ (b.companions.map (·.wireKey)).zip b.patchLocals, ∃ line ∈ lines,
        ClientText.given? line = some sent := by
  have hbody : ClientText.serializeUpdateBody (BundleView.ofBundle b) =
      ("  const \x7b " ++ ", ".intercalate (BundleView.ofBundle b).companionBindings ++
        ", ...rest \x7d = record;") ::
      ClientText.returnWith "rest"
        ((BundleView.ofBundle b).update.filterMap ClientText.serialized) := by
    rw [ClientText.serializeUpdateBody, if_pos ((Bundle.hasCompanions_iff b).mpr hsome)]
  refine ⟨_, (ClientText.returnWith "rest"
    ((BundleView.ofBundle b).update.filterMap ClientText.serialized)).map String.toList, ?_,
    Bundle.pattern?_patches hsome, ?_⟩
  · have htype : IsTypeName (BundleView.ofBundle b).typeName := htype
    rw [Bundle.clientPart, ClientText.functionBodies_collection htype,
      ClientText.functionBodies_functions htype, hbody]
    simp only [List.map_cons]
    iterate 4 apply List.mem_cons_of_mem
    exact List.mem_cons_self
  · intro sent hsent
    obtain ⟨line, hline, hread⟩ := h.exists_sent sent hsent
    refine ⟨line.toList, List.mem_map_of_mem ?_, hread⟩
    rw [ClientText.returnWith]
    simp [hline]

theorem sendsPatches (htype : IsTypeName b.typeName) : SendsPatches d b b.patchLocals where
  bindings_length := by rw [Bundle.companionBindings_eq, List.length_mapIdx]
  views_length := by rw [Bundle.companionViews_eq, List.length_mapIdx]
  variables_length := by rw [Bundle.patchLocals, List.length_mapIdx]
  each i e he := by
    obtain ⟨field, -, op, rfl⟩ := (h.patches_of_files e).mp (List.mem_of_getElem? he)
    refine ⟨_, _, _, ?_, ?_, ?_, FieldView.sentFrom field op i⟩
    · simp [Bundle.patchLocals, he]
    · rw [Bundle.companionBindings_eq, List.getElem?_mapIdx, he]
      rfl
    · rw [Bundle.companionViews_eq, List.getElem?_mapIdx, he]
      rfl
  usable localName hlocal := by
    obtain ⟨hplain, hfixed⟩ := h.patchLocals_usable localName hlocal
    exact ⟨hplain, fun hword => hfixed (List.mem_append_left _ hword)⟩
  differ := h.nodup_patchLocals
  free localName hlocal hrecord :=
    (h.patchLocals_usable localName hlocal).2 (List.mem_append_right _ hrecord)
  function := h.exists_function htype
  has_companions_iff := h.hasCompanions_iff

end KeysApart

/-! ## The law -/

/-- Whatever the lists of files of a compiled document are called, each of their patches is sent
from a variable of its own under its own key. -/
theorem each_patch_is_sent_from_its_variable (policy : EmptyListPolicy) (d : Document) (s : Schema)
    (h : d.compile policy = .ok s) :
    List.Forall₂ (fun c b => ∃ locals, SendsPatches c b locals) d.collections s.bundles := by
  obtain ⟨cs, hcs, husable, -, -, rfl⟩ := (d.compile_ok_iff policy s).mp h
  rw [List.forall₂_map_right_iff]
  refine (forall₂_and_right hcs husable).imp fun declaration c hc => ?_
  obtain ⟨hdeclares, husable⟩ := hc
  exact ⟨_, (hdeclares.keysApart policy cs).sendsPatches husable.1⟩

/-- Albums: two of the lists of files have a name that is no variable. -/
def albums : Document where
  collections := [
    { id := none, name := "albums", singular := some "album", plural := none, fields := [
      .object [("name", .text "old photos"), ("type", .text "file"), ("mode", .text "multiple")],
      .object [("name", .text "photos"), ("type", .text "file"), ("mode", .text "multiple")],
      .object [("name", .text "cover"), ("type", .text "file"), ("mode", .text "single")],
      .object [("name", .text "b-sides"), ("type", .text "file"), ("mode", .text "multiple")]] }]

theorem the_albums_send_each_patch : ∃ s, albums.compile .null = .ok s ∧
    List.Forall₂ (fun c b => ∃ locals, SendsPatches c b locals) albums.collections s.bundles :=
  ⟨_, rfl, each_patch_is_sent_from_its_variable .null albums _ rfl⟩

/-- The numbers count all patches, with those that need none. -/
example : ((albums.compile .null).map fun s => s.bundles.map (·.patchLocals)) =
    .ok [["patch0", "patch1", "patch2", "photosAppend", "photosPrepend", "photosRemove",
      "patch6", "patch7", "patch8"]] := rfl

end StoreClient
