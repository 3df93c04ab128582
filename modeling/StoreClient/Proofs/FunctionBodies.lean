-- The functions of the generated client, read off its lines with their insides, and the statements
-- in them that take a record apart: some of its members go to variables, and the rest of the
-- record to another one.
import StoreClient.Proofs.ScriptValues
import StoreClient.Proofs.TypeBodies

namespace StoreClient

namespace ClientText

/-! ## Functions with their insides -/

/-- The name and the lines of a function. -/
def Block.function? (b : Block) : Option (String × List (List Char)) :=
  match b.declared with
  | .function name => some (name, b.inside)
  | .type _ => none

/-- The functions that are declared, with their lines. -/
def functionBodies (lines : List String) : List (String × List (List Char)) :=
  (blocks lines).filterMap Block.function?

theorem functionBodies_append (lines : List String) {more : List String} (h : BeginsBlank more) :
    functionBodies (lines ++ more) = functionBodies lines ++ functionBodies more := by
  rw [functionBodies, blocks_append lines h, List.filterMap_append]
  rfl

/-- Lines that declare no function have none. -/
theorem functionBodies_eq_nil {lines : List String} (h : ∀ name, .function name ∉ declared lines) :
    functionBodies lines = [] := by
  rw [functionBodies, List.filterMap_eq_nil_iff]
  intro b hb
  cases hd : b.declared with
  | type name => rw [Block.function?, hd]
  | function name =>
    rw [declared_eq_map_blocks] at h
    exact absurd (hd ▸ List.mem_map_of_mem hb) (h name)

theorem functionBodies_function {name : String} (h : IsWord name) (recordType resultType : String)
    {body : List String} (hin : ∀ line ∈ body, Indented line) :
    functionBodies (function name recordType resultType body) =
      [(name, body.map String.toList)] := by
  rw [functionBodies, function, blocks_block
    (declared?_functionLine h recordType resultType) hin rfl (by simp [Indented])]
  rfl

section

variable {v : BundleView} (h : IsTypeName v.typeName)

include h

theorem functionBodies_functions : functionBodies (functions v) =
    [("parse" ++ v.typeName, returnWith "record" (v.read.filterMap parsed)),
      ("parse" ++ v.typeName ++ "Expanded", parseExpandedBody v),
      ("serialize" ++ v.typeName, returnWith "record" (v.read.filterMap serialized)),
      ("serialize" ++ v.typeName ++ "Create", returnWith "record" (v.create.filterMap serialized)),
      ("serialize" ++ v.typeName ++ "Update", serializeUpdateBody v)].map
        fun (name, body) => (name, body.map String.toList) := by
  simp only [functions, functionBodies_append _ (beginsBlank_function _ _ _ _)]
  rw [functionBodies_function (isWord_append_typeName h rfl) _ _ (indented_returnParsed _),
    functionBodies_function (isWord_append_typeName_append h rfl rfl) _ _
      (indented_parseExpandedBody v),
    functionBodies_function (isWord_append_typeName h rfl) _ _ (indented_returnSerialized _ _),
    functionBodies_function (isWord_append_typeName_append h rfl rfl) _ _
      (indented_returnSerialized _ _),
    functionBodies_function (isWord_append_typeName_append h rfl rfl) _ _
      (indented_serializeUpdateBody v)]
  simp only [List.map_cons, List.map_nil, List.cons_append, List.nil_append]

/-- The part of a collection has the functions of its end, and no other. -/
theorem functionBodies_collection :
    functionBodies (collection v) = functionBodies (functions v) := by
  have hnone {lines endings : List String} (hlines : declared lines =
      endings.map fun ending => .type (v.typeName ++ ending)) : functionBodies lines = [] := by
    apply functionBodies_eq_nil
    intro name hname
    rw [hlines] at hname
    obtain ⟨_, -, hname⟩ := List.mem_map.mp hname
    cases hname
  have htitle : functionBodies ["", "// " ++ v.name] = [] := by
    apply functionBodies_eq_nil
    simp [declared, declared?, declaredIn?, nameAfter?, List.isPrefixOf?]
  rw [collection, functionBodies_append _ (beginsBlank_functions v),
    functionBodies_append _ (beginsBlank_optionTypes v),
    functionBodies_append _ (beginsBlank_expandedTypes v),
    functionBodies_append _ (beginsBlank_recordTypes v), htitle, hnone (declared_recordTypes h),
    hnone (declared_expandedTypes h), hnone (declared_optionTypes h)]
  simp only [List.nil_append]

end

/-! ## Statements that take a record apart -/

/-- A name that stands bare, and what follows it. -/
def localName? (cs : List Char) : Option (String × List Char) :=
  if cs.head? = some '"' then none else key? cs

/-- One member that goes to a variable, under its own name or another one, up to the next. -/
def binding? (cs : List Char) : Option ((String × String) × List Char) :=
  match key? cs with
  | some (name, ':' :: ' ' :: after) =>
    match localName? after with
    | some (bound, ',' :: ' ' :: more) => some ((name, bound), more)
    | _ => none
  | some (name, ',' :: ' ' :: more) =>
    if (localName? cs).isSome then some ((name, name), more) else none
  | _ => none

theorem length_key? {cs after : List Char} {name : String} (h : key? cs = some (name, after)) :
    after.length < cs.length := by
  cases cs with
  | nil => cases h
  | cons c rest =>
    rw [List.length_cons]
    simp only [key?] at h
    split at h <;> cases h
    all_goals
      rename_i hnext
      exact Nat.lt_succ_of_le (Script.Token.length_next? hnext)

theorem length_localName? {cs after : List Char} {name : String}
    (h : localName? cs = some (name, after)) : after.length < cs.length := by
  unfold localName? at h
  split at h
  · cases h
  · exact length_key? h

theorem length_binding? {cs more : List Char} {pair : String × String}
    (h : binding? cs = some (pair, more)) : more.length < cs.length := by
  unfold binding? at h
  split at h
  · rename_i hkey
    have hafter := length_key? hkey
    split at h <;> cases h
    rename_i hlocal
    have hmore := length_localName? hlocal
    simp only [List.length_cons] at hafter hmore
    omega
  · rename_i hkey
    have hmore := length_key? hkey
    split at h <;> cases h
    simp only [List.length_cons] at hmore
    omega
  · cases h

/-- The members that go to variables, one after the other, and what follows them. -/
def bindings (cs : List Char) : List (String × String) × List Char :=
  match _h : binding? cs with
  | some (pair, more) =>
    let (pairs, rest) := bindings more
    (pair :: pairs, rest)
  | none => ([], cs)
termination_by cs.length
decreasing_by exact length_binding? _h

/-- A statement that takes a record apart: these members of it go to these variables, and all
others stay together. -/
structure Pattern where
  bound : List (String × String)
  rest : String
  source : String
deriving DecidableEq, Repr

/-- The pattern that a line is. -/
def pattern? (line : List Char) : Option Pattern := do
  let inside ← "  const \x7b ".toList.isPrefixOf? line
  let (bound, after) := bindings inside
  let after ← "...".toList.isPrefixOf? after
  let (rest, after) ← localName? after
  let after ← " \x7d = ".toList.isPrefixOf? after
  let (source, after) ← localName? after
  if after = [';'] then return ⟨bound, rest, source⟩ else none

/-- What is left of the members of a record. -/
def Pattern.remaining (p : Pattern) (record : String → Option Script.Value) :
    String → Option Script.Value :=
  fun name => if name ∈ p.bound.map (·.1) then none else record name

example : pattern? "  const \x7b a, \"b-c\": d, ...rest \x7d = record;".toList =
    some ⟨[("a", "a"), ("b-c", "d")], "rest", "record"⟩ := by cbv

end ClientText

end StoreClient
