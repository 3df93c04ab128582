-- What draft 7 of JSON Schema says of a value, for the keywords that the published schemas use.
-- References may lead in circles, so a schema is judged down to some depth; a verdict that is
-- reached at one depth stands at every greater one.
import StoreClient.JsonSchema.Rule

namespace StoreClient

namespace Draft7

/-! ## Verdicts on several things -/

/-- Whether all of them hold. One that does not is enough to say so; apart from that nothing is
said while one of them is open. -/
def all? (verdicts : List (Option Bool)) : Option Bool :=
  if some false ∈ verdicts then some false
  else if none ∈ verdicts then none else some true

/-- Whether one of them holds, or several. -/
def any? (verdicts : List (Option Bool)) : Option Bool :=
  if some true ∈ verdicts then some true
  else if none ∈ verdicts then none else some false

/-- Whether exactly one of them holds. -/
def one? (verdicts : List (Option Bool)) : Option Bool :=
  if none ∈ verdicts then none else some (verdicts.count (some true) = 1)

/-! ## Keywords -/

def typeNamed? (name : String) : Option JsonType :=
  [.null, .boolean, .number, .string, .array, .object].find? fun t => t.name = name

/-- Whether a value is of the type that a schema names. -/
def isOfType? (v : Json) : Json → Option Bool
  | .text name => (typeNamed? name).map fun t => v.type = t
  | _ => none

/-- Whether a value is of the type that is named, or of one of those that are listed. -/
def type? (v : Json) : Json → Option Bool
  | .array names => any? (names.map (isOfType? v))
  | name => isOfType? v name

/-- Whether a value is the text that a schema lists. -/
def isText? (v : Json) : Json → Option Bool
  | .text s => some (v.asText? = some s)
  | _ => none

def enum? (v : Json) : Json → Option Bool
  | .array items => any? (items.map (isText? v))
  | _ => none

/-- Whether members have the key that a schema demands. -/
def hasMember? (members : List (String × Json)) : Json → Option Bool
  | .text key => some (members.lookup key).isSome
  | _ => none

/-- Only of an object are members demanded. -/
def required? : Json → Json → Option Bool
  | .object members, .array keys => all? (keys.map (hasMember? members))
  | _, .array _ => some true
  | _, _ => none

section

variable (judge : Json → Json → Option Bool)

/-- What is said of the member of a key, if there is one. -/
def member? (members : List (String × Json)) (property : String × Json) : Option Bool :=
  match members.lookup property.1 with
  | some w => judge property.2 w
  | none => some true

def properties? : Json → Json → Option Bool
  | .object members, .object schemas => all? (schemas.map (member? judge members))
  | _, .object _ => some true
  | _, _ => none

def items? : Json → Json → Option Bool
  | .array items, schema => all? (items.map (judge schema))
  | _, _ => some true

/-- What several schemas say of one value, put together. -/
def schemas? (together : List (Option Bool) → Option Bool) (v : Json) : Json → Option Bool
  | .array schemas => together (schemas.map fun schema => judge schema v)
  | _ => none

/-- Keywords that ask for nothing. -/
def annotations : List String := ["$schema", "title", "description", "default", "definitions"]

/-- What a keyword says of a value, when `judge` says what the schemas inside it do. -/
def keyword? (v : Json) (k : String × Json) : Option Bool :=
  if k.1 ∈ annotations then some true
  else if k.1 = "type" then type? v k.2
  else if k.1 = "enum" then enum? v k.2
  else if k.1 = "required" then required? v k.2
  else if k.1 = "properties" then properties? judge v k.2
  else if k.1 = "items" then items? judge v k.2
  else if k.1 = "oneOf" then schemas? judge one? v k.2
  else if k.1 = "anyOf" then schemas? judge any? v k.2
  else if k.1 = "allOf" then schemas? judge all? v k.2
  else none

end

/-! ## Schemas -/

/-- The definition that a reference leads to. -/
def resolve? (root : Json) : Json → Option Json
  | .text pointer =>
    match root.get? "definitions" with
    | some (.object definitions) =>
      (definitions.find? fun d => "#/definitions/" ++ d.1 = pointer).map (·.2)
    | _ => none
  | _ => none

/-- What the keywords of a schema say together; beside a reference the others do not count. -/
def keywords? (root : Json) (judge : Json → Json → Option Bool) (keywords : List (String × Json))
    (v : Json) : Option Bool :=
  match keywords.lookup "$ref" with
  | some target => (resolve? root target).bind fun schema => judge schema v
  | none => all? (keywords.map (keyword? judge v))

/-- What a schema says of a value, down to a depth. -/
def judge? (root : Json) : Nat → Json → Json → Option Bool
  | 0, _, _ => none
  | _ + 1, .bool b, _ => some b
  | depth + 1, .object keywords, v => keywords? root (judge? root depth) keywords v
  | _ + 1, _, _ => none

/-- The verdict of a schema on a value. -/
def Says (root schema v : Json) (verdict : Bool) : Prop :=
  ∃ depth, judge? root depth schema v = some verdict

/-- A value that is valid against a schema which stands for itself. -/
def Valid (schema v : Json) : Prop := Says schema schema v true

/-! ## Laws of verdicts -/

section

variable {vs : List (Option Bool)}

theorem all?_eq_true_iff : all? vs = some true ↔ ∀ v ∈ vs, v = some true := by
  unfold all?
  constructor
  · intro h v hv
    split at h
    · cases h
    · rename_i hfalse
      split at h
      · cases h
      · rename_i hnone
        cases v with
        | none => exact absurd hv hnone
        | some b =>
          cases b with
          | false => exact absurd hv hfalse
          | true => rfl
  · intro h
    rw [if_neg, if_neg]
    · exact fun hmem => nomatch h _ hmem
    · exact fun hmem => nomatch h _ hmem

theorem all?_eq_false_iff : all? vs = some false ↔ some false ∈ vs := by
  unfold all?
  split
  · simp_all
  · split <;> simp_all

theorem any?_eq_true_iff : any? vs = some true ↔ some true ∈ vs := by
  unfold any?
  split
  · simp_all
  · split <;> simp_all

theorem any?_eq_false_iff : any? vs = some false ↔ ∀ v ∈ vs, v = some false := by
  unfold any?
  constructor
  · intro h v hv
    split at h
    · cases h
    · rename_i htrue
      split at h
      · cases h
      · rename_i hnone
        cases v with
        | none => exact absurd hv hnone
        | some b =>
          cases b with
          | false => rfl
          | true => exact absurd hv htrue
  · intro h
    rw [if_neg, if_neg]
    · exact fun hmem => nomatch h _ hmem
    · exact fun hmem => nomatch h _ hmem

/-- What holds of everything asks for nothing. -/
theorem all?_true_append {ws : List (Option Bool)} (h : ∀ w ∈ ws, w = some true) :
    all? (ws ++ vs) = all? vs := by
  have hfalse : some false ∉ ws := fun hmem => by cases h _ hmem
  have hnone : none ∉ ws := fun hmem => by cases h _ hmem
  simp [all?, hfalse, hnone]

theorem all?_append_true {ws : List (Option Bool)} (h : ∀ w ∈ ws, w = some true) :
    all? (vs ++ ws) = all? vs := by
  have hfalse : some false ∉ ws := fun hmem => by cases h _ hmem
  have hnone : none ∉ ws := fun hmem => by cases h _ hmem
  simp [all?, hfalse, hnone]

end

section

variable {α : Type} {f g : α → Option Bool} {as : List α} {verdict : Bool}

theorem all?_map_extends (h : ∀ a ∈ as, ∀ b, f a = some b → g a = some b)
    (hf : all? (as.map f) = some verdict) : all? (as.map g) = some verdict := by
  cases verdict with
  | true =>
    rw [all?_eq_true_iff, List.forall_mem_map] at hf ⊢
    exact fun a ha => h a ha true (hf a ha)
  | false =>
    rw [all?_eq_false_iff, List.mem_map] at hf ⊢
    obtain ⟨a, ha, hfa⟩ := hf
    exact ⟨a, ha, h a ha false hfa⟩

theorem any?_map_extends (h : ∀ a ∈ as, ∀ b, f a = some b → g a = some b)
    (hf : any? (as.map f) = some verdict) : any? (as.map g) = some verdict := by
  cases verdict with
  | true =>
    rw [any?_eq_true_iff, List.mem_map] at hf ⊢
    obtain ⟨a, ha, hfa⟩ := hf
    exact ⟨a, ha, h a ha true hfa⟩
  | false =>
    rw [any?_eq_false_iff, List.forall_mem_map] at hf ⊢
    exact fun a ha => h a ha false (hf a ha)

theorem one?_map_extends (h : ∀ a ∈ as, ∀ b, f a = some b → g a = some b)
    (hf : one? (as.map f) = some verdict) : one? (as.map g) = some verdict := by
  have hsame : as.map g = as.map f := by
    refine List.map_congr_left fun a ha => ?_
    cases hfa : f a with
    | none =>
      have hopen : none ∈ as.map f := List.mem_map.mpr ⟨a, ha, hfa⟩
      rw [one?, if_pos hopen] at hf
      cases hf
    | some b => exact h a ha b hfa
  rwa [hsame]

end

/-! ## A verdict stands -/

section

variable {root : Json} {judge judge' : Json → Json → Option Bool} {v : Json} {verdict : Bool}
  (h : ∀ schema w b, judge schema w = some b → judge' schema w = some b)

include h

theorem schemas?_extends {content : Json} {together : List (Option Bool) → Option Bool}
    (htogether : ∀ (schemas : List Json) (f g : Json → Option Bool),
      (∀ s ∈ schemas, ∀ b, f s = some b → g s = some b) →
        together (schemas.map f) = some verdict → together (schemas.map g) = some verdict)
    (hk : schemas? judge together v content = some verdict) :
    schemas? judge' together v content = some verdict := by
  cases content with
  | array schemas => exact htogether schemas _ _ (fun s _ b => h s v b) hk
  | _ => cases hk

theorem properties?_extends {content : Json} (hk : properties? judge v content = some verdict) :
    properties? judge' v content = some verdict := by
  unfold properties? at hk ⊢
  split at hk
  · refine all?_map_extends (fun s _ b hs => ?_) hk
    unfold member? at hs ⊢
    split at hs
    · exact h _ _ b hs
    · exact hs
  · exact hk
  · cases hk

theorem items?_extends {content : Json} (hk : items? judge v content = some verdict) :
    items? judge' v content = some verdict := by
  unfold items? at hk ⊢
  split at hk
  · exact all?_map_extends (fun w _ b hw => h _ w b hw) hk
  · exact hk

omit h in
theorem ite_extends {c : Prop} [Decidable c] {x x' y y' : Option Bool}
    (hx : x = some verdict → x' = some verdict) (hy : y = some verdict → y' = some verdict) :
    (if c then x else y) = some verdict → (if c then x' else y') = some verdict := by
  split
  · exact hx
  · exact hy

theorem keyword?_extends {k : String × Json} :
    keyword? judge v k = some verdict → keyword? judge' v k = some verdict := by
  unfold keyword?
  refine ite_extends id (ite_extends id (ite_extends id (ite_extends id ?_)))
  refine ite_extends (properties?_extends h) (ite_extends (items?_extends h) ?_)
  refine ite_extends (schemas?_extends h fun _ _ _ => one?_map_extends) ?_
  refine ite_extends (schemas?_extends h fun _ _ _ => any?_map_extends) ?_
  exact ite_extends (schemas?_extends h fun _ _ _ => all?_map_extends) id

theorem keywords?_extends {keywords : List (String × Json)}
    (hk : keywords? root judge keywords v = some verdict) :
    keywords? root judge' keywords v = some verdict := by
  unfold keywords? at hk ⊢
  split at hk
  · obtain ⟨schema, hschema, hk⟩ := Option.bind_eq_some_iff.mp hk
    rw [hschema, Option.bind_some]
    exact h schema v verdict hk
  · exact all?_map_extends (fun k _ b => keyword?_extends h) hk

end

section

variable {root schema v : Json} {verdict verdict' : Bool}

theorem judge?_succ {depth : Nat} (h : judge? root depth schema v = some verdict) :
    judge? root (depth + 1) schema v = some verdict := by
  induction depth generalizing schema v verdict with
  | zero => cases h
  | succ depth ih =>
    cases schema with
    | bool b => exact h
    | object keywords => exact keywords?_extends (fun _ _ _ => ih) h
    | _ => cases h

/-- A verdict that is reached at one depth stands at every greater one. -/
theorem judge?_mono {depth depth' : Nat} (hle : depth ≤ depth')
    (h : judge? root depth schema v = some verdict) :
    judge? root depth' schema v = some verdict := by
  induction hle with
  | refl => exact h
  | step _ ih => exact judge?_succ ih

/-- There are no two verdicts. -/
theorem Says.unique (h : Says root schema v verdict) (h' : Says root schema v verdict') :
    verdict = verdict' := by
  obtain ⟨depth, h⟩ := h
  obtain ⟨depth', h'⟩ := h'
  have hmost := judge?_mono (Nat.le_max_left depth depth') h
  rw [judge?_mono (Nat.le_max_right depth depth') h'] at hmost
  exact (Option.some.inj hmost).symm

/-- Verdicts on finitely many things are all reached at some depth. -/
theorem exists_depth {α : Type} {as : List α} {schemaOf valueOf : α → Json} {verdictOf : α → Bool}
    (h : ∀ a ∈ as, Says root (schemaOf a) (valueOf a) (verdictOf a)) :
    ∃ depth, ∀ a ∈ as, judge? root depth (schemaOf a) (valueOf a) = some (verdictOf a) := by
  induction as with
  | nil => exact ⟨0, fun _ ha => nomatch ha⟩
  | cons a as ih =>
    rw [List.forall_mem_cons] at h
    obtain ⟨depth, ha⟩ := h.1
    obtain ⟨depth', has⟩ := ih h.2
    refine ⟨max depth depth', List.forall_mem_cons.mpr ⟨?_, fun b hb => ?_⟩⟩
    · exact judge?_mono (Nat.le_max_left _ _) ha
    · exact judge?_mono (Nat.le_max_right _ _) (has b hb)

end

/-! ## What the rules say -/

theorem all?_singleton (verdict : Option Bool) : all? [verdict] = verdict := by
  cases verdict with
  | none => rfl
  | some b => cases b <;> rfl

/-- The type of the values that a rule asks for. -/
def ruleType : RuleType → JsonType
  | .null => .null
  | .boolean => .boolean
  | .string => .string

section

open Rule

variable {root v : Json} {judge : Json → Json → Option Bool} {rule : Rule} {rules : List Rule}
  {verdict : Bool}

theorem lookup_ref_of_annotations {ks : List (String × Json)} (h : ∀ k ∈ ks, k.1 ∈ annotations) :
    ks.lookup "$ref" = none := by
  rw [List.lookup_eq_none_iff]
  intro k hk
  have hne : "$ref" ≠ k.1 := fun he => by
    have hmem := h k hk
    rw [← he] at hmem
    exact absurd hmem (by decide)
  simpa using hne

theorem keyword?_of_annotation {k : String × Json} (h : k.1 ∈ annotations) :
    keyword? judge v k = some true := if_pos h

/-- Keywords that ask for nothing do not matter. -/
theorem keywords?_annotated {before ks after : List (String × Json)}
    (hbefore : ∀ k ∈ before, k.1 ∈ annotations) (hafter : ∀ k ∈ after, k.1 ∈ annotations) :
    keywords? root judge (before ++ ks ++ after) v = keywords? root judge ks v := by
  have hlookup : (before ++ ks ++ after).lookup "$ref" = ks.lookup "$ref" := by
    rw [List.lookup_append, List.lookup_append, lookup_ref_of_annotations hbefore,
      lookup_ref_of_annotations hafter, Option.none_or, Option.or_none]
  have hall : all? ((before ++ ks ++ after).map (keyword? judge v)) =
      all? (ks.map (keyword? judge v)) := by
    rw [List.map_append, List.map_append, all?_append_true, all?_true_append]
    · exact List.forall_mem_map.mpr fun k hk => keyword?_of_annotation (hbefore k hk)
    · exact List.forall_mem_map.mpr fun k hk => keyword?_of_annotation (hafter k hk)
  rw [keywords?, keywords?, hlookup, hall]

theorem says_object_iff {ks : List (String × Json)} : Says root (.object ks) v verdict ↔
    ∃ depth, keywords? root (judge? root depth) ks v = some verdict := by
  constructor
  · rintro ⟨depth, h⟩
    cases depth with
    | zero => cases h
    | succ depth => exact ⟨depth, h⟩
  · rintro ⟨depth, h⟩
    exact ⟨depth + 1, h⟩

theorem holds_anything : Says root anything.toJson v true := by
  rw [Rule.toJson]
  exact ⟨1, rfl⟩

/-- A rule says what its keywords say. -/
theorem says_iff_keywords : Says root rule.toJson v verdict ↔
    ∃ depth, keywords? root (judge? root depth) rule.keywords v = some verdict := by
  cases rule with
  | anything =>
    have hnothing (depth : Nat) :
        keywords? root (judge? root depth) anything.keywords v = some true := by
      rw [Rule.keywords]
      rfl
    simp only [hnothing, exists_const, Option.some.injEq]
    constructor
    · intro h
      exact holds_anything.unique h
    · rintro rfl
      exact holds_anything
  | described description rule =>
    rw [Rule.toJson, Rule.keywords]
    exact says_object_iff
  | _ =>
    rw [Rule.toJson]
    exact says_object_iff

/-- Words for a reader do not matter. -/
theorem says_described_iff {description : String} :
    Says root (described description rule).toJson v verdict ↔ Says root rule.toJson v verdict := by
  have hsame (depth : Nat) :
      keywords? root (judge? root depth) (described description rule).keywords v =
        keywords? root (judge? root depth) rule.keywords v := by
    have hdescription : ∀ k ∈ [("description", Json.text description)], k.1 ∈ annotations := by
      simp [annotations]
    have h : keywords? root (judge? root depth)
        ([("description", .text description)] ++ rule.keywords ++ []) v = _ :=
      keywords?_annotated hdescription nofun
    rw [List.append_nil] at h
    rw [Rule.keywords]
    exact h
  simp only [says_iff_keywords, hsame]

/-- A published schema holds of what its rule holds of. -/
theorem valid_published_iff (p : PublishedSchema) :
    Valid p.toJson v ↔ Says p.toJson p.rule.toJson v true := by
  have hobject : Valid p.toJson v ↔ ∃ depth, keywords? p.toJson (judge? p.toJson depth) _ v =
      some true := says_object_iff
  have hbefore : ∀ k ∈ [("$schema", Json.text "http://json-schema.org/draft-07/schema#"),
      ("title", .text p.title)], k.1 ∈ annotations := by
    simp [annotations]
  have hafter : ∀ k ∈ [("definitions", Json.object (p.definitions.map fun d => (d.1, d.2.toJson)))],
      k.1 ∈ annotations := by
    simp [annotations]
  simp only [hobject, says_iff_keywords, keywords?_annotated hbefore hafter]

/-! ### One rule -/

theorem says_ref_iff {definition : String}
    (h : resolve? root (.text ("#/definitions/" ++ definition)) = some rule.toJson) :
    Says root (ref definition).toJson v verdict ↔ Says root rule.toJson v verdict := by
  rw [says_iff_keywords]
  have hsame (depth : Nat) : keywords? root (judge? root depth) (ref definition).keywords v =
      judge? root depth rule.toJson v := by
    rw [Rule.keywords, keywords?]
    simp only [List.lookup_cons, beq_self_eq_true, h, Option.bind_some]
  simp only [hsame]
  rfl

@[simp] theorem keyword?_type (content : Json) :
    keyword? judge v ("type", content) = type? v content := rfl

@[simp] theorem keyword?_enum (content : Json) :
    keyword? judge v ("enum", content) = enum? v content := rfl

@[simp] theorem keyword?_required (content : Json) :
    keyword? judge v ("required", content) = required? v content := rfl

@[simp] theorem keyword?_properties (content : Json) :
    keyword? judge v ("properties", content) = properties? judge v content := rfl

@[simp] theorem keyword?_items (content : Json) :
    keyword? judge v ("items", content) = items? judge v content := rfl

@[simp] theorem keyword?_oneOf (content : Json) :
    keyword? judge v ("oneOf", content) = schemas? judge one? v content := rfl

@[simp] theorem keyword?_anyOf (content : Json) :
    keyword? judge v ("anyOf", content) = schemas? judge any? v content := rfl

@[simp] theorem keyword?_allOf (content : Json) :
    keyword? judge v ("allOf", content) = schemas? judge all? v content := rfl

theorem isOfType?_name (t : RuleType) :
    isOfType? v (.text t.name) = some (decide (v.type = ruleType t)) := by
  cases t <;> rfl

theorem any?_map_some {α : Type} (as : List α) (f : α → Bool) :
    any? (as.map fun a => some (f a)) = some (as.any f) := by
  cases h : as.any f with
  | true =>
    rw [any?_eq_true_iff, List.mem_map]
    obtain ⟨a, ha, hf⟩ := List.any_eq_true.mp h
    exact ⟨a, ha, congrArg some hf⟩
  | false =>
    rw [any?_eq_false_iff, List.forall_mem_map]
    intro a ha
    rw [List.any_eq_false] at h
    simpa using h a ha

theorem keywords?_eq_all? {ks : List (String × Json)} (h : ks.lookup "$ref" = none) :
    keywords? root judge ks v = all? (ks.map (keyword? judge v)) := by
  rw [keywords?, h]

/-- Without a reference a rule holds when each of its keywords does. -/
theorem holds_iff_keywords (h : rule.keywords.lookup "$ref" = none) :
    Says root rule.toJson v true ↔
      ∃ depth, ∀ k ∈ rule.keywords, keyword? (judge? root depth) v k = some true := by
  simp only [says_iff_keywords, keywords?_eq_all? h, all?_eq_true_iff, List.forall_mem_map]

theorem says_types (ts : List RuleType) :
    Says root (types ts).toJson v (ts.any fun t => v.type = ruleType t) := by
  have htypes : type? v (typesJson ts) = some (ts.any fun t => v.type = ruleType t) := by
    have hany : any? ((ts.map fun t => Json.text t.name).map (isOfType? v)) =
        some (ts.any fun t => v.type = ruleType t) := by
      rw [List.map_map, ← any?_map_some]
      exact congrArg any? (List.map_congr_left fun t _ => isOfType?_name t)
    unfold typesJson
    split
    · rw [type?, isOfType?_name]
      · simp
      · exact nofun
    · exact hany
  refine says_iff_keywords.mpr ⟨0, ?_⟩
  rw [Rule.keywords, keywords?_eq_all? rfl, List.map_singleton, all?_singleton, keyword?_type,
    htypes]

theorem holds_types_iff {ts : List RuleType} :
    Says root (types ts).toJson v true ↔ ∃ t ∈ ts, v.type = ruleType t := by
  have hsays : Says root (types ts).toJson v (ts.any fun t => v.type = ruleType t) := says_types ts
  constructor
  · intro h
    have hany := hsays.unique h
    simpa using hany
  · intro h
    have hany : (ts.any fun t => decide (v.type = ruleType t)) = true := by simpa using h
    rwa [hany] at hsays

/-- A text is judged by the words that it may be. -/
theorem says_words (ws : List String) (s : String) :
    Says root (words ws).toJson (.text s) (decide (s ∈ ws)) := by
  have htype : type? (.text s) (.text "string") = some true := rfl
  have henum : enum? (.text s) (.array (ws.map .text)) = some (decide (s ∈ ws)) := by
    have hany : any? ((ws.map Json.text).map (isText? (.text s))) =
        some (ws.any fun w => (Json.text s).asText? = some w) := by
      rw [List.map_map, ← any?_map_some]
      rfl
    rw [enum?, hany, Option.some.injEq, Bool.eq_iff_iff]
    simp [Json.asText?]
  refine says_iff_keywords.mpr ⟨0, ?_⟩
  rw [Rule.keywords, keywords?_eq_all? rfl, List.map_cons, List.map_singleton, keyword?_type, htype,
    keyword?_enum, henum]
  cases decide (s ∈ ws) <;> rfl

theorem holds_listOf_iff {hasDefault : Bool} : Says root (listOf hasDefault rule).toJson v true ↔
    ∃ items, v = .array items ∧ ∀ w ∈ items, Says root rule.toJson w true := by
  have hkeywords : (listOf hasDefault rule).keywords =
      (if hasDefault then [("default", .array [])] else []) ++
        [("type", .text "array"), ("items", rule.toJson)] := by
    rw [Rule.keywords]
  rw [holds_iff_keywords (by rw [hkeywords]; cases hasDefault <;> rfl), hkeywords]
  simp only [List.forall_mem_append, List.forall_mem_cons, keyword?_type, keyword?_items]
  constructor
  · rintro ⟨depth, -, htype, hitems, -⟩
    cases v with
    | array items =>
      refine ⟨items, rfl, fun w hw => ⟨depth, ?_⟩⟩
      rw [items?, all?_eq_true_iff, List.forall_mem_map] at hitems
      exact hitems w hw
    | _ => cases htype
  · rintro ⟨items, rfl, hitems⟩
    obtain ⟨depth, hdepth⟩ := exists_depth hitems
    refine ⟨depth, ?_, rfl, ?_, List.forall_mem_nil _⟩
    · cases hasDefault <;> simp [keyword?, annotations]
    · rw [items?, all?_eq_true_iff, List.forall_mem_map]
      exact hdepth

theorem propertiesJson_eq (properties : List (String × Bool × Rule)) :
    propertiesJson properties = properties.map fun p => (p.1, p.2.2.toJson) := by
  induction properties with
  | nil => rw [propertiesJson, List.map_nil]
  | cons p properties ih => rw [propertiesJson, ih, List.map_cons]

theorem toJsons_eq (rules : List Rule) : toJsons rules = rules.map Rule.toJson := by
  induction rules with
  | nil => rw [toJsons, List.map_nil]
  | cons rule rules ih => rw [toJsons, ih, List.map_cons]

theorem member?_eq_true_iff {members : List (String × Json)} {property : String × Json} :
    member? judge members property = some true ↔
      ∀ w, members.lookup property.1 = some w → judge property.2 w = some true := by
  unfold member?
  split
  · rename_i w hw
    simp [hw]
  · rename_i hnone
    simp [hnone]

theorem keywords_record (properties : List (String × Bool × Rule)) : (record properties).keywords =
    [("type", .text "object"), ("required", .array ((required properties).map .text)),
      ("properties", .object (properties.map fun p => (p.1, p.2.2.toJson)))] := by
  rw [Rule.keywords, propertiesJson_eq]

theorem holds_record_iff {properties : List (String × Bool × Rule)} :
    Says root (record properties).toJson v true ↔ ∃ members, v = .object members ∧
      (∀ p ∈ properties, p.2.1 = true → (members.lookup p.1).isSome = true) ∧
        ∀ p ∈ properties, ∀ w, members.lookup p.1 = some w → Says root p.2.2.toJson w true := by
  rw [holds_iff_keywords (by rw [keywords_record]; rfl), keywords_record]
  simp only [List.forall_mem_cons, keyword?_type, keyword?_required, keyword?_properties]
  have hrequired (members : List (String × Json)) :
      required? (.object members) (.array ((required properties).map .text)) = some true ↔
        ∀ p ∈ properties, p.2.1 = true → (members.lookup p.1).isSome = true := by
    rw [required?, all?_eq_true_iff, List.forall_mem_map, List.forall_mem_map]
    simp only [hasMember?, Option.some.injEq, required, List.mem_map, List.mem_filter]
    constructor
    · intro h p hp hdemanded
      exact h p.1 ⟨p, ⟨hp, hdemanded⟩, rfl⟩
    · rintro h _ ⟨p, ⟨hp, hdemanded⟩, rfl⟩
      exact h p hp hdemanded
  have hproperties (depth : Nat) (members : List (String × Json)) :
      properties? (judge? root depth) (.object members)
          (.object (properties.map fun p => (p.1, p.2.2.toJson))) = some true ↔
        ∀ p ∈ properties, ∀ w, members.lookup p.1 = some w →
          judge? root depth p.2.2.toJson w = some true := by
    simp only [properties?, all?_eq_true_iff, List.forall_mem_map, member?_eq_true_iff]
  constructor
  · rintro ⟨depth, htype, hkeys, hall, -⟩
    cases v with
    | object members =>
      refine ⟨members, rfl, (hrequired members).mp hkeys, fun p hp w hw => ⟨depth, ?_⟩⟩
      exact (hproperties depth members).mp hall p hp w hw
    | _ => cases htype
  · rintro ⟨members, rfl, hkeys, hall⟩
    -- The properties that are there are finitely many, so one depth does for all of them.
    let there := properties.filterMap fun p => (members.lookup p.1).map fun w => (p.2.2.toJson, w)
    have hthere : ∀ a ∈ there, Says root a.1 a.2 true := by
      intro a ha
      obtain ⟨p, hp, ha⟩ := List.mem_filterMap.mp ha
      obtain ⟨w, hw, rfl⟩ := Option.map_eq_some_iff.mp ha
      exact hall p hp w hw
    obtain ⟨depth, hdepth⟩ := exists_depth hthere
    refine ⟨depth, rfl, (hrequired members).mpr hkeys, (hproperties depth members).mpr ?_,
      List.forall_mem_nil _⟩
    intro p hp w hw
    exact hdepth (p.2.2.toJson, w) (List.mem_filterMap.mpr ⟨p, hp, by rw [hw]; rfl⟩)

/-- One property that is not what it must be is enough. -/
theorem refuses_record {properties : List (String × Bool × Rule)} {members : List (String × Json)}
    {p : String × Bool × Rule} {w : Json} (hp : p ∈ properties)
    (hw : members.lookup p.1 = some w) (h : Says root p.2.2.toJson w false) :
    Says root (record properties).toJson (.object members) false := by
  obtain ⟨depth, h⟩ := h
  refine says_iff_keywords.mpr ⟨depth, ?_⟩
  rw [keywords_record, keywords?_eq_all? rfl, all?_eq_false_iff]
  simp only [List.map_cons, keyword?_type, keyword?_required, keyword?_properties, properties?]
  have hfalse : all? ((properties.map fun p => (p.1, p.2.2.toJson)).map
      (member? (judge? root depth) members)) = some false := by
    rw [all?_eq_false_iff, List.map_map]
    refine List.mem_map.mpr ⟨p, hp, ?_⟩
    simp [member?, hw, h]
  rw [hfalse]
  simp

/-- With a verdict of each rule, exactly one holds or not. -/
theorem says_oneOf {verdictOf : Rule → Bool}
    (h : ∀ r ∈ rules, Says root r.toJson v (verdictOf r)) :
    Says root (oneOf rules).toJson v (decide (rules.countP verdictOf = 1)) := by
  obtain ⟨depth, hdepth⟩ := exists_depth h
  refine says_iff_keywords.mpr ⟨depth, ?_⟩
  rw [Rule.keywords, toJsons_eq, keywords?_eq_all? rfl, List.map_singleton, all?_singleton,
    keyword?_oneOf, schemas?, List.map_map]
  have hverdicts : rules.map ((fun schema => judge? root depth schema v) ∘ Rule.toJson) =
      rules.map fun r => some (verdictOf r) := List.map_congr_left hdepth
  rw [hverdicts, one?, if_neg (by simp), List.count, List.countP_map]
  simp [Function.comp_def]

theorem holds_anyOf_iff : Says root (anyOf rules).toJson v true ↔
    ∃ r ∈ rules, Says root r.toJson v true := by
  rw [holds_iff_keywords (by rw [Rule.keywords]; rfl), Rule.keywords, toJsons_eq]
  simp only [List.forall_mem_singleton, keyword?_anyOf, schemas?, any?_eq_true_iff, List.map_map,
    List.mem_map, Function.comp_apply]
  constructor
  · rintro ⟨depth, r, hr, h⟩
    exact ⟨r, hr, depth, h⟩
  · rintro ⟨r, hr, depth, h⟩
    exact ⟨depth, r, hr, h⟩

theorem holds_allOf_iff : Says root (allOf rules).toJson v true ↔
    ∀ r ∈ rules, Says root r.toJson v true := by
  rw [holds_iff_keywords (by rw [Rule.keywords]; rfl), Rule.keywords, toJsons_eq]
  simp only [List.forall_mem_singleton, keyword?_allOf, schemas?, all?_eq_true_iff, List.map_map,
    List.forall_mem_map, Function.comp_apply]
  constructor
  · rintro ⟨depth, h⟩ r hr
    exact ⟨depth, h r hr⟩
  · intro h
    exact exists_depth h

end

end Draft7

end StoreClient
