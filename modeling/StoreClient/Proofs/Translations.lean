-- The laws of the two vocabularies: what declares a field in the words of a document stays as it
-- is, and what has been translated is translated for good. A translation moves members to keys
-- that are free, so it has nothing left to do once it is done; no value is lost on the way.
import StoreClient.Proofs.CatalogFields
import StoreClient.Proofs.FieldVocabulary
import StoreClient.Proofs.PublishedDocuments

namespace StoreClient

namespace Catalog

/-! ## What a translation may change -/

/-- The key of the catalog and the key of a document for what the two call by different names. -/
def renaming? (tag : String) : Option (String × String) :=
  if tag = "relation" then some ("collectionId", "to")
  else if tag = "select" then some ("values", "options")
  else none

/-- A field of this kind holds one value or several. -/
def HasMode (tag : String) : Prop := tag ∈ ["relation", "select", "file"]

instance (tag : String) : Decidable (HasMode tag) := inferInstanceAs (Decidable (_ ∈ _))

/-- The keys whose members may change. -/
def changedKeys (tag : String) : List String :=
  "type" :: (if HasMode tag then ["mode"] else []) ++
    (renaming? tag).toList.flatMap fun (before, after) => [before, after]

/-- What becomes of a declaration with a tag, key by key. A member goes over to its new key if that
is free, and else both stay; a mode is put in if none is given; the rest is as it was. -/
structure TranslatesTo (tag : String) (raw result : Json) : Prop where
  is_object : ∃ members, result = .object members
  type_eq : result.get? "type" = some (.text (canonicalTag tag))
  others_kept : ∀ key ∉ changedKeys tag, result.get? key = raw.get? key
  never_replaced : ∀ key ∈ ["to", "options", "mode"], ∀ j, raw.get? key = some j →
    result.get? key = some j
  moved : ∀ before after, renaming? tag = some (before, after) → ∀ j, raw.get? before = some j →
    raw.get? after = none → result.get? after = some j ∧ result.get? before = none
  not_moved : ∀ before after, renaming? tag = some (before, after) → raw.get? after ≠ none →
    result.get? before = raw.get? before
  not_given : ∀ before after, renaming? tag = some (before, after) → raw.get? before = none →
    result.get? before = none ∧ result.get? after = raw.get? after
  mode_eq : HasMode tag → raw.get? "mode" = none → result.get? "mode" =
    ((raw.get? "maxSelect").bind modeOf?).map fun mode => .text mode.name

/-- Nothing of the properties is left to translate. -/
structure Settled (tag : String) (members : List (String × Json)) : Prop where
  renamed : ∀ before after, renaming? tag = some (before, after) → members.lookup after = none →
    members.lookup before = none
  mode : HasMode tag → members.lookup "mode" = none →
    (members.lookup "maxSelect").bind modeOf? = none

/-! ## Tags -/

theorem renaming?_eq_some {tag before after : String} (h : renaming? tag = some (before, after)) :
    tag = "relation" ∧ before = "collectionId" ∧ after = "to" ∨
      tag = "select" ∧ before = "values" ∧ after = "options" := by
  unfold renaming? at h
  split at h
  · rename_i htag
    cases h
    exact .inl ⟨htag, rfl, rfl⟩
  · split at h
    · rename_i htag
      cases h
      exact .inr ⟨htag, rfl, rfl⟩
    · cases h

/-- The tags that have two names have neither properties of two names nor a mode. -/
theorem canonicalTag_cases (tag : String) : canonicalTag tag = tag ∨
    canonicalTag (canonicalTag tag) = canonicalTag tag ∧
      renaming? tag = none ∧ renaming? (canonicalTag tag) = none ∧
      ¬ HasMode tag ∧ ¬ HasMode (canonicalTag tag) := by
  by_cases h : tag ∈ ["text", "editor", "bool", "date"]
  · right
    simp only [List.mem_cons, List.not_mem_nil, or_false] at h
    rcases h with rfl | rfl | rfl | rfl <;> decide
  · left
    simp_all [canonicalTag]

theorem canonicalTag_canonicalTag (tag : String) :
    canonicalTag (canonicalTag tag) = canonicalTag tag := by
  rcases canonicalTag_cases tag with h | h
  · rw [h, h]
  · exact h.1

theorem renaming?_canonicalTag (tag : String) : renaming? (canonicalTag tag) = renaming? tag := by
  rcases canonicalTag_cases tag with h | ⟨-, hnone, hnone', -⟩
  · rw [h]
  · rw [hnone, hnone']

theorem hasMode_canonicalTag (tag : String) : HasMode (canonicalTag tag) ↔ HasMode tag := by
  rcases canonicalTag_cases tag with h | ⟨-, -, -, hmode, hmode'⟩
  · rw [h]
  · exact iff_of_false hmode' hmode

/-! ## Members -/

section

variable {before after tag : String} {members : List (String × Json)}

theorem rename_eq_self (h : members.lookup after = none → members.lookup before = none) :
    rename before after members = members := by
  unfold rename
  cases hafter : members.lookup after with
  | some j => rfl
  | none => rw [h hafter]

theorem addMode_eq_self
    (h : members.lookup "mode" = none → (members.lookup "maxSelect").bind modeOf? = none) :
    addMode members = members := by
  unfold addMode
  cases hmode : members.lookup "mode" with
  | some j => rfl
  | none => rw [h hmode]

/-- The members of two names go first, and the mode after them. -/
def renamedMembers (tag : String) (members : List (String × Json)) : List (String × Json) :=
  match renaming? tag with
  | some (before, after) => rename before after members
  | none => members

theorem translateProperties_eq : translateProperties tag members =
    if HasMode tag then addMode (renamedMembers tag members) else members := by
  unfold translateProperties
  split
  · rename_i h
    subst h
    rfl
  · split
    · rename_i h
      subst h
      rfl
    · split
      · rename_i h
        subst h
        rfl
      · rename_i hrelation hselect hfile
        rw [if_neg (by simp [HasMode, hrelation, hselect, hfile])]

theorem lookup_renamedMembers {key : String}
    (h : ∀ before after, renaming? tag = some (before, after) → key ≠ before ∧ key ≠ after) :
    (renamedMembers tag members).lookup key = members.lookup key := by
  unfold renamedMembers
  split
  · rename_i before after hrenaming
    obtain ⟨hbefore, hafter⟩ := h before after hrenaming
    exact lookup_rename_of_ne key hbefore hafter
  · rfl

/-- The mode has one name, and so has the number that may stand for it. -/
theorem lookup_renamedMembers_mode {key : String} (h : key ∈ ["type", "mode", "maxSelect"]) :
    (renamedMembers tag members).lookup key = members.lookup key := by
  apply lookup_renamedMembers
  intro before after hrenaming
  simp only [List.mem_cons, List.not_mem_nil, or_false] at h
  rcases renaming?_eq_some hrenaming with ⟨-, rfl, rfl⟩ | ⟨-, rfl, rfl⟩ <;>
    rcases h with rfl | rfl | rfl <;> decide

theorem hasMode_of_renaming? (h : renaming? tag = some (before, after)) : HasMode tag := by
  rcases renaming?_eq_some h with ⟨rfl, -⟩ | ⟨rfl, -⟩ <;> decide

theorem lookup_translateProperties_renamed {key : String} (h : renaming? tag = some (before, after))
    (hkey : key ∈ [before, after]) :
    (translateProperties tag members).lookup key =
      (rename before after members).lookup key := by
  have hmode : key ≠ "mode" := by
    simp only [List.mem_cons, List.not_mem_nil, or_false] at hkey
    rcases renaming?_eq_some h with ⟨-, rfl, rfl⟩ | ⟨-, rfl, rfl⟩ <;>
      rcases hkey with rfl | rfl <;> decide
  rw [translateProperties_eq, if_pos (hasMode_of_renaming? h), lookup_addMode_of_ne key hmode,
    renamedMembers, h]

/-! ### Nothing left to translate -/

theorem Settled.translateProperties_eq_self (h : Settled tag members) :
    translateProperties tag members = members := by
  have hrenamed : renamedMembers tag members = members := by
    unfold renamedMembers
    split
    · rename_i before after hrenaming
      exact rename_eq_self (h.renamed before after hrenaming)
    · rfl
  rw [translateProperties_eq, hrenamed]
  split
  · rename_i hmode
    exact addMode_eq_self (h.mode hmode)
  · rfl

/-- Whether anything is left does not hang on the type that is written. -/
theorem Settled.replace (h : Settled tag members) (j : Json) :
    Settled tag (Json.replace "type" j members) where
  renamed before after hrenaming := by
    have hne : before ≠ "type" ∧ after ≠ "type" := by
      rcases renaming?_eq_some hrenaming with ⟨-, rfl, rfl⟩ | ⟨-, rfl, rfl⟩ <;> decide
    rw [Json.lookup_replace, Json.lookup_replace, if_neg hne.1, if_neg hne.2]
    exact h.renamed before after hrenaming
  mode := by
    rw [Json.lookup_replace, Json.lookup_replace, if_neg (by decide), if_neg (by decide)]
    exact h.mode

theorem settled_translateProperties (tag : String) (members : List (String × Json)) :
    Settled tag (translateProperties tag members) where
  renamed before after hrenaming := by
    have hne : before ≠ after := by
      rcases renaming?_eq_some hrenaming with ⟨-, rfl, rfl⟩ | ⟨-, rfl, rfl⟩ <;> decide
    rw [lookup_translateProperties_renamed hrenaming (by simp),
      lookup_translateProperties_renamed hrenaming (by simp), lookup_rename_after,
      lookup_rename_before hne, Option.or_eq_none_iff]
    rintro ⟨hafter, -⟩
    exact if_pos hafter
  mode hmode := by
    rw [translateProperties_eq, if_pos hmode, lookup_addMode_mode, Option.or_eq_none_iff,
      Option.map_eq_none_iff, lookup_addMode_of_ne "maxSelect" (by decide)]
    exact fun h => h.2

end

/-! ## Declarations -/

theorem mem_changedKeys_iff (tag key : String) : key ∈ changedKeys tag ↔ key = "type" ∨
    (HasMode tag ∧ key = "mode") ∨
      ∃ before after, renaming? tag = some (before, after) ∧ (key = before ∨ key = after) := by
  unfold changedKeys
  rcases renaming? tag with _ | ⟨before, after⟩
  · by_cases hmode : HasMode tag <;> simp [hmode]
  · by_cases hmode : HasMode tag <;> simp [hmode, and_assoc]

theorem translate_of_no_type {raw : Json} (h : ∀ tag, raw.get? "type" ≠ some (.text tag)) :
    translate raw = raw := by
  cases raw with
  | object members =>
    simp only [translate]
    split
    · rename_i tag htag
      exact absurd htag (h tag)
    · rfl
  | _ => rfl

section

variable {tag : String} {members : List (String × Json)}
  (htype : members.lookup "type" = some (.text tag))

include htype

theorem translate_of_type : translate (.object members) =
    .object (Json.replace "type" (.text (canonicalTag tag))
      (translateProperties (canonicalTag tag) members)) := by
  simp only [translate, htype]

theorem get?_translate {key : String} (hkey : key ≠ "type") :
    (translate (.object members)).get? key =
      (translateProperties (canonicalTag tag) members).lookup key := by
  rw [translate_of_type htype, Json.get?, Json.lookup_replace, if_neg hkey]

theorem get?_translate_type :
    (translate (.object members)).get? "type" = some (.text (canonicalTag tag)) := by
  rw [translate_of_type htype, Json.get?, Json.lookup_replace, if_pos rfl,
    lookup_translateProperties_of_not_mem "type" (by decide), htype]
  rfl

theorem get?_translate_of_not_mem {key : String} (h : key ∉ changedKeys tag) :
    (translate (.object members)).get? key = members.lookup key := by
  simp only [mem_changedKeys_iff, not_or, not_and, not_exists] at h
  obtain ⟨hkey, hmode, hrenaming⟩ := h
  rw [get?_translate htype hkey, translateProperties_eq]
  split
  · rename_i hhas
    rw [hasMode_canonicalTag] at hhas
    rw [lookup_addMode_of_ne key (hmode hhas), lookup_renamedMembers]
    intro before after h
    rw [renaming?_canonicalTag] at h
    exact hrenaming before after h
  · rfl

theorem get?_translate_mode (h : HasMode tag) : (translate (.object members)).get? "mode" =
    (members.lookup "mode").or
      (((members.lookup "maxSelect").bind modeOf?).map fun mode => .text mode.name) := by
  rw [get?_translate htype (by decide), translateProperties_eq,
    if_pos ((hasMode_canonicalTag tag).mpr h), lookup_addMode_mode,
    lookup_renamedMembers_mode (by decide), lookup_renamedMembers_mode (by decide)]

section

variable {before after : String} (h : renaming? tag = some (before, after))

include h

theorem get?_translate_after : (translate (.object members)).get? after =
    (members.lookup after).or (members.lookup before) := by
  have hkey : after ≠ "type" := by
    rcases renaming?_eq_some h with ⟨-, rfl, rfl⟩ | ⟨-, rfl, rfl⟩ <;> decide
  rw [← renaming?_canonicalTag] at h
  rw [get?_translate htype hkey, lookup_translateProperties_renamed h (by simp),
    lookup_rename_after]

theorem get?_translate_before : (translate (.object members)).get? before =
    if members.lookup after = none then none else members.lookup before := by
  have hkey : before ≠ "type" ∧ before ≠ after := by
    rcases renaming?_eq_some h with ⟨-, rfl, rfl⟩ | ⟨-, rfl, rfl⟩ <;> decide
  rw [← renaming?_canonicalTag] at h
  rw [get?_translate htype hkey.1, lookup_translateProperties_renamed h (by simp),
    lookup_rename_before hkey.2]

end

theorem never_replaced {key : String} (hkey : key ∈ ["to", "options", "mode"]) {j : Json}
    (hj : members.lookup key = some j) : (translate (.object members)).get? key = some j := by
  by_cases hchanged : key ∈ changedKeys tag
  · rw [mem_changedKeys_iff] at hchanged
    rcases hchanged with rfl | ⟨hmode, rfl⟩ | ⟨before, after, hrenaming, rfl | rfl⟩
    · exact absurd hkey (by decide)
    · rw [get?_translate_mode htype hmode, hj]
      rfl
    · rcases renaming?_eq_some hrenaming with ⟨-, rfl, -⟩ | ⟨-, rfl, -⟩ <;>
        exact absurd hkey (by decide)
    · rw [get?_translate_after htype hrenaming, hj]
      rfl
  · rw [get?_translate_of_not_mem htype hchanged, hj]

theorem translatesTo : TranslatesTo tag (.object members) (translate (.object members)) where
  is_object := ⟨_, translate_of_type htype⟩
  type_eq := get?_translate_type htype
  others_kept _ hkey := get?_translate_of_not_mem htype hkey
  never_replaced _ hkey _ hj := never_replaced htype hkey hj
  moved before after hrenaming j hj hafter := by
    have hfree : members.lookup after = none := hafter
    have hgiven : members.lookup before = some j := hj
    rw [get?_translate_after htype hrenaming, get?_translate_before htype hrenaming, hfree, hgiven]
    exact ⟨rfl, rfl⟩
  not_moved before after hrenaming hafter := by
    rw [get?_translate_before htype hrenaming]
    exact if_neg hafter
  not_given before after hrenaming hbefore := by
    have hnone : members.lookup before = none := hbefore
    rw [get?_translate_after htype hrenaming, get?_translate_before htype hrenaming, hnone,
      ite_self, Option.or_none]
    exact ⟨rfl, rfl⟩
  mode_eq hmode hnone := by
    have hfree : members.lookup "mode" = none := hnone
    rw [get?_translate_mode htype hmode, hfree]
    rfl

theorem translate_translate_object :
    translate (translate (.object members)) = translate (.object members) := by
  have hsettled := (settled_translateProperties (canonicalTag tag) members).replace
    (.text (canonicalTag tag))
  have htype' := get?_translate_type htype
  rw [translate_of_type htype] at htype' ⊢
  rw [translate_of_type htype', canonicalTag_canonicalTag, hsettled.translateProperties_eq_self,
    Json.replace_replace]

end

/-! ## Declarations in the words of a document -/

/-- What must be said of the properties of a kind leaves nothing to translate. -/
theorem settled_of_accepted {kind : Kind} {members : List (String × Json)}
    (h : ∀ p ∈ kind.properties, p.Accepted (.object members)) : Settled kind.tag members where
  renamed before after hrenaming hfree := by
    cases kind with
    | relation =>
      cases hrenaming
      obtain ⟨target, hto, -⟩ := h .to (by decide)
      exact absurd (hto.symm.trans hfree) (by simp)
    | select =>
      cases hrenaming
      obtain ⟨options, hoptions, -⟩ := h .options (by decide)
      exact absurd (hoptions.symm.trans hfree) (by simp)
    | _ => cases hrenaming
  mode hmode hfree := by
    have hlisted : .mode ∈ kind.properties := by
      revert hmode
      cases kind <;> decide
    rcases h .mode hlisted with hsingle | hmultiple
    · exact absurd (hsingle.symm.trans hfree) (by simp)
    · exact absurd (hmultiple.symm.trans hfree) (by simp)

theorem canonicalTag_tag (kind : Kind) : canonicalTag kind.tag = kind.tag := by
  cases kind <;> decide

end Catalog

/-- A field is read by the members that the keys give. -/
theorem Field.ofDeclaration_congr {members members' : List (String × Json)}
    (h : ∀ key, members'.lookup key = members.lookup key) :
    ofDeclaration (.object members') = ofDeclaration (.object members) := by
  have hform (kind : Kind) : Declaration.form members' kind = Declaration.form members kind := by
    cases kind <;> simp only [Declaration.form, Declaration.named, h]
  simp only [ofDeclaration, Declaration.fieldName, Declaration.fieldKind, h, hform]

/-! ## The laws -/

/-- What declares a field in the words of a document is not translated, whatever it says in the
words of the catalog besides, and the field is read from it as before. -/
theorem a_declared_field_is_not_translated (raw : Json) (f : Field)
    (h : Field.ofDeclaration raw = .ok f) :
    (raw.Keyed → Catalog.translate raw = raw) ∧
      (∀ key, (Catalog.translate raw).get? key = raw.get? key) ∧
        Field.ofDeclaration (Catalog.translate raw) = .ok f := by
  obtain ⟨⟨⟨members, rfl⟩, -, tag, properties, hlisted, htype, haccepted⟩, -⟩ :=
    Field.declared_of_ok h
  obtain ⟨rfl, rfl⟩ := (mem_vocabulary_iff _ _ _).mp hlisted
  have hsettled := Catalog.settled_of_accepted haccepted
  have htranslate : Catalog.translate (.object members) =
      .object (Json.replace "type" (.text f.kind.tag) members) := by
    rw [Catalog.translate_of_type htype, Catalog.canonicalTag_tag,
      hsettled.translateProperties_eq_self]
  have hlookup (key : String) :
      (Json.replace "type" (.text f.kind.tag) members).lookup key = members.lookup key := by
    rw [Json.lookup_replace]
    split
    · rename_i hkey
      have hgiven : members.lookup "type" = some (.text f.kind.tag) := htype
      rw [hkey, hgiven]
      rfl
    · rfl
  rw [htranslate]
  refine ⟨?_, hlookup, ?_⟩
  · intro hkeyed
    rw [Json.keyed_object] at hkeyed
    rw [Json.replace_eq_self]
    intro j hj
    have hgiven := (lookup_eq_some_iff_mem hkeyed.1).mpr hj
    exact Option.some.inj (hgiven.symm.trans htype)
  · rw [Field.ofDeclaration_congr hlookup, h]

/-- Who lends a book: the words of a document are all there, and those of the catalog say
otherwise. -/
def lender : Json :=
  .object [("collectionId", .text "pbc_books"), ("maxSelect", .number (.int 1)),
    ("mode", .text "multiple"), ("name", .text "lender"), ("options", .bool true),
    ("to", .text "readers"), ("type", .text "relation"), ("values", .null)]

theorem the_lender_is_not_translated :
    Field.ofDeclaration lender = .ok ⟨"lender", .relation "readers" .multiple false⟩ ∧
      Catalog.translate lender = lender ∧
        Field.ofDeclaration (Catalog.translate lender) =
          .ok ⟨"lender", .relation "readers" .multiple false⟩ := by
  have hkeyed : lender.Keyed := by
    rw [lender, Json.keyed_object]
    refine ⟨by decide, ?_⟩
    simp only [List.forall_mem_cons, List.not_mem_nil, false_implies, implies_true, and_true]
    exact ⟨.text _, .number _, .text _, .text _, .bool _, .text _, .text _, .null⟩
  have h := a_declared_field_is_not_translated lender _ rfl
  exact ⟨rfl, h.1 hkeyed, h.2.2⟩

/-- A translation is done for good, and nothing is lost in it: of a value that gives no type
everything stays, and of any other one what the translation does not move or add. -/
theorem a_translation_is_final_and_loses_nothing (raw : Json) :
    Catalog.translate (Catalog.translate raw) = Catalog.translate raw ∧
      ((∀ tag, raw.get? "type" ≠ some (.text tag)) → Catalog.translate raw = raw) ∧
        ∀ tag, raw.get? "type" = some (.text tag) →
          Catalog.TranslatesTo tag raw (Catalog.translate raw) := by
  by_cases h : ∃ tag, raw.get? "type" = some (.text tag)
  · obtain ⟨tag, htype⟩ := h
    obtain ⟨members, rfl⟩ : ∃ members, raw = .object members := by
      cases raw with
      | object members => exact ⟨members, rfl⟩
      | _ => cases htype
    refine ⟨Catalog.translate_translate_object htype, fun hnone => absurd htype (hnone tag), ?_⟩
    intro other hother
    exact Catalog.translatesTo hother
  · rw [not_exists] at h
    rw [Catalog.translate_of_no_type h, Catalog.translate_of_no_type h]
    exact ⟨rfl, fun _ => rfl, fun tag htype => absurd htype (h tag)⟩

/-- The cover of a book, which is hard or soft as soon as someone says so. -/
def cover : Json :=
  .object [("maxSelect", .number (.int 1)), ("name", .null), ("to", .bool true),
    ("type", .text "select"), ("values", .null)]

theorem the_cover_is_translated_for_good :
    Catalog.translate (Catalog.translate cover) = Catalog.translate cover ∧
      cover.get? "type" = some (.text "select") ∧
        Catalog.TranslatesTo "select" cover (Catalog.translate cover) := by
  have h := a_translation_is_final_and_loses_nothing cover
  exact ⟨h.1, rfl, h.2.2 "select" rfl⟩

/-- The values go over though they are none, and the target of no relation stays where it is. -/
example : Catalog.translate cover =
    .object [("maxSelect", .number (.int 1)), ("mode", .text "single"), ("name", .null),
      ("options", .null), ("to", .bool true), ("type", .text "select")] := rfl

end StoreClient
