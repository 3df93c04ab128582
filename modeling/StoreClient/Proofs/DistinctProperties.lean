-- The law of properties: when no object type in the text of the generated client has a property
-- twice. The properties of its own types are the names in the shapes, and these differ because the
-- fields of a collection and their patches do. But the name of a collection may end its comment,
-- and then it may go on with types of any kind.
import Mathlib.Data.List.Nodup
import StoreClient.Proofs.ClientTypes

namespace StoreClient

/-! ## Types that say nothing twice -/

namespace ClientText

/-- No property, and no text of a union, stands twice. -/
def TypeBody.IsDistinct : TypeBody → Prop
  | object properties => properties.Nodup
  | texts values => values.Nodup
  | extended _ _ | other => True

instance : DecidablePred TypeBody.IsDistinct
  | .object properties => inferInstanceAs (Decidable properties.Nodup)
  | .texts values => inferInstanceAs (Decidable values.Nodup)
  | .extended _ _ | .other => instDecidableTrue

theorem distinct_helperBodies : ∀ t ∈ helperBodies, t.2.IsDistinct := by decide

theorem distinct_clientBodies {names : List String} (h : names.Nodup) :
    ∀ t ∈ clientBodies names, t.2.IsDistinct := by
  simp only [clientBodies, List.forall_mem_cons, List.not_mem_nil, false_implies, implies_true,
    and_true]
  exact ⟨h, trivial, by decide⟩

end ClientText

open ClientText (TypeBody)

namespace Bundle

variable {b : Bundle}

theorem readField?_isSome_iff (name : String) :
    (b.readField? name).isSome ↔ name ∈ b.read.map (·.name) := by
  simp [readField?, List.find?_isSome]

/-- There is one id, whether it is declared or not. -/
theorem recordNames_once (h : (b.read.map (·.name)).Nodup) :
    b.recordNames.Nodup ∧ b.recordNames.count "id" = 1 := by
  have hid := b.readField?_isSome_iff "id"
  unfold recordNames
  by_cases hdeclared : (b.readField? "id").isSome = true
  · rw [if_pos hdeclared]
    exact ⟨h, List.count_eq_one_of_mem h (hid.mp hdeclared)⟩
  · rw [if_neg hdeclared]
    have hnew : "id" ∉ b.read.map (·.name) := fun hmem => hdeclared (hid.mpr hmem)
    have hnodup : (["id"] ++ b.read.map (·.name)).Nodup := List.nodup_cons.mpr ⟨hnew, h⟩
    exact ⟨hnodup, List.count_eq_one_of_mem hnodup List.mem_cons_self⟩

end Bundle

namespace CollectionDeclaration.Declares

variable {d : CollectionDeclaration} {c : Collection} (h : d.Declares c)
  (policy : EmptyListPolicy) (all : List Collection)

include h

theorem distinct_types : ∀ t ∈ (c.shapes policy all).types, t.2.IsDistinct := by
  have hkeys := h.keysApart policy all
  have hrecord := (Bundle.recordNames_once hkeys.read_names).1
  have hrelated : ((c.shapes policy all).expand.map (·.field)).Nodup := Collection.nodup_expand h
  rw [Bundle.types, List.forall_mem_map]
  by_cases hexpand : (c.shapes policy all).hasExpansion = true
  · simp only [Bundle.typeBodies, if_pos hexpand, List.forall_mem_append, List.forall_mem_cons,
      List.not_mem_nil, false_implies, implies_true, and_true]
    exact ⟨⟨⟨hrecord, hrecord, hkeys.create_names, hkeys.create_keys, hkeys.update_names,
      hkeys.update_keys⟩, hrelated, hrelated, trivial, trivial⟩, hrecord, hrelated, trivial⟩
  · simp only [Bundle.typeBodies, if_neg hexpand, List.forall_mem_append, List.forall_mem_cons,
      List.not_mem_nil, false_implies, implies_true, and_true]
    exact ⟨⟨⟨hrecord, hrecord, hkeys.create_names, hkeys.create_keys, hkeys.update_names,
      hkeys.update_keys⟩, trivial, trivial⟩, hrecord, trivial, trivial⟩

end CollectionDeclaration.Declares

/-! ## The law -/

namespace Schema

open ClientText (helperBodies clientBodies)

/-- The types that the client of a schema is to have. -/
def ownTypes (s : Schema) : List (String × TypeBody) :=
  helperBodies ++ s.bundles.flatMap Bundle.types ++ clientBodies (s.bundles.map (·.name))

/-- What the text of the client of a schema says of its types, read where they are laid out like its
own: from the start of a line, with one property on a line. The properties of each own type, and
the texts of each union, are those that the shapes of the collections give it, and none stands
twice; a fetched record has one id. Besides these types there are only those that the name of a
collection declares past its comment, and there are none if it keeps to it. -/
structure PropertiesOnce (s : Schema) : Prop where
  types_eq : ClientText.types (textLines s.clientText) = helperBodies ++
    s.bundles.flatMap (fun b => b.titleTypes ++ b.types) ++ clientBodies (s.bundles.map (·.name))
  own_distinct : ∀ t ∈ s.ownTypes, t.2.IsDistinct
  one_id : ∀ b ∈ s.bundles, b.recordNames.count "id" = 1
  distinct_iff : (∀ t ∈ ClientText.types (textLines s.clientText), t.2.IsDistinct) ↔
    ∀ b ∈ s.bundles, ∀ t ∈ b.titleTypes, t.2.IsDistinct
  keeps_iff : textLines s.clientText = ClientText.lines s.views ++ [""] ↔
    ∀ b ∈ s.bundles, KeepsToLine b.name
  of_keeps : (∀ b ∈ s.bundles, KeepsToLine b.name) →
    ClientText.types (textLines s.clientText) = s.ownTypes

/-- The own types stand among all, one collection after the other. -/
theorem forall_types_iff {s : Schema} {p : String × TypeBody → Prop}
    (hown : ∀ t ∈ s.ownTypes, p t) :
    (∀ t ∈ helperBodies ++ s.bundles.flatMap (fun b => b.titleTypes ++ b.types) ++
      clientBodies (s.bundles.map (·.name)), p t) ↔ ∀ b ∈ s.bundles, ∀ t ∈ b.titleTypes, p t := by
  simp only [ownTypes, List.forall_mem_append, List.forall_mem_flatMap] at hown ⊢
  constructor
  · rintro ⟨⟨-, hparts⟩, -⟩
    exact fun b hb => (hparts b hb).1
  · intro htitles
    exact ⟨⟨hown.1.1, fun b hb => ⟨htitles b hb, hown.1.2 b hb⟩⟩, hown.2⟩

/-- What is left to show once the types in the text are known. -/
theorem propertiesOnce {s : Schema} (hunbroken : ∀ v ∈ s.views, v.Unbroken)
    (htypes : ClientText.types (textLines s.clientText) = helperBodies ++
      s.bundles.flatMap (fun b => b.titleTypes ++ b.types) ++
        clientBodies (s.bundles.map (·.name)))
    (hown : ∀ t ∈ s.ownTypes, t.2.IsDistinct)
    (hid : ∀ b ∈ s.bundles, b.recordNames.count "id" = 1) : s.PropertiesOnce := by
  have hviews : (∀ v ∈ s.views, KeepsToLine v.name) ↔ ∀ b ∈ s.bundles, KeepsToLine b.name := by
    rw [views, List.forall_mem_map]
    rfl
  refine ⟨htypes, hown, hid, ?_, ?_, fun hkeeps => ?_⟩
  · rw [htypes, forall_types_iff hown]
  · exact (textLines_clientText_eq_iff hunbroken).trans hviews
  · have hparts : s.bundles.flatMap (fun b => b.titleTypes ++ b.types) =
        s.bundles.flatMap Bundle.types := by
      refine List.flatMap_congr fun b hb => ?_
      rw [Bundle.titleTypes_eq_nil (hkeeps b hb), List.nil_append]
    rw [htypes, ownTypes, hparts]

end Schema

/-- The types of the client of a compiled document have no property twice, unless the name of a
collection ends its comment and declares one that has. -/
theorem no_type_repeats_a_property (policy : EmptyListPolicy) (d : Document) (s : Schema)
    (h : d.compile policy = .ok s) : s.PropertiesOnce := by
  have hunbroken := Document.unbroken_views h
  have htypes := Document.types_clientText h
  obtain ⟨cs, hcs, -, hapart, -, rfl⟩ := (d.compile_ok_iff policy s).mp h
  have hdeclared : ∀ c ∈ cs, ∃ declaration, CollectionDeclaration.Declares declaration c := by
    intro c hc
    obtain ⟨declaration, -, hdeclares⟩ := exists_partner hcs.flip hc
    exact ⟨declaration, hdeclares⟩
  have hnames : (cs.map (Collection.shapes policy cs)).map (·.name) = cs.map (·.name) := by
    rw [List.map_map]
    rfl
  refine Schema.propertiesOnce hunbroken htypes ?_ ?_
  · have hcollections : ∀ t ∈ (cs.map (Collection.shapes policy cs)).flatMap Bundle.types,
        t.2.IsDistinct := by
      intro t ht
      obtain ⟨b, hb, ht⟩ := List.mem_flatMap.mp ht
      obtain ⟨c, hc, rfl⟩ := List.mem_map.mp hb
      obtain ⟨declaration, hdeclares⟩ := hdeclared c hc
      exact hdeclares.distinct_types policy cs t ht
    have htable : ((cs.map (Collection.shapes policy cs)).map (·.name)).Nodup := by
      rw [hnames]
      exact ((Collection.pairwise_apart_iff cs).mp hapart).1
    exact List.forall_mem_append.mpr ⟨List.forall_mem_append.mpr
      ⟨ClientText.distinct_helperBodies, hcollections⟩, ClientText.distinct_clientBodies htable⟩
  · rw [List.forall_mem_map]
    intro c hc
    obtain ⟨declaration, hdeclares⟩ := hdeclared c hc
    exact (Bundle.recordNames_once (hdeclares.keysApart policy cs).read_names).2

/-- Lockers: the password of a locker is called `id`, and its keys may be added to or taken out. -/
def lockers : Document where
  collections := [
    { id := none, name := "lockers", singular := some "locker", plural := none, fields := [
      .object [("name", .text "id"), ("type", .text "password")],
      .object [("name", .text "first name"), ("type", .text "plainText")],
      .object [("name", .text "keys"), ("type", .text "file"), ("mode", .text "multiple")],
      .object [("name", .text "next"), ("type", .text "relation"), ("to", .text "lockers"),
        ("mode", .text "single")]] }]

theorem the_lockers_repeat_no_property : ∃ s, lockers.compile .null = .ok s ∧ s.PropertiesOnce ∧
    ∀ t ∈ ClientText.types (textLines s.clientText), t.2.IsDistinct := by
  obtain ⟨s, hs, b, hbundles, htitle⟩ : ∃ s, lockers.compile .null = .ok s ∧
      ∃ b, s.bundles = [b] ∧ b.titleTypes = [] := ⟨_, rfl, _, rfl, rfl⟩
  have hlaw := no_type_repeats_a_property .null lockers s hs
  refine ⟨s, hs, hlaw, hlaw.distinct_iff.mpr ?_⟩
  rw [hbundles, List.forall_mem_singleton, htitle]
  exact List.forall_mem_nil _

/-- The password is never fetched, so the id of a locker is that of every record. -/
example : ((lockers.compile .null).map fun s => s.bundles.map (·.recordNames)) =
    .ok [["id", "first name", "keys", "next"]] := rfl

/-- Boxes, under a name that goes on with a type. -/
def boxes : Document where
  collections := [
    { id := none, name := "boxes\nexport type Box = \x7b\n  size: string;\n  size: number;\n\x7d;",
      singular := some "box", plural := some "boxes", fields := [] }]

/-- The document compiles, although the text then says of a box that it has two sizes. -/
theorem the_name_of_the_boxes_repeats_a_property : ∃ s, boxes.compile .null = .ok s ∧
    ∃ b ∈ s.bundles, ∃ t ∈ ClientText.types (textLines s.clientText), t.1 = b.typeName ∧
      t.2 = .object ["size", "size"] ∧ ¬ t.2.IsDistinct := by
  obtain ⟨s, hs, b, hbundles, htype, htitle⟩ : ∃ s, boxes.compile .null = .ok s ∧
      ∃ b, s.bundles = [b] ∧ b.typeName = "Box" ∧
        b.titleTypes = [("Box", .object ["size", "size"])] :=
    ⟨_, rfl, _, rfl, rfl, rfl⟩
  have hb : b ∈ s.bundles := hbundles ▸ List.mem_cons_self
  have hmem : ("Box", TypeBody.object ["size", "size"]) ∈
      ClientText.types (textLines s.clientText) := by
    rw [Document.types_clientText hs]
    refine List.mem_append_left _ (List.mem_append_right _ ?_)
    refine List.mem_flatMap.mpr ⟨b, hb, List.mem_append_left _ ?_⟩
    exact htitle ▸ List.mem_cons_self
  exact ⟨s, hs, b, hb, _, hmem, htype.symm, rfl, by decide⟩

end StoreClient
