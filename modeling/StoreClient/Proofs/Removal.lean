-- The law of removal: a collection that no other collection leads to can be taken out of its
-- document, and nothing else changes. It does not matter that its id or its name may be the
-- target of a relation that leads somewhere else.
import StoreClient.Proofs.Expansions

namespace StoreClient

/-! ## Lists without one of their elements -/

section

variable {α β : Type}

/-- What is found first is still found first when some other element is taken out. -/
theorem find?_eraseIdx {p : α → Bool} {as : List α} {i : Nat}
    (h : ∀ a, as[i]? = some a → as.find? p ≠ some a) :
    (as.eraseIdx i).find? p = as.find? p := by
  induction as generalizing i with
  | nil => rfl
  | cons a rest ih =>
    by_cases hp : p a = true
    · cases i with
      | zero => exact absurd (List.find?_cons_of_pos hp) (h a rfl)
      | succ i => rw [List.eraseIdx_cons_succ, List.find?_cons_of_pos hp, List.find?_cons_of_pos hp]
    · rw [List.find?_cons_of_neg hp] at h ⊢
      cases i with
      | zero => rfl
      | succ i =>
        rw [List.eraseIdx_cons_succ, List.find?_cons_of_neg hp]
        apply ih
        intro b hb
        exact h b hb

variable {r : α → β → Prop} {as : List α} {bs : List β}

/-- The partner of an element stands at the same position. -/
theorem exists_partner_at (h : List.Forall₂ r as bs) {i : Nat} {a : α} (ha : as[i]? = some a) :
    ∃ b, bs[i]? = some b ∧ r a b := by
  induction h generalizing i with
  | nil => cases ha
  | @cons x y _ _ hxy _ ih =>
    cases i with
    | zero =>
      cases ha
      exact ⟨y, rfl, hxy⟩
    | succ i => exact ih ha

theorem forall₂_eraseIdx (h : List.Forall₂ r as bs) (i : Nat) :
    List.Forall₂ r (as.eraseIdx i) (bs.eraseIdx i) := by
  induction h generalizing i with
  | nil => exact .nil
  | cons hab hrest ih =>
    cases i with
    | zero => exact hrest
    | succ i => exact .cons hab (ih i)

end

/-! ## Relations without one of the collections -/

namespace Collection

variable {cs : List Collection} {i : Nat}

/-- A target that does not lead to the collection taken out leads where it led. The id goes before
the name, so a name that is taken out does not matter where an id is found. -/
theorem target?_eraseIdx {target : String}
    (h : ∀ c, cs[i]? = some c → target? cs target ≠ some c) :
    target? (cs.eraseIdx i) target = target? cs target := by
  have hid : (cs.eraseIdx i).find? (fun c => c.id = some target) =
      cs.find? fun c => c.id = some target := by
    apply find?_eraseIdx
    intro c hc hfound
    exact h c hc (by rw [target?, hfound, Option.some_or])
  unfold target?
  rw [hid]
  cases hfind : cs.find? (fun c => c.id = some target) with
  | some found => rfl
  | none =>
    rw [Option.none_or, Option.none_or]
    apply find?_eraseIdx
    intro c hc hfound
    exact h c hc (by rw [target?, hfind, Option.none_or, hfound])

end Collection

/-- A field that does not lead to the collection at a position. -/
def Field.Avoids (f : Field) (cs : List Collection) (i : Nat) : Prop :=
  ∀ c, cs[i]? = some c → ∀ e ∈ f.expansion? cs, e.collection ≠ c.name

namespace Field

variable {f : Field} {cs : List Collection} {i : Nat}

theorem Avoids.target?_eq (h : f.Avoids cs i) {target : String} {mode : Cardinality}
    (hrel : f.relation? = some (target, mode)) :
    Collection.target? (cs.eraseIdx i) target = Collection.target? cs target := by
  apply Collection.target?_eraseIdx
  intro c hc hfound
  have hexpansion : f.expansion? cs = some ⟨f.name, c.name, c.typeName, mode⟩ := by
    simp [expansion?, hrel, hfound]
  exact h c hc _ hexpansion rfl

theorem Avoids.expansion?_eq (h : f.Avoids cs i) :
    f.expansion? (cs.eraseIdx i) = f.expansion? cs := by
  unfold expansion?
  cases hrel : f.relation? with
  | none => rfl
  | some r =>
    obtain ⟨target, mode⟩ := r
    simp only [Option.bind_some, h.target?_eq hrel]

theorem Avoids.resolves (h : f.Avoids cs i) (hf : f.Resolves cs) :
    f.Resolves (cs.eraseIdx i) := by
  intro target mode hrel
  rw [h.target?_eq hrel]
  exact hf target mode hrel

end Field

theorem Collection.shapes_eraseIdx {policy : EmptyListPolicy} {cs : List Collection} {i : Nat}
    {c : Collection} (h : ∀ f ∈ c.fields, f.Avoids cs i) :
    c.shapes policy (cs.eraseIdx i) = c.shapes policy cs := by
  have hexpand : c.fields.filterMap (·.expansion? (cs.eraseIdx i)) =
      c.fields.filterMap (·.expansion? cs) := by
    apply List.filterMap_congr
    intro f hf
    exact (h f hf).expansion?_eq
  simp only [shapes, hexpand]

/-! ## The law -/

/-- A document without the collection at a position. -/
def Document.without (d : Document) (position : Nat) : Document where
  collections := d.collections.eraseIdx position

/-- A schema without the bundle at a position. -/
def Schema.without (s : Schema) (position : Nat) : Schema where
  bundles := s.bundles.eraseIdx position

/-- A collection that no other bundle expands to can be taken out: the rest of the document
compiles, and all that is missing is the bundle of that collection. -/
theorem an_unreferenced_collection_leaves_alone (policy : EmptyListPolicy) (d : Document)
    (s : Schema) (h : d.compile policy = .ok s) (position : Nat) (c : CollectionDeclaration)
    (hc : d.collections[position]? = some c)
    (hfree : ∀ other b, other ≠ position → s.bundles[other]? = some b →
      ∀ e ∈ b.expand, e.collection ≠ c.name) :
    (∃ b, s.bundles[position]? = some b ∧ b.name = c.name ∧ b.id = c.id) ∧
      (d.without position).compile policy = .ok (s.without position) := by
  obtain ⟨cs, hcs, husable, hapart, hresolve, rfl⟩ := (d.compile_ok_iff policy s).mp h
  obtain ⟨x, hx, hcx⟩ := exists_partner_at hcs hc
  have havoids : ∀ y ∈ cs.eraseIdx position, ∀ f ∈ y.fields, f.Avoids cs position := by
    intro y hy f hf removed hremoved e he
    obtain ⟨other, hne, hy⟩ := List.mem_eraseIdx_iff_getElem?.mp hy
    rw [hx, Option.some.injEq] at hremoved
    rw [← hremoved, hcx.name_eq]
    refine hfree other (y.shapes policy cs) hne ?_ e (List.mem_filterMap.mpr ⟨f, hf, he⟩)
    rw [List.getElem?_map, hy]
    rfl
  constructor
  · refine ⟨x.shapes policy cs, ?_, hcx.name_eq, hcx.id_eq⟩
    rw [List.getElem?_map, hx]
    rfl
  · refine ((d.without position).compile_ok_iff policy _).mpr
      ⟨cs.eraseIdx position, forall₂_eraseIdx hcs position, ?_, ?_, ?_, ?_⟩
    · exact fun y hy => husable y (List.mem_of_mem_eraseIdx hy)
    · exact hapart.sublist (List.eraseIdx_sublist _ _)
    · intro y hy f hf
      exact (havoids y hy f hf).resolves (hresolve y (List.mem_of_mem_eraseIdx hy) f hf)
    · have hshapes : (cs.eraseIdx position).map (Collection.shapes policy (cs.eraseIdx position)) =
          (cs.eraseIdx position).map (Collection.shapes policy cs) := by
        apply List.map_congr_left
        intro y hy
        exact Collection.shapes_eraseIdx (havoids y hy)
      rw [Schema.without, hshapes, List.eraseIdx_map]

/-- The rooms of the library can go: their name is also the id of the shelves, and the books lead
to those. -/
theorem the_library_keeps_its_shelves : ∃ s, library.compile .null = .ok s ∧
    (∀ b ∈ s.bundles, ∀ e ∈ b.expand, e.collection ≠ "rooms") ∧
      (library.without 2).compile .null = .ok (s.without 2) := by
  obtain ⟨s, hs, hfree⟩ : ∃ s, library.compile .null = .ok s ∧
      ∀ b ∈ s.bundles, ∀ e ∈ b.expand, e.collection ≠ "rooms" := ⟨_, rfl, by decide⟩
  have hothers (other : Nat) (b : Bundle) (_ : other ≠ 2) (hb : s.bundles[other]? = some b) :
      ∀ e ∈ b.expand, e.collection ≠ "rooms" := hfree b (List.mem_of_getElem? hb)
  exact ⟨s, hs, hfree,
    (an_unreferenced_collection_leaves_alone .null library s hs 2 _ rfl hothers).2⟩

end StoreClient
