-- The law of declaration order: in which order collections and fields are declared decides the
-- order of what is made of them, and nothing else. Whether two names clash and where a relation
-- leads is the same in every order, and a field adds the same entries wherever it stands.
import Mathlib.Data.List.Perm.Basic
import StoreClient.Proofs.Expansions

namespace StoreClient

/-! ## Partners in another order -/

/-- Each element of one list has its partner in the other list, where the partners may stand in
another order. -/
def Rearranged {α β : Type} (r : α → β → Prop) (as : List α) (bs : List β) : Prop :=
  ∃ cs, List.Forall₂ r as cs ∧ cs.Perm bs

namespace Rearranged

variable {α β γ δ : Type} {r : α → β → Prop} {as : List α} {bs : List β}

theorem of_perm {as' : List α} (hperm : as.Perm as') (h : Rearranged r as' bs) :
    Rearranged r as bs := by
  obtain ⟨cs, hcs, hbs⟩ := h
  obtain ⟨ds, hds, hcs'⟩ := List.perm_comp_forall₂ hperm hcs
  exact ⟨ds, hds, hcs'.trans hbs⟩

theorem symm (h : Rearranged r as bs) : Rearranged (fun b a => r a b) bs as := by
  obtain ⟨cs, hcs, hbs⟩ := h
  exact of_perm hbs.symm ⟨as, hcs.flip, .refl as⟩

theorem imp {r' : α → β → Prop} (h : Rearranged r as bs) (hr : ∀ a b, r a b → r' a b) :
    Rearranged r' as bs := by
  obtain ⟨cs, hcs, hbs⟩ := h
  exact ⟨cs, hcs.imp hr, hbs⟩

/-- What partners have in common stands in both lists, in two orders. -/
theorem map_perm {f : α → γ} {g : β → γ} (h : Rearranged r as bs)
    (hfg : ∀ a b, r a b → f a = g b) : (as.map f).Perm (bs.map g) := by
  obtain ⟨cs, hcs, hbs⟩ := h
  have heq : as.map f = cs.map g := map_eq_of_forall₂ (hcs.imp hfg)
  rw [heq]
  exact hbs.map g

theorem of_map {f : α → γ} {g : β → δ} {r : γ → δ → Prop}
    (h : Rearranged (fun a b => r (f a) (g b)) as bs) : Rearranged r (as.map f) (bs.map g) := by
  obtain ⟨cs, hcs, hbs⟩ := h
  refine ⟨cs.map g, ?_, hbs.map g⟩
  rw [List.forall₂_map_left_iff, List.forall₂_map_right_iff]
  exact hcs

theorem of_map_left {f : γ → α} {cs : List γ} (h : Rearranged r (cs.map f) bs) :
    Rearranged (fun c b => r (f c) b) cs bs := by
  obtain ⟨ds, hds, hbs⟩ := h
  exact ⟨ds, List.forall₂_map_left_iff.mp hds, hbs⟩

/-- Partners that are parts of something larger: the larger things are partners too. -/
theorem exists_lift {r' : α → γ → Prop} {g : γ → β} (h : Rearranged r as bs)
    (hlift : ∀ a ∈ as, ∀ b, r a b → ∃ c, g c = b ∧ r' a c) :
    ∃ cs, cs.map g = bs ∧ Rearranged r' as cs := by
  obtain ⟨bs', hbs', hperm⟩ := h
  have hlifted : ∃ cs, cs.map g = bs' ∧ List.Forall₂ r' as cs := by
    clear hperm
    induction hbs' with
    | nil => exact ⟨[], rfl, .nil⟩
    | cons hab _ ih =>
      rw [List.forall_mem_cons] at hlift
      obtain ⟨c, rfl, hc⟩ := hlift.1 _ hab
      obtain ⟨cs, rfl, hcs⟩ := ih hlift.2
      exact ⟨c :: cs, rfl, .cons hc hcs⟩
  obtain ⟨cs', rfl, hcs'⟩ := hlifted
  have hparts : List.Forall₂ (fun b c => b = g c) (cs'.map g) cs' :=
    List.forall₂_map_left_iff.mpr (List.forall₂_same.mpr fun _ _ => rfl)
  obtain ⟨cs, hcs, hperm'⟩ := List.perm_comp_forall₂ hperm.symm hparts
  refine ⟨cs, ?_, cs', hcs', hperm'.symm⟩
  rw [← List.forall₂_map_right_iff (f := g), List.forall₂_eq_eq_eq] at hcs
  exact hcs.symm

theorem forall_mem {p : α → Prop} {q : β → Prop} (h : Rearranged r as bs)
    (hpq : ∀ a b, r a b → (p a ↔ q b)) : (∀ a ∈ as, p a) ↔ ∀ b ∈ bs, q b := by
  obtain ⟨cs, hcs, hbs⟩ := h
  rw [forall_mem_iff_of_forall₂ hcs hpq]
  simp only [hbs.mem_iff]

end Rearranged

/-- If an element can only be one, it is found in every order. -/
theorem find?_eq_of_perm {α : Type} {p : α → Bool} {as bs : List α}
    (hone : as.Pairwise fun x y => ¬ (p x ∧ p y)) (h : as.Perm bs) : as.find? p = bs.find? p := by
  cases hfind : as.find? p with
  | none =>
    rw [List.find?_eq_none] at hfind
    exact (List.find?_eq_none.mpr fun b hb => hfind b (h.mem_iff.mpr hb)).symm
  | some a =>
    have hfilter := h.filter p
    rw [filter_eq_of_find? hone hfind, List.singleton_perm] at hfilter
    rw [← List.head?_filter, ← hfilter, List.head?_cons]

/-! ## Documents in another order -/

/-- The same collection, with its fields declared in another order. -/
structure CollectionDeclaration.Reordered (a b : CollectionDeclaration) : Prop where
  id_eq : b.id = a.id
  name_eq : b.name = a.name
  singular_eq : b.singular = a.singular
  plural_eq : b.plural = a.plural
  fields_perm : a.fields.Perm b.fields

/-- The same document, with its collections and the fields of each declared in another order. -/
def Document.Reordered (d d' : Document) : Prop :=
  Rearranged CollectionDeclaration.Reordered d.collections d'.collections

theorem CollectionDeclaration.Reordered.symm {a b : CollectionDeclaration} (h : a.Reordered b) :
    b.Reordered a :=
  ⟨h.id_eq.symm, h.name_eq.symm, h.singular_eq.symm, h.plural_eq.symm, h.fields_perm.symm⟩

theorem Document.Reordered.symm {d d' : Document} (h : d.Reordered d') : d'.Reordered d :=
  (Rearranged.symm h).imp fun _ _ hab => hab.symm

/-- The same collection, with its fields in another order. -/
structure Collection.Reordered (a b : Collection) : Prop where
  id_eq : b.id = a.id
  name_eq : b.name = a.name
  singular_eq : b.singular = a.singular
  plural_eq : b.plural = a.plural
  fields_perm : a.fields.Perm b.fields

namespace Collection.Reordered

variable {a b : Collection} (h : a.Reordered b)

include h

theorem typeName_eq : b.typeName = a.typeName := by
  simp only [typeName, h.singular_eq, h.name_eq]

theorem pluralTypeName_eq : b.pluralTypeName = a.pluralTypeName := by
  simp only [pluralTypeName, h.plural_eq, h.name_eq]

theorem usable_iff : a.Usable ↔ b.Usable := by
  simp only [Usable, h.typeName_eq, h.pluralTypeName_eq]

end Collection.Reordered

/-- What declares a collection declares it in every order of the fields. No check minds which of
two clashing names comes first. -/
theorem CollectionDeclaration.Declares.reordered {a b : CollectionDeclaration} {c : Collection}
    (h : a.Declares c) (hab : a.Reordered b) : ∃ c', b.Declares c' ∧ c.Reordered c' := by
  obtain ⟨fs, hfs, hperm⟩ := List.perm_comp_forall₂ hab.fields_perm.symm h.fields
  refine ⟨⟨c.id, c.name, c.singular, c.plural, fs⟩, ?_, rfl, rfl, rfl, rfl, hperm.symm⟩
  have hnames := hperm.map (·.name)
  have hpatches := hperm.flatMap_right (·.companionNames)
  exact
    { named := by rw [hab.name_eq]; exact h.named
      fields := hfs
      names_differ := hnames.nodup_iff.mpr h.names_differ
      patches_differ := hpatches.nodup_iff.mpr h.patches_differ
      patches_are_new := fun n hn hmem =>
        h.patches_are_new n (hpatches.mem_iff.mp hn) (hnames.mem_iff.mp hmem)
      id_eq := h.id_eq.trans hab.id_eq.symm
      name_eq := h.name_eq.trans hab.name_eq.symm
      singular_eq := h.singular_eq.trans hab.singular_eq.symm
      plural_eq := h.plural_eq.trans hab.plural_eq.symm }

/-- Partners side by side as pairs. -/
theorem exists_pairs {α β : Type} {r : α → β → Prop} {as : List α} {bs : List β}
    (h : List.Forall₂ r as bs) :
    ∃ ps : List (α × β), ps.map (·.1) = as ∧ ps.map (·.2) = bs ∧ ∀ p ∈ ps, r p.1 p.2 := by
  obtain ⟨hlength, hall⟩ := List.forall₂_iff_zip.mp h
  exact ⟨as.zip bs, List.map_fst_zip (Nat.le_of_eq hlength),
    List.map_snd_zip (Nat.le_of_eq hlength.symm), fun _ hp => hall hp⟩

/-- A declaration beside its collection, in two orders of the fields. -/
structure DeclaredTwice (p q : CollectionDeclaration × Collection) : Prop where
  before : p.1.Declares p.2
  after : q.1.Declares q.2
  declarations : p.1.Reordered q.1
  collections : p.2.Reordered q.2

/-- The declarations of a document in another order, beside the collections that they declare
then. -/
theorem exists_declaredTwice {ps : List (CollectionDeclaration × Collection)}
    {ds : List CollectionDeclaration} (hps : ∀ p ∈ ps, p.1.Declares p.2)
    (h : Rearranged (fun p d => p.1.Reordered d) ps ds) :
    ∃ qs : List (CollectionDeclaration × Collection), qs.map (·.1) = ds ∧
      Rearranged DeclaredTwice ps qs := by
  refine h.exists_lift fun p hp d hd => ?_
  obtain ⟨c, hc, hreordered⟩ := (hps p hp).reordered hd
  exact ⟨(d, c), rfl, hps p hp, hc, hd, hreordered⟩

namespace Collection

variable {cs cs' : List Collection}

/-- What other collections see of a collection. -/
def label (c : Collection) : Option String × String × String := (c.id, c.name, c.typeName)

theorem map_label_target? (cs : List Collection) (target : String) :
    (target? cs target).map label =
      ((cs.map label).find? fun l => l.1 = some target).or
        ((cs.map label).find? fun l => l.2.1 = target) := by
  simp only [target?, Option.map_or, List.find?_map]
  rfl

/-- A target leads to the same collection in every order. -/
theorem map_label_target?_eq (h : Rearranged Reordered cs cs') (hapart : cs.Pairwise Apart)
    (target : String) :
    (target? cs target).map label = (target? cs' target).map label := by
  have hlabels : (cs.map label).Perm (cs'.map label) :=
    h.map_perm fun a b hab => by simp only [label, hab.id_eq, hab.name_eq, hab.typeName_eq]
  rw [map_label_target?, map_label_target?, find?_eq_of_perm _ hlabels, find?_eq_of_perm _ hlabels]
  · refine List.pairwise_map.mpr (hapart.imp fun hab hboth => ?_)
    exact hab.names ((of_decide_eq_true hboth.1).trans (of_decide_eq_true hboth.2).symm)
  · refine List.pairwise_map.mpr (hapart.imp fun hab hboth => ?_)
    exact hab.ids target (of_decide_eq_true hboth.1) (of_decide_eq_true hboth.2)

theorem expansion?_eq (h : Rearranged Reordered cs cs') (hapart : cs.Pairwise Apart) (f : Field) :
    f.expansion? cs = f.expansion? cs' := by
  have hlabel (r : String × Cardinality) :
      ((target? cs r.1).map fun c => (⟨f.name, c.name, c.typeName, r.2⟩ : Expansion)) =
        (target? cs' r.1).map fun c => ⟨f.name, c.name, c.typeName, r.2⟩ := by
    have := congrArg (Option.map fun l => (⟨f.name, l.2.1, l.2.2, r.2⟩ : Expansion))
      (map_label_target?_eq h hapart r.1)
    simpa only [Option.map_map, Function.comp_def, label] using this
  simp only [Field.expansion?, hlabel]

theorem resolves_iff (h : Rearranged Reordered cs cs') (hapart : cs.Pairwise Apart) (f : Field) :
    f.Resolves cs ↔ f.Resolves cs' := by
  have hsome (target : String) : (target? cs target).isSome = (target? cs' target).isSome := by
    simpa only [Option.isSome_map] using
      congrArg Option.isSome (map_label_target?_eq h hapart target)
  simp only [Field.Resolves, hsome]

theorem pairwise_apart_of_reordered (h : Rearranged Reordered cs cs') (hapart : cs.Pairwise Apart) :
    cs'.Pairwise Apart := by
  have hids : (cs.filterMap (·.id)).Perm (cs'.filterMap (·.id)) := by
    have hperm : (cs.map (·.id)).Perm (cs'.map (·.id)) := h.map_perm fun a b hab => hab.id_eq.symm
    simpa only [List.filterMap_map, Function.comp_def] using hperm.filterMap fun id => id
  rw [pairwise_apart_iff] at hapart ⊢
  obtain ⟨hnames, hapartIds, htypes, hplurals⟩ := hapart
  exact ⟨(h.map_perm fun a b hab => hab.name_eq.symm).nodup_iff.mp hnames,
    hids.nodup_iff.mp hapartIds,
    (h.map_perm fun a b hab => hab.typeName_eq.symm).nodup_iff.mp htypes,
    (h.map_perm fun a b hab => hab.pluralTypeName_eq.symm).nodup_iff.mp hplurals⟩

end Collection

/-! ## What one field adds -/

/-- All that one field adds to the shapes of its collection. -/
structure Contribution where
  read : List ReadField
  create : List WriteField
  update : List WriteField
  expand : List Expansion
deriving Inhabited

/-- What a declared field adds, among some collections. -/
def Contribution.ofDeclaration (policy : EmptyListPolicy) (all : List Collection) (j : Json) :
    Contribution :=
  match Field.ofDeclaration j with
  | .ok f =>
    { read := (f.readField? policy).toList, create := (f.createField? policy).toList,
      update := f.updateFields policy, expand := (f.expansion? all).toList }
  | .error _ => { read := [], create := [], update := [], expand := [] }

/-- The shapes of a bundle are what declared fields add to them, in the order of the fields. -/
structure Bundle.Gathers (b : Bundle) (part : Json → Contribution) (js : List Json) : Prop where
  read_eq : b.read = js.flatMap fun j => (part j).read
  create_eq : b.create = js.flatMap fun j => (part j).create
  update_eq : b.update = js.flatMap fun j => (part j).update
  expand_eq : b.expand = js.flatMap fun j => (part j).expand

/-- What fields add is gathered from their declarations. -/
theorem flatMap_declared {α : Type} (own : Field → List α) {part : Json → List α} {js : List Json}
    {fs : List Field} (h : List.Forall₂ (fun j f => Field.ofDeclaration j = .ok f) js fs)
    (hpart : ∀ j f, Field.ofDeclaration j = .ok f → part j = own f) :
    fs.flatMap own = js.flatMap part := by
  induction h with
  | nil => rfl
  | cons hj _ ih => rw [List.flatMap_cons, List.flatMap_cons, ih, hpart _ _ hj]

theorem Collection.shapes_gather (policy : EmptyListPolicy) (all : List Collection)
    {d : CollectionDeclaration} {c : Collection} (h : d.Declares c) :
    (c.shapes policy all).Gathers (Contribution.ofDeclaration policy all) d.fields where
  read_eq := by
    rw [← flatMap_declared (fun f => (f.readField? policy).toList) h.fields]
    · exact List.filterMap_eq_flatMap_toList _ _
    · intro j f hj
      simp only [Contribution.ofDeclaration, hj]
  create_eq := by
    rw [← flatMap_declared (fun f => (f.createField? policy).toList) h.fields]
    · exact List.filterMap_eq_flatMap_toList _ _
    · intro j f hj
      simp only [Contribution.ofDeclaration, hj]
  update_eq := by
    rw [← flatMap_declared (fun f => f.updateFields policy) h.fields]
    · rfl
    · intro j f hj
      simp only [Contribution.ofDeclaration, hj]
  expand_eq := by
    rw [← flatMap_declared (fun f => (f.expansion? all).toList) h.fields]
    · exact List.filterMap_eq_flatMap_toList _ _
    · intro j f hj
      simp only [Contribution.ofDeclaration, hj]

/-! ## The law -/

/-- A collection and its bundle in two orders of the declarations: both bundles have the same
names, and every field adds the same entries to both. -/
structure Regrouped (part : Json → Contribution) (x y : CollectionDeclaration × Bundle) :
    Prop where
  reordered : x.1.Reordered y.1
  named : x.2.name = x.1.name
  name_eq : y.2.name = x.2.name
  id_eq : y.2.id = x.2.id
  typeName_eq : y.2.typeName = x.2.typeName
  pluralTypeName_eq : y.2.pluralTypeName = x.2.pluralTypeName
  before : x.2.Gathers part x.1.fields
  after : y.2.Gathers part y.1.fields

/-- Two schemas of a document in two orders, each given by the collections of its document beside
their bundles. What a field adds is settled among the collections of the first. -/
def Regroups (policy : EmptyListPolicy) (d d' : Document) (s s' : Schema) : Prop :=
  ∃ all xs ys, List.Forall₂ CollectionDeclaration.Declares d.collections all ∧
    xs.map (·.1) = d.collections ∧ xs.map (·.2) = s.bundles ∧
    ys.map (·.1) = d'.collections ∧ ys.map (·.2) = s'.bundles ∧
    Rearranged (Regrouped (Contribution.ofDeclaration policy all)) xs ys

theorem DeclaredTwice.regrouped {p q : CollectionDeclaration × Collection}
    (h : DeclaredTwice p q) {policy : EmptyListPolicy} {cs cs' : List Collection}
    (hexpand : ∀ f : Field, f.expansion? cs = f.expansion? cs') :
    Regrouped (Contribution.ofDeclaration policy cs) (p.1, p.2.shapes policy cs)
      (q.1, q.2.shapes policy cs') := by
  have hshapes : q.2.shapes policy cs' = q.2.shapes policy cs := by
    simp only [Collection.shapes, hexpand]
  exact
    { reordered := h.declarations
      named := h.before.name_eq
      name_eq := h.collections.name_eq
      id_eq := h.collections.id_eq
      typeName_eq := h.collections.typeName_eq
      pluralTypeName_eq := h.collections.pluralTypeName_eq
      before := Collection.shapes_gather policy cs h.before
      after := hshapes ▸ Collection.shapes_gather policy cs h.after }

/-- A document that compiles compiles in every other order, to the same entries. -/
theorem Document.Reordered.compile_ok {d d' : Document} (h : d.Reordered d')
    {policy : EmptyListPolicy} {s : Schema} (hs : d.compile policy = .ok s) :
    ∃ s', d'.compile policy = .ok s' ∧ Regroups policy d d' s s' := by
  obtain ⟨cs, hcs, husable, hapart, hresolve, rfl⟩ := (d.compile_ok_iff policy s).mp hs
  -- The declarations beside their collections, in the first order and then in the second.
  obtain ⟨ps, hfst, rfl, hps⟩ := exists_pairs hcs
  have hstart : Rearranged (fun p d => p.1.Reordered d) ps d'.collections :=
    Rearranged.of_map_left (hfst.symm ▸ h)
  obtain ⟨qs, hfst', hqs⟩ := exists_declaredTwice hps hstart
  have hcollections : Rearranged Collection.Reordered (ps.map (·.2)) (qs.map (·.2)) :=
    Rearranged.of_map (hqs.imp fun _ _ hpq => hpq.collections)
  have hdeclares : ∀ q ∈ qs, q.1.Declares q.2 :=
    (hqs.forall_mem (p := fun _ => True) fun _ _ hpq => ⟨fun _ => hpq.after, fun _ => trivial⟩).mp
      fun _ _ => trivial
  have hexpand := Collection.expansion?_eq hcollections hapart
  refine ⟨⟨(qs.map (·.2)).map (Collection.shapes policy (qs.map (·.2)))⟩, ?_, ?_⟩
  · refine (d'.compile_ok_iff policy _).mpr ⟨qs.map (·.2), ?_, ?_, ?_, ?_, rfl⟩
    · rw [← hfst', List.forall₂_map_left_iff, List.forall₂_map_right_iff]
      exact List.forall₂_same.mpr hdeclares
    · exact (hcollections.forall_mem fun _ _ hab => hab.usable_iff).mp husable
    · exact Collection.pairwise_apart_of_reordered hcollections hapart
    · refine (hcollections.forall_mem fun a b hab => ?_).mp hresolve
      simp only [hab.fields_perm.mem_iff, Collection.resolves_iff hcollections hapart]
  · refine ⟨ps.map (·.2), ps.map fun p => (p.1, p.2.shapes policy (ps.map (·.2))),
      qs.map fun q => (q.1, q.2.shapes policy (qs.map (·.2))), hcs, ?_, ?_, ?_, ?_, ?_⟩
    · rw [List.map_map]
      exact hfst
    · simp only [List.map_map, Function.comp_def]
    · rw [List.map_map]
      exact hfst'
    · simp only [List.map_map, Function.comp_def]
    · exact Rearranged.of_map (hqs.imp fun _ _ hpq => hpq.regrouped hexpand)

/-- The order of collections and fields matters to nothing but the order of what is made of them:
a document compiles exactly when it does in another order, and then every collection keeps its
names and every field its entries. -/
theorem declaration_order_only_orders_lists (policy : EmptyListPolicy) (d d' : Document)
    (h : d.Reordered d') :
    ((∃ s, d.compile policy = .ok s) ↔ ∃ s', d'.compile policy = .ok s') ∧
      ∀ s s', d.compile policy = .ok s → d'.compile policy = .ok s' →
        Regroups policy d d' s s' := by
  constructor
  · constructor
    · rintro ⟨s, hs⟩
      obtain ⟨s', hs', -⟩ := h.compile_ok hs
      exact ⟨s', hs'⟩
    · rintro ⟨s', hs'⟩
      obtain ⟨s, hs, -⟩ := h.symm.compile_ok hs'
      exact ⟨s, hs⟩
  · intro s s' hs hs'
    obtain ⟨t, ht, hgroups⟩ := h.compile_ok hs
    rw [hs', Except.ok.injEq] at ht
    rwa [ht]

/-- A document read from its end: the last collection first, and its last field first. -/
def Document.backwards (d : Document) : Document where
  collections := (d.collections.map fun c => { c with fields := c.fields.reverse }).reverse

theorem Document.reordered_backwards (d : Document) : d.Reordered d.backwards := by
  refine ⟨d.collections.map fun c => { c with fields := c.fields.reverse }, ?_,
    (List.reverse_perm _).symm⟩
  rw [List.forall₂_map_right_iff, List.forall₂_same]
  exact fun c _ => ⟨rfl, rfl, rfl, rfl, (List.reverse_perm _).symm⟩

theorem the_gallery_keeps_its_entries_backwards : gallery.Reordered gallery.backwards ∧
    ∃ s s', gallery.compile .null = .ok s ∧ gallery.backwards.compile .null = .ok s' ∧
      Regroups .null gallery gallery.backwards s s' :=
  ⟨gallery.reordered_backwards, _, _, rfl, rfl,
    (declaration_order_only_orders_lists .null _ _ gallery.reordered_backwards).2 _ _ rfl rfl⟩

/-- The patches of the files follow their field, also where it now stands last. -/
example : ((gallery.backwards.compile .null).map fun s => s.bundles.map (·.update.map (·.name))) =
    .ok [["album", "files", "filesAppend", "filesPrepend", "filesRemove"], []] := rfl

end StoreClient
