-- The law of declared types: when the generated client declares every type once. Endings are
-- added to the type names of collections, and the names of collections are only compared with
-- each other; so a name may also be one that another collection, or every client, declares.
import Mathlib.Data.List.Nodup
import Mathlib.Data.List.Pairwise
import StoreClient.Proofs.Acceptance
import StoreClient.Proofs.TextLines

namespace StoreClient

namespace ClientText

/-! ## Names that every client has -/

/-- The global types that the client relies on. -/
def globalTypes : List String := ["Date", "File", "Array", "Promise", "Pick"]

/-- The names that no type of a collection may have. -/
def reservedTypes : List String := helperTypes ++ clientTypes ++ globalTypes

theorem nodup_reservedTypes : reservedTypes.Nodup := by
  apply List.Nodup.of_map String.toList
  rw [map_toList_of_chars reservedTypes (by repeat' constructor)]
  decide

/-- No reserved name ends in an ending, unless it is the ending. -/
theorem reserved_ends : ∀ a ∈ reservedTypes.map String.toList,
    ∀ b ∈ (endings true).map String.toList, b <:+ a → b = [] ∨ b = a := by
  rw [map_toList_of_chars reservedTypes (by repeat' constructor),
    map_toList_of_chars (endings true) (by repeat' constructor)]
  decide

/-- If an ending ends in another one, what stands before that is an ending too. -/
theorem endings_end (expands : Bool) : ∀ a ∈ (endings expands).map String.toList,
    ∀ b ∈ (endings true).map String.toList, b <:+ a →
      a.take (a.length - b.length) ∈ (endings expands).map String.toList := by
  cases expands
  · rw [map_toList_of_chars (endings true) (by repeat' constructor),
      map_toList_of_chars (endings false) (by repeat' constructor)]
    decide
  · rw [map_toList_of_chars (endings true) (by repeat' constructor)]
    decide

theorem nodup_endings (expands : Bool) : (endings expands).Nodup := by
  apply List.Nodup.of_map String.toList
  cases expands
  · rw [map_toList_of_chars (endings false) (by repeat' constructor)]
    decide
  · rw [map_toList_of_chars (endings true) (by repeat' constructor)]
    decide

/-- The endings of a collection with relations are those of any other, and two more. -/
theorem endings_subset (expands : Bool) : ∀ e ∈ endings expands, e ∈ endings true := by
  intro e he
  cases expands
  · simp only [endings, Bool.false_eq_true, if_false, List.append_nil, List.mem_append] at he
    simp only [endings, if_true, List.mem_append]
    exact he.imp_left Or.inl
  · exact he

theorem empty_mem_endings (expands : Bool) : "" ∈ endings expands := List.mem_cons_self

/-! ## Names that two types share -/

/-- If two type names with endings are the same, one of them is the other with an ending. -/
theorem typeName_eq_of_append_eq {a b e₁ e₂ : String} {x y : Bool} (h₁ : e₁ ∈ endings x)
    (h₂ : e₂ ∈ endings y) (h : a ++ e₁ = b ++ e₂) :
    (∃ e ∈ endings x, b = a ++ e) ∨ ∃ e ∈ endings y, a = b ++ e := by
  have front {c d : String} {z w : Bool} {t : List Char} (hc : c ∈ endings z)
      (hd : d ∈ endings w) (hct : c.toList = t ++ d.toList) : String.ofList t ∈ endings z := by
    have htake := endings_end z c.toList (List.mem_map_of_mem hc) d.toList
      (List.mem_map_of_mem (endings_subset w d hd)) ⟨t, hct.symm⟩
    rw [hct, List.length_append, Nat.add_sub_cancel, List.take_left] at htake
    obtain ⟨e, he, rfl⟩ := List.mem_map.mp htake
    rwa [String.ofList_toList]
  have hlists := congrArg String.toList h
  simp only [String.toList_append, List.append_eq_append_iff] at hlists
  rcases hlists with ⟨t, hb, he⟩ | ⟨t, ha, he⟩
  · refine .inl ⟨String.ofList t, front h₁ h₂ he, ?_⟩
    rw [← String.toList_inj, String.toList_append, String.toList_ofList, hb]
  · refine .inr ⟨String.ofList t, front h₂ h₁ he, ?_⟩
    rw [← String.toList_inj, String.toList_append, String.toList_ofList, ha]

/-- A reserved name is that of a type of a collection only as the bare type name. -/
theorem eq_typeName_of_reserved {name e : String} {x : Bool} (hname : name ≠ "")
    (he : e ∈ endings x) (h : name ++ e ∈ reservedTypes) : e = "" := by
  have hends := reserved_ends (name ++ e).toList (List.mem_map_of_mem h) e.toList
    (List.mem_map_of_mem (endings_subset x e he))
  rw [String.toList_append] at hends
  rcases hends ⟨_, rfl⟩ with hempty | hall
  · exact String.toList_eq_nil_iff.mp hempty
  · have : name.toList = [] := by
      simpa using congrArg List.length hall
    exact absurd (String.toList_eq_nil_iff.mp this) hname

/-! ## Clients that declare every type once -/

theorem append_eq_self_iff {a e : String} : a = a ++ e ↔ e = "" := by
  rw [← String.toList_inj, String.toList_append, List.self_eq_append_right,
    String.toList_eq_nil_iff]

theorem nodup_typeNames (v : BundleView) : (typeNames v).Nodup := by
  refine (nodup_endings v.hasExpansion).map fun e e' h => ?_
  have hlists := congrArg String.toList h
  simpa only [String.toList_append, List.append_cancel_left_eq, String.toList_inj] using hlists

/-- The type name of a collection is none that every client declares or relies on, and none that
another collection makes with an ending. -/
structure FreeName (vs : List BundleView) (name : String) : Prop where
  not_reserved : name ∉ reservedTypes
  not_derived : ∀ w ∈ vs, ∀ e ∈ endings w.hasExpansion, e ≠ "" → name ≠ w.typeName ++ e

/-- A type name that another collection makes with an ending is declared twice. -/
theorem not_nodup_of_derived {vs : List BundleView} {v w : BundleView} (hv : v ∈ vs)
    (hw : w ∈ vs) {e : String} (he : e ∈ endings w.hasExpansion) (hne : e ≠ "")
    (heq : v.typeName = w.typeName ++ e) : ¬ (vs.flatMap typeNames).Nodup := by
  intro hnodup
  have hdisjoint := (List.nodup_flatMap.mp hnodup).2
  have hvw : v ≠ w := by
    rintro rfl
    exact hne (append_eq_self_iff.mp heq)
  have hv' : v.typeName ∈ typeNames v :=
    List.mem_map.mpr ⟨"", empty_mem_endings _, String.append_empty⟩
  have hw' : v.typeName ∈ typeNames w := List.mem_map.mpr ⟨e, he, heq.symm⟩
  have hsymm : Std.Symm (Function.onFun List.Disjoint typeNames) :=
    ⟨fun _ _ h _ hw hv => h hv hw⟩
  exact hdisjoint.forall hv hw hvw hv' hw'

theorem nodup_flatMap_typeNames_iff {vs : List BundleView}
    (hdiffer : (vs.map (·.typeName)).Nodup) : (vs.flatMap typeNames).Nodup ↔
    ∀ v ∈ vs, ∀ w ∈ vs, ∀ e ∈ endings w.hasExpansion, e ≠ "" → v.typeName ≠ w.typeName ++ e := by
  constructor
  · intro hnodup v hv w hw e he hne heq
    exact not_nodup_of_derived hv hw he hne heq hnodup
  · intro hfree
    refine List.nodup_flatMap.mpr ⟨fun v _ => nodup_typeNames v, ?_⟩
    refine (List.pairwise_map.mp hdiffer).imp_of_mem fun {v w} hv hw hne name hv' hw' => ?_
    obtain ⟨e₁, he₁, rfl⟩ := List.mem_map.mp hv'
    obtain ⟨e₂, he₂, heq⟩ := List.mem_map.mp hw'
    -- The longer of the two names is the shorter one with an ending, perhaps the empty one.
    rcases typeName_eq_of_append_eq he₂ he₁ heq with ⟨e, he, hvw⟩ | ⟨e, he, hwv⟩
    · by_cases hempty : e = ""
      · rw [hempty, String.append_empty] at hvw
        exact hne hvw
      · exact hfree v hv w hw e he hempty hvw
    · by_cases hempty : e = ""
      · rw [hempty, String.append_empty] at hwv
        exact hne hwv.symm
      · exact hfree w hw v hv e he hempty hwv

/-- Names between those that every client declares, where neither these nor the global ones
stand twice. -/
theorem nodup_between (between : List String) {before after globals : List String}
    (h : (before ++ after ++ globals).Nodup) :
    ((before ++ between ++ after).Nodup ∧ ∀ g ∈ globals, g ∉ before ++ between ++ after) ↔
      between.Nodup ∧ ∀ x ∈ between, x ∉ before ++ after ++ globals := by
  simp only [List.nodup_append, List.mem_append] at h ⊢
  grind

/-- Every type is declared once, and none of them hides a global one. -/
structure DeclaresOnce (vs : List BundleView) : Prop where
  distinct : (declaredTypes (lines vs)).Nodup
  not_global : ∀ name ∈ globalTypes, name ∉ declaredTypes (lines vs)

theorem declaresOnce_iff {vs : List BundleView} (hnames : ∀ v ∈ vs, IsTypeName v.typeName)
    (hdiffer : (vs.map (·.typeName)).Nodup) :
    DeclaresOnce vs ↔ ∀ v ∈ vs, FreeName vs v.typeName := by
  have hreserved : (∀ name ∈ vs.flatMap typeNames, name ∉ reservedTypes) ↔
      ∀ v ∈ vs, v.typeName ∉ reservedTypes := by
    constructor
    · intro h v hv
      refine h v.typeName (List.mem_flatMap.mpr ⟨v, hv, List.mem_map.mpr ⟨"", ?_⟩⟩)
      exact ⟨empty_mem_endings _, String.append_empty⟩
    · rintro h name hname hmem
      obtain ⟨v, hv, hname⟩ := List.mem_flatMap.mp hname
      obtain ⟨e, he, rfl⟩ := List.mem_map.mp hname
      have hne : v.typeName ≠ "" := by
        rintro hempty
        obtain ⟨c, rest, hchars, -⟩ := hnames v hv
        simp [hempty] at hchars
      rw [eq_typeName_of_reserved hne he hmem, String.append_empty] at hmem
      exact h v hv hmem
  have hbetween := nodup_between (vs.flatMap typeNames) nodup_reservedTypes
  rw [nodup_flatMap_typeNames_iff hdiffer] at hbetween
  constructor
  · rintro ⟨hdistinct, hglobal⟩
    rw [declaredTypes_lines hnames] at hdistinct hglobal
    obtain ⟨hderived, hfree⟩ := hbetween.mp ⟨hdistinct, hglobal⟩
    exact fun v hv => ⟨hreserved.mp hfree v hv, hderived v hv⟩
  · intro hfree
    obtain ⟨hdistinct, hglobal⟩ := hbetween.mpr ⟨fun v hv => (hfree v hv).not_derived,
      hreserved.mpr fun v hv => (hfree v hv).not_reserved⟩
    rw [← declaredTypes_lines hnames] at hdistinct hglobal
    exact ⟨hdistinct, hglobal⟩

end ClientText

/-- The text declares what its lines do, if no name of a collection goes past its comment. -/
theorem Schema.declaredTypes_clientText {s : Schema} (h : ∀ v ∈ s.views, v.Unbroken)
    (hnames : ∀ v ∈ s.views, KeepsToLine v.name) :
    ClientText.declaredTypes (textLines s.clientText) =
      ClientText.declaredTypes (ClientText.lines s.views) := by
  rw [(textLines_clientText_eq_iff h).mpr hnames, ClientText.declaredTypes_append]
  exact List.append_nil _

/-! ## The law -/

/-- The client of a compiled document declares every type once, and hides no global one, exactly
when each type name of a collection is free of the names that the client has besides: those of
every client, the global ones, and those that collections make with an ending. What the client
declares can be read off its text, unless the name of a collection goes past its comment. -/
theorem types_are_declared_once_exactly_when_free (policy : EmptyListPolicy) (d : Document)
    (s : Schema) (h : d.compile policy = .ok s) :
    (ClientText.DeclaresOnce s.views ↔
      ∀ v ∈ s.views, ClientText.FreeName s.views v.typeName) ∧
    ((∀ v ∈ s.views, KeepsToLine v.name) → ClientText.declaredTypes (textLines s.clientText) =
      ClientText.declaredTypes (ClientText.lines s.views)) := by
  refine ⟨?_, Schema.declaredTypes_clientText (Document.unbroken_views h)⟩
  obtain ⟨cs, -, husable, hapart, -, rfl⟩ := (d.compile_ok_iff policy s).mp h
  refine ClientText.declaresOnce_iff ?_ ?_
  · simp only [Schema.views, List.map_map, List.forall_mem_map]
    exact fun c hc => (husable c hc).1
  · simp only [Schema.views, List.map_map]
    exact ((Collection.pairwise_apart_iff cs).mp hapart).2.2.1

theorem the_gallery_is_declared_once : ∃ s, gallery.compile .null = .ok s ∧
    (ClientText.DeclaresOnce s.views ↔
      ∀ v ∈ s.views, ClientText.FreeName s.views v.typeName) ∧
    ClientText.declaredTypes (textLines s.clientText) =
      ClientText.declaredTypes (ClientText.lines s.views) := by
  obtain ⟨s, hs, albums, pictures, hviews, halbums, hpictures⟩ :
      ∃ s, gallery.compile .null = .ok s ∧ ∃ albums pictures, s.views = [albums, pictures] ∧
        albums.name = "albums" ∧ pictures.name = "pictures" :=
    ⟨_, rfl, _, _, rfl, rfl, rfl⟩
  obtain ⟨hiff, htext⟩ := types_are_declared_once_exactly_when_free .null gallery s hs
  refine ⟨s, hs, hiff, htext ?_⟩
  rw [hviews, List.forall_mem_cons, List.forall_mem_singleton, halbums, hpictures]
  exact ⟨keepsToLine_of_chars rfl rfl, keepsToLine_of_chars rfl rfl⟩

/-- Users, and what users create. -/
def creations : Document where
  collections := [
    { id := none, name := "user", singular := none, plural := none, fields := [] },
    { id := none, name := "user_create", singular := none, plural := none, fields := [] }]

/-- The document compiles, although its client declares the type `UserCreate` twice. -/
theorem the_creations_clash : ∃ s, creations.compile .null = .ok s ∧
    ¬ (ClientText.declaredTypes (ClientText.lines s.views)).Nodup := by
  refine ⟨⟨[⟨"user", none, "User", "User", [], [], [], []⟩,
    ⟨"user_create", none, "UserCreate", "UserCreate", [], [], [], []⟩]⟩, rfl, ?_⟩
  rw [ClientText.declaredTypes_lines, List.nodup_append, List.nodup_append]
  · rintro ⟨⟨-, hnodup, -⟩, -⟩
    refine ClientText.not_nodup_of_derived (List.mem_cons_of_mem _ List.mem_cons_self)
      List.mem_cons_self (e := "Create") ?_ (by decide) rfl hnodup
    simp [ClientText.endings]
  · simp only [Schema.views, List.map_cons, List.map_nil, List.forall_mem_cons]
    simp only [← Identifier.isTypeName_iff]
    exact ⟨rfl, rfl, by simp⟩

end StoreClient
