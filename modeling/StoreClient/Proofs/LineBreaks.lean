-- The law of line breaks: what names and options say adds no line to the generated client, with
-- one exception. The comment with the name of a collection shows a break in the name as it is;
-- two documents that differ only in such texts give as many breaks besides.
import StoreClient.Proofs.AlikeDocuments

namespace StoreClient

/-! ## Clients that differ in the names of collections -/

/-- Two lines that are the same, or differ in the name of a collection: in the comment that gives
the name, or in the literal that is its key in the table. -/
inductive DiffersInName (names : List (String × String)) : String → String → Prop
  | same (line : String) : DiffersInName names line line
  | title {name name' : String} (h : (name, name') ∈ names) :
    DiffersInName names ("// " ++ name) ("// " ++ name')
  | key {name name' : String} (h : (name, name') ∈ names) :
    DiffersInName names ("  " ++ Literal.ofString name ++ ": \x7b")
      ("  " ++ Literal.ofString name' ++ ": \x7b")

theorem sameLines {names : List (String × String)} (lines : List String) :
    List.Forall₂ (DiffersInName names) lines lines :=
  List.forall₂_same.mpr fun line _ => .same line

/-- The view of a collection under another name. -/
def BundleView.renamed (v : BundleView) (name : String) : BundleView :=
  { v with name, nameLiteral := Literal.ofString name }

/-- Bundles that differ in the names of collections have views that do. -/
theorem BundleView.ofBundle_renamed {b b' : Bundle} (htype : b'.typeName = b.typeName)
    (hplural : b'.pluralTypeName = b.pluralTypeName) (hread : b'.read = b.read)
    (hcreate : b'.create = b.create) (hupdate : b'.update = b.update)
    (hexpand : b'.expand.map ExpansionView.ofExpansion = b.expand.map ExpansionView.ofExpansion) :
    ofBundle b' = (ofBundle b).renamed b'.name := by
  simp only [ofBundle, renamed, Bundle.readField?, htype, hplural, hread, hcreate, hupdate, hexpand]
  rfl

namespace ClientText

variable {names : List (String × String)}

theorem collection_renamed {v : BundleView} {name : String} (h : (v.name, name) ∈ names) :
    List.Forall₂ (DiffersInName names) (collection v) (collection (v.renamed name)) :=
  .cons (.same "") (.cons (.title h) (sameLines _))

theorem tableEntry_renamed {v : BundleView} {name : String}
    (hliteral : v.nameLiteral = Literal.ofString v.name) (h : (v.name, name) ∈ names) :
    List.Forall₂ (DiffersInName names) (tableEntry v) (tableEntry (v.renamed name)) := by
  rw [tableEntry, hliteral]
  exact .cons (.key h) (sameLines _)

theorem lines_renamed {vs vs' : List BundleView} (h : List.Forall₂ (fun v v' =>
    v.nameLiteral = Literal.ofString v.name ∧ (v.name, v'.name) ∈ names ∧
      v' = v.renamed v'.name) vs vs') :
    List.Forall₂ (DiffersInName names) (lines vs) (lines vs') := by
  have hparts : List.Forall₂ (DiffersInName names) (vs.flatMap collection)
      (vs'.flatMap collection) := by
    refine List.rel_flatMap h fun v v' hv => ?_
    obtain ⟨-, hname, hrenamed⟩ := hv
    rw [hrenamed]
    exact collection_renamed hname
  have hentries : List.Forall₂ (DiffersInName names) (vs.flatMap tableEntry)
      (vs'.flatMap tableEntry) := by
    refine List.rel_flatMap h fun v v' hv => ?_
    obtain ⟨hliteral, hname, hrenamed⟩ := hv
    rw [hrenamed]
    exact tableEntry_renamed hliteral hname
  have htable : List.Forall₂ (DiffersInName names) (table vs) (table vs') :=
    List.rel_append (List.rel_append (sameLines _) hentries) (sameLines _)
  exact List.rel_append (List.rel_append (List.rel_append (sameLines _) hparts) htable)
    (sameLines _)

end ClientText

namespace Field

variable {policy : EmptyListPolicy} (f : Field)

theorem readField?_untargeted : f.readField? policy = f.untargeted.readField? policy := by
  obtain ⟨name, form⟩ := f
  cases form with
  | relation target c required => cases c <;> cases required <;> rfl
  | _ => rfl

theorem createField?_untargeted : f.createField? policy = f.untargeted.createField? policy := by
  obtain ⟨name, form⟩ := f
  cases form with
  | relation target c required => cases c <;> cases required <;> rfl
  | _ => rfl

theorem updateFields_untargeted : f.updateFields policy = f.untargeted.updateFields policy := by
  obtain ⟨name, form⟩ := f
  cases form with
  | relation target c required => cases c <;> cases required <;> rfl
  | _ => rfl

theorem map_relation?_untargeted :
    f.relation?.map Prod.snd = f.untargeted.relation?.map Prod.snd := by
  obtain ⟨name, form⟩ := f
  cases form <;> rfl

end Field

section

variable {policy : EmptyListPolicy} {d d' : Document} {cs cs' : List Collection}

theorem typeName_of_leadsTo {target : String} {c : CollectionDeclaration} {found : Collection}
    (hcs : List.Forall₂ CollectionDeclaration.Declares d.collections cs)
    (hapart : cs.Pairwise Collection.Apart) (hfound : Collection.target? cs target = some found)
    (h : d.LeadsTo target c) : c.typeName = found.typeName := by
  obtain ⟨other, hother, hdeclares⟩ := leadsTo_of_target? hcs hapart hfound
  rw [h.unique hother]
  exact hdeclares.typeName_eq

/-- Corresponding relations are expanded alike. -/
theorem Field.Alike.expansion? {f f' : Field} (halike : d.Alike d')
    (hcs : List.Forall₂ CollectionDeclaration.Declares d.collections cs)
    (hcs' : List.Forall₂ CollectionDeclaration.Declares d'.collections cs')
    (hapart : cs.Pairwise Collection.Apart) (hapart' : cs'.Pairwise Collection.Apart)
    (h : Field.Alike d d' f f') (hsame : f.untargeted = f'.untargeted)
    (hresolve : f.Resolves cs) (hresolve' : f'.Resolves cs') :
    (f.expansion? cs).map ExpansionView.ofExpansion =
      (f'.expansion? cs').map ExpansionView.ofExpansion := by
  have hname : f.untargeted.name = f'.untargeted.name := congrArg Field.name hsame
  have hmode : f.relation?.map Prod.snd = f'.relation?.map Prod.snd := by
    rw [map_relation?_untargeted f, map_relation?_untargeted f', hsame]
  cases hrel : f.relation? with
  | none =>
    rw [hrel] at hmode
    have hrel' : f'.relation? = none := Option.map_eq_none_iff.mp hmode.symm
    simp [Field.expansion?, hrel, hrel']
  | some r =>
    obtain ⟨target, mode⟩ := r
    rw [hrel] at hmode
    obtain ⟨⟨target', mode'⟩, hrel', hmode'⟩ := Option.map_eq_some_iff.mp hmode.symm
    obtain ⟨found, hfound⟩ := Option.isSome_iff_exists.mp (hresolve target mode hrel)
    obtain ⟨found', hfound'⟩ := Option.isSome_iff_exists.mp (hresolve' target' mode' hrel')
    obtain ⟨p, hp, hleads, hleads'⟩ := h.leads target mode target' mode' hrel hrel'
    have htype : found.typeName = found'.typeName := by
      rw [← typeName_of_leadsTo hcs hapart hfound hleads,
        ← typeName_of_leadsTo hcs' hapart' hfound' hleads']
      exact (List.forall₂_zip halike hp).typeName_eq
    cases hmode'
    simp [Field.expansion?, hrel, hrel', hfound, hfound', ExpansionView.ofExpansion, htype,
      show f.name = f'.name from hname]

end

/-! ## The law -/

theorem forall₂_and_zip {α β : Type} {r : α → β → Prop} {as : List α} {bs : List β}
    (h : List.Forall₂ r as bs) : List.Forall₂ (fun a b => r a b ∧ (a, b) ∈ as.zip bs) as bs := by
  obtain ⟨hlength, hall⟩ := List.forall₂_iff_zip.mp h
  exact List.forall₂_iff_zip.mpr ⟨hlength, fun hp => ⟨hall hp, hp⟩⟩

/-- The names of corresponding collections. -/
def Document.namePairs (d d' : Document) : List (String × String) :=
  (d.collections.zip d'.collections).map fun p => (p.1.name, p.2.name)

section

variable {policy : EmptyListPolicy} {d d' : Document} {s s' : Schema}
  (h : d.compile policy = .ok s) (h' : d'.compile policy = .ok s') (halike : d.Alike d')

include h h' halike

/-- The clients of alike documents have as many lines. -/
theorem Document.Alike.length_lines :
    (ClientText.lines s.views).length = (ClientText.lines s'.views).length := by
  obtain ⟨cs, hcs, -, -, hresolve, rfl⟩ := (d.compile_ok_iff policy s).mp h
  obtain ⟨cs', hcs', -, -, hresolve', rfl⟩ := (d'.compile_ok_iff policy s').mp h'
  refine ClientText.length_lines ?_
  simp only [Schema.views, List.map_map, List.forall₂_map_left_iff, List.forall₂_map_right_iff]
  refine (forall₂_between (forall₂_and_right hcs hresolve) halike
    (forall₂_and_right hcs' hresolve')).imp ?_
  rintro c c' ⟨a, a', ⟨hc, hresolve⟩, halike, hc', hresolve'⟩
  exact Collection.sameFrame (DeclareBoth.fields halike.fields hc hc') hresolve hresolve'

/-- Where also the fields are the same, the lines differ in the names of collections only. -/
theorem Document.Alike.lines_differ (hsame : d.SameFields d') :
    List.Forall₂ (DiffersInName (d.namePairs d')) (ClientText.lines s.views)
      (ClientText.lines s'.views) := by
  obtain ⟨cs, hcs, -, hapart, hresolve, rfl⟩ := (d.compile_ok_iff policy s).mp h
  obtain ⟨cs', hcs', -, hapart', hresolve', rfl⟩ := (d'.compile_ok_iff policy s').mp h'
  refine ClientText.lines_renamed ?_
  simp only [Schema.views, List.map_map, List.forall₂_map_left_iff, List.forall₂_map_right_iff]
  refine (forall₂_between (forall₂_and_right hcs hresolve) (forall₂_and_zip hsame)
    (forall₂_and_right hcs' hresolve')).imp ?_
  rintro c c' ⟨a, a', ⟨hc, hresolve⟩, ⟨hfields, hpair⟩, hc', hresolve'⟩
  have hboth := List.forall₂_zip halike hpair
  have hsame := DeclareBoth.fields hfields hc hc'
  have halikes := DeclareBoth.fields hboth.fields hc hc'
  have hkey : c.fields.map (·.untargeted) = c'.fields.map (·.untargeted) := map_eq_of_forall₂ hsame
  refine ⟨rfl, List.mem_map.mpr ⟨(a, a'), hpair, ?_⟩, ?_⟩
  · exact congrArg₂ Prod.mk hc.name_eq.symm hc'.name_eq.symm
  · have htype : c'.typeName = c.typeName := by
      rw [← hc.typeName_eq, ← hc'.typeName_eq, hboth.typeName_eq]
    have hplural : c'.pluralTypeName = c.pluralTypeName := by
      rw [← hc.pluralTypeName_eq, ← hc'.pluralTypeName_eq, hboth.pluralTypeName_eq]
    refine BundleView.ofBundle_renamed htype hplural ?_ ?_ ?_ ?_
    · exact (Field.filterMap_eq_of_key Field.readField?_untargeted hkey).symm
    · exact (Field.filterMap_eq_of_key Field.createField?_untargeted hkey).symm
    · exact (Field.flatMap_eq_of_key Field.updateFields_untargeted hkey).symm
    · simp only [Collection.shapes, List.map_filterMap]
      refine (filterMap_eq_of_forall₂ ((forall₂_and_zip hsame).imp ?_)).symm
      rintro f f' ⟨hfield, hp⟩
      obtain ⟨hf, hf'⟩ := List.of_mem_zip hp
      exact (List.forall₂_zip halikes hp).expansion? halike hcs hcs' hapart hapart' hfield
        (hresolve f hf) (hresolve' f' hf')

end

/-- Alike documents give clients with as many line breaks of each kind, apart from those in the
names of their collections. Where also the fields are the same, the name of a collection stands
nowhere but in its comment and in the literal that is its key. -/
theorem only_names_of_collections_break_lines (policy : EmptyListPolicy) (d d' : Document)
    (s s' : Schema) (h : d.compile policy = .ok s) (h' : d'.compile policy = .ok s')
    (halike : d.Alike d') :
    (∀ b, IsBreak b → s.clientText.toList.count b + d'.names.count b =
        s'.clientText.toList.count b + d.names.count b) ∧
      (d.SameFields d' → List.Forall₂ (DiffersInName (d.namePairs d'))
        (ClientText.lines s.views) (ClientText.lines s'.views)) := by
  refine ⟨fun b hb => ?_, halike.lines_differ h h'⟩
  rw [Document.count_clientText h hb, Document.count_clientText h' hb, halike.length_lines h h']
  omega

/-- Harbours, each with one that a ship may go to next, under some names. -/
def harboursUnder (name size small large next : String) : Document where
  collections := [
    { id := none, name, singular := some "harbour", plural := some "harbours", fields := [
      .object [("name", .text size), ("type", .text "select"),
        ("options", .array [.text small, .text large]), ("mode", .text "single")],
      .object [("name", .text next), ("type", .text "relation"), ("to", .text name),
        ("mode", .text "single")]] }]

def harbours : Document := harboursUnder "harbours" "size" "small" "large" "next"

/-- The name of the collection has a break. -/
def renamedHarbours : Document := harboursUnder "har\nbours" "size" "small" "large" "next"

/-- Every name and every option has a break. -/
def brokenHarbours : Document :=
  harboursUnder "har\nbours" "si\nze" "sm\nall" "lar\rge" "ne\r\nxt"

theorem harbours_alike_renamed : harbours.Alike renamedHarbours := by
  refine .cons ⟨rfl, rfl, rfl, rfl, rfl, ?_⟩ .nil
  refine .cons ⟨_, _, rfl, rfl, rfl, Iff.rfl, ?_⟩ (.cons ⟨_, _, rfl, rfl, rfl, Iff.rfl, ?_⟩ .nil)
  · rintro target mode target' mode' hrel
    cases hrel
  · rintro target mode target' mode' hrel hrel'
    cases hrel
    cases hrel'
    exact ⟨_, List.mem_cons_self, .inr ⟨rfl, rfl⟩, .inr ⟨rfl, rfl⟩⟩

theorem harbours_alike_broken : harbours.Alike brokenHarbours := by
  refine .cons ⟨rfl, rfl, rfl, rfl, rfl, ?_⟩ .nil
  refine .cons ⟨_, _, rfl, rfl, rfl, by decide, ?_⟩
    (.cons ⟨_, _, rfl, rfl, rfl, by decide, ?_⟩ .nil)
  · rintro target mode target' mode' hrel
    cases hrel
  · rintro target mode target' mode' hrel hrel'
    cases hrel
    cases hrel'
    exact ⟨_, List.mem_cons_self, .inr ⟨rfl, rfl⟩, .inr ⟨rfl, rfl⟩⟩

theorem harbours_sameFields_renamed : harbours.SameFields renamedHarbours :=
  .cons (.cons ⟨_, _, rfl, rfl, rfl⟩ (.cons ⟨_, _, rfl, rfl, rfl⟩ .nil)) .nil

theorem the_harbours_break_in_one_name : ∃ s s₁ s₂, harbours.compile .null = .ok s ∧
    renamedHarbours.compile .null = .ok s₁ ∧ brokenHarbours.compile .null = .ok s₂ ∧
    (∀ b, IsBreak b → s.clientText.toList.count b + brokenHarbours.names.count b =
      s₂.clientText.toList.count b + harbours.names.count b) ∧
    List.Forall₂ (DiffersInName (harbours.namePairs renamedHarbours))
      (ClientText.lines s.views) (ClientText.lines s₁.views) :=
  ⟨_, _, _, rfl, rfl, rfl,
    (only_names_of_collections_break_lines .null _ _ _ _ rfl rfl harbours_alike_broken).1,
    (only_names_of_collections_break_lines .null _ _ _ _ rfl rfl harbours_alike_renamed).2
      harbours_sameFields_renamed⟩

/-- A break in the name of a collection adds a line to the text. -/
theorem a_break_in_a_name_adds_a_line : ∃ s s', harbours.compile .null = .ok s ∧
    renamedHarbours.compile .null = .ok s' ∧ harbours.Alike renamedHarbours ∧
    s.clientText.toList.count '\n' ≠ s'.clientText.toList.count '\n' := by
  obtain ⟨s, hs⟩ : ∃ s, harbours.compile .null = .ok s := ⟨_, rfl⟩
  obtain ⟨s', hs'⟩ : ∃ s', renamedHarbours.compile .null = .ok s' := ⟨_, rfl⟩
  refine ⟨s, s', hs, hs', harbours_alike_renamed, ?_⟩
  have hplain : harbours.names.count '\n' = 0 := by decide
  have hbroken : renamedHarbours.names.count '\n' = 1 := by decide
  rw [Document.count_clientText hs (.inl rfl), Document.count_clientText hs' (.inl rfl),
    harbours_alike_renamed.length_lines hs hs', hplain, hbroken]
  omega

end StoreClient
