-- The laws of decoders, in both directions. A record is read back from an object with a
-- member for each of its slots; and whatever a decoder accepts went through its slots one
-- by one, no deeper than the text may go.
import StoreClient.Json.Decode

namespace StoreClient

/-! ## Drafts -/

namespace Draft

theorem ofItems_eq_map (items : List Json) : ofJson.ofItems items = items.map ofJson := by
  induction items with
  | nil => rfl
  | cons j js ih => rw [ofJson.ofItems, ih, List.map_cons]

mutual

/-- What reads within some levels has no more of them. -/
theorem levels_le_of_read : ∀ {d : Draft} {depth : Nat} {j : Json}, d.read depth = .ok j →
    d.levels ≤ depth
  | .array items ending, 0, _, h => by cases h
  | .array items ending, depth + 1, j, h => by
    simp only [read] at h
    split at h
    · cases h
    · cases h
    · rename_i hitems
      exact Nat.succ_le_succ (levelsItems_le_of_read hitems)
  | .object members ending, 0, _, h => by cases h
  | .object members ending, depth + 1, j, h => by
    simp only [read] at h
    split at h
    · cases h
    · cases h
    · rename_i hmembers
      exact Nat.succ_le_succ (levelsMembers_le_of_read hmembers)
  | .null, _, _, _ | .bool _, _, _, _ | .number _, _, _, _ | .text _, _, _, _
  | .flawedText _ _, _, _, _ | .flawedWord _ _, _, _, _ | .absent _, _, _, _ => Nat.zero_le _

theorem levelsItems_le_of_read : ∀ {items : List Draft} {depth : Nat} {js : List Json},
    readItems depth items = .ok js → levelsItems items ≤ depth
  | [], _, _, _ => Nat.zero_le _
  | item :: rest, depth, _, h => by
    simp only [readItems] at h
    split at h
    · cases h
    · rename_i hitem
      split at h
      · cases h
      · rename_i hrest
        exact Nat.max_le.mpr ⟨levels_le_of_read hitem, levelsItems_le_of_read hrest⟩

theorem levelsMembers_le_of_read : ∀ {members : List (Draft × Draft)} {depth : Nat}
    {js : List (String × Json)}, readMembers depth members = .ok js → levelsMembers members ≤ depth
  | [], _, _, _ => Nat.zero_le _
  | (_, item) :: rest, depth, _, h => by
    simp only [readMembers] at h
    split at h
    · split at h
      · cases h
      · rename_i hitem
        split at h
        · cases h
        · rename_i hrest
          exact Nat.max_le.mpr ⟨levels_le_of_read hitem, levelsMembers_le_of_read hrest⟩
    · cases h
    · cases h

end

end Draft

namespace Decode

variable {α β σ : Type}

theorem bind_ok_iff {x : Except DecodeError α} {f : α → Except DecodeError β} {b : β} :
    (x >>= f) = .ok b ↔ ∃ a, x = .ok a ∧ f a = .ok b := by
  cases x <;> simp [bind, Except.bind]

theorem map_ok_iff {ε : Type} {f : α → β} {x : Except ε α} {b : β} :
    x.map f = .ok b ↔ ∃ a, x = .ok a ∧ f a = b := by
  cases x <;> simp [Except.map]

theorem map_error_iff {ε : Type} {f : α → β} {x : Except ε α} {e : ε} :
    x.map f = .error e ↔ x = .error e := by
  cases x <;> simp [Except.map]

/-! ## Lists -/

theorem each_map_ok {toDraft : α → Draft} {decode : Draft → Except DecodeError α} {as : List α}
    (h : ∀ a ∈ as, decode (toDraft a) = .ok a) : each decode (as.map toDraft) = .ok as := by
  induction as with
  | nil => rfl
  | cons a as ih =>
    rw [List.forall_mem_cons] at h
    rw [List.map_cons, each, h.1, ih h.2]
    rfl

theorem mem_of_each {decode : Draft → Except DecodeError α} {ds : List Draft} {as : List α}
    (h : each decode ds = .ok as) : ∀ a ∈ as, ∃ d ∈ ds, decode d = .ok a := by
  induction ds generalizing as with
  | nil =>
    cases h
    intro a ha
    cases ha
  | cons d ds ih =>
    obtain ⟨b, hb, h⟩ := bind_ok_iff.mp h
    obtain ⟨bs, hbs, h⟩ := bind_ok_iff.mp h
    cases h
    intro a ha
    rcases List.mem_cons.mp ha with rfl | ha
    · exact ⟨d, List.mem_cons_self, hb⟩
    · obtain ⟨d', hd', ha⟩ := ih hbs a ha
      exact ⟨d', List.mem_cons_of_mem _ hd', ha⟩

/-- A list is read back if each of its items is. -/
theorem list_ok {decode : Decoder α} (toJson : α → Json) {o inner : Origin} {as : List α}
    (ho : o.enter = .ok inner) (h : ∀ a ∈ as, decode inner (Draft.ofJson (toJson a)) = .ok a) :
    list decode o (Draft.ofJson (.array (as.map toJson))) = .ok as := by
  have hdraft : Draft.ofJson (.array (as.map toJson)) =
      .array (as.map fun a => Draft.ofJson (toJson a)) none := by
    rw [Draft.ofJson, Draft.ofItems_eq_map, List.map_map]
    rfl
  have heach : each (decode inner) (as.map fun a => Draft.ofJson (toJson a)) = .ok as :=
    each_map_ok h
  rw [hdraft, list]
  simp only [ho, bind, Except.bind, heach]
  rfl

theorem mem_of_list {decode : Decoder α} {o : Origin} {d : Draft} {as : List α}
    (h : list decode o d = .ok as) :
    ∃ inner, o.enter = .ok inner ∧ ∀ a ∈ as, ∃ d, decode inner d = .ok a := by
  cases d with
  | array items ending =>
    obtain ⟨inner, ho, h⟩ := bind_ok_iff.mp h
    obtain ⟨bs, hbs, h⟩ := bind_ok_iff.mp h
    obtain ⟨_, -, h⟩ := bind_ok_iff.mp h
    cases h
    refine ⟨inner, ho, fun a ha => ?_⟩
    obtain ⟨d, -, hd⟩ := mem_of_each hbs a ha
    exact ⟨d, hd⟩
  | _ => cases h

theorem levels_of_list {decode : Decoder α} {o : Origin} {d : Draft} {as : List α}
    (h : list decode o d = .ok as) : 0 < d.levels := by
  cases d with
  | array _ _ => exact Nat.succ_pos _
  | _ => cases h

/-! ## Records -/

theorem slot_fill_iff {name : String} {omission : Omission} {decode : Decoder β}
    {get : σ → Option β} {put : β → σ → σ} {o : Origin} {d : Draft} {s s' : σ} :
    (slot name omission decode get put).fill o d s = .ok s' ↔
      ∃ b, decode o d = .ok b ∧ put b s = s' := map_ok_iff

namespace Record

/-- Members that fill slots one after the other, each under the name of its slot. -/
inductive Fills (o : Origin) : List (Slot σ) → List (Draft × Draft) → σ → σ → Prop
  | nil (s : σ) : Fills o [] [] s s
  | cons {slot : Slot σ} {slots : List (Slot σ)} {d : Draft} {members : List (Draft × Draft)}
      {s s' s'' : σ} (empty : slot.filled s = false) (fill : slot.fill o d s = .ok s')
      (rest : Fills o slots members s' s'') :
      Fills o (slot :: slots) ((.text slot.name, d) :: members) s s''

/-- Every slot goes by one name, its own. -/
structure Named (slots : List (Slot σ)) : Prop where
  names_differ : (slots.map (·.name)).Nodup
  no_aliases : ∀ slot ∈ slots, slot.aliases = []

theorem Named.find?_eq {slots : List (Slot σ)} (h : Named slots) {slot : Slot σ}
    (hslot : slot ∈ slots) :
    (slots.find? fun s => s.name = slot.name || s.aliases.contains slot.name) = some slot := by
  induction slots with
  | nil => cases hslot
  | cons first slots ih =>
    obtain ⟨hnames, haliases⟩ := h
    rw [List.map_cons, List.nodup_cons] at hnames
    rw [List.forall_mem_cons] at haliases
    rcases List.mem_cons.mp hslot with rfl | hrest
    · simp
    · have hne : first.name ≠ slot.name := by
        intro he
        exact hnames.1 (he ▸ List.mem_map_of_mem hrest)
      rw [List.find?_cons_of_neg]
      · exact ih ⟨hnames.2, haliases.2⟩ hrest
      · simp [hne, haliases.1]

theorem fillMembers_of_fills (r : Record σ α) (hnamed : Named r.slots) {o : Origin}
    {slots : List (Slot σ)} {members : List (Draft × Draft)} {s s' : σ}
    (hslots : ∀ slot ∈ slots, slot ∈ r.slots) (h : Fills o slots members s s') :
    r.fillMembers o members s = .ok s' := by
  induction h with
  | nil s => rfl
  | @cons slot slots d members s s' s'' empty fill rest ih =>
    rw [List.forall_mem_cons] at hslots
    simp only [fillMembers, key, bind, Except.bind, hnamed.find?_eq hslots.1, empty,
      Bool.false_eq_true, if_false, fill]
    exact ih hslots.2

/-- A record is read back from an object with a member for each slot, in order. -/
theorem decode_of_fills (r : Record σ α) (hnamed : Named r.slots) {levels : Nat}
    {members : List (Draft × Draft)} {s : σ} {a : α}
    (h : Fills (.text levels) r.slots members r.start s) (hcomplete : r.complete s = .ok a) :
    r.decode (.text (levels + 1)) (.object members none) = .ok a := by
  have hfill := r.fillMembers_of_fills hnamed (fun _ hslot => hslot) h
  simp only [decode, Origin.enter, bind, Except.bind, hfill, ended]
  exact hcomplete

/-- How far a record can be while it is read: at its start, or one slot further. -/
inductive Reaches (r : Record σ α) (o : Origin) : σ → Prop
  | start : Reaches r o r.start
  | fill {slot : Slot σ} {d : Draft} {s s' : σ} (earlier : Reaches r o s)
      (mem : slot ∈ r.slots) (fill : slot.fill o d s = .ok s') : Reaches r o s'

variable {r : Record σ α} {o : Origin} {s s' : σ}

theorem reaches_of_fillMembers {members : List (Draft × Draft)} (hs : r.Reaches o s)
    (h : r.fillMembers o members s = .ok s') : r.Reaches o s' := by
  induction members generalizing s with
  | nil =>
    cases h
    exact hs
  | cons m members ih =>
    obtain ⟨k, -, h⟩ := bind_ok_iff.mp h
    split at h
    · split at h
      · cases h
      · exact ih hs h
    · rename_i slot hfind
      split at h
      · cases h
      · obtain ⟨s₁, hfill, h⟩ := bind_ok_iff.mp h
        exact ih (.fill hs (List.mem_of_find?_eq_some hfind) hfill) h

theorem reaches_of_fillItems {ending : Option Break} {position : Nat} {slots : List (Slot σ)}
    {items rest : List Draft} (hslots : ∀ slot ∈ slots, slot ∈ r.slots) (hs : r.Reaches o s)
    (h : r.fillItems o ending position slots items s = .ok (s', rest)) : r.Reaches o s' := by
  induction slots generalizing position items s with
  | nil =>
    cases h
    exact hs
  | cons slot slots ih =>
    rw [List.forall_mem_cons] at hslots
    cases items with
    | nil =>
      simp only [fillItems] at h
      split at h
      · cases h
      · split at h
        · exact ih hslots.2 hs h
        · cases h
    | cons d items =>
      obtain ⟨s₁, hfill, h⟩ := bind_ok_iff.mp h
      exact ih hslots.2 (.fill hs hslots.1 hfill) h

/-- What a record is made of was filled in slot by slot. -/
theorem reaches_of_decode {d : Draft} {a : α} (h : r.decode o d = .ok a) :
    ∃ inner s, o.enter = .ok inner ∧ r.Reaches inner s ∧ r.finish s = some a := by
  cases d with
  | object members ending =>
    obtain ⟨inner, ho, h⟩ := bind_ok_iff.mp h
    obtain ⟨s, hs, h⟩ := bind_ok_iff.mp h
    obtain ⟨_, -, h⟩ := bind_ok_iff.mp h
    refine ⟨inner, s, ho, reaches_of_fillMembers .start hs, ?_⟩
    unfold complete at h
    split at h
    · cases h
    · split at h
      · rename_i hfinish
        cases h
        exact hfinish
      · cases h
  | array items ending =>
    obtain ⟨inner, ho, h⟩ := bind_ok_iff.mp h
    obtain ⟨⟨s, rest⟩, hs, h⟩ := bind_ok_iff.mp h
    refine ⟨inner, s, ho, reaches_of_fillItems (fun _ hslot => hslot) .start hs, ?_⟩
    dsimp only at h
    split at h
    · obtain ⟨_, -, h⟩ := bind_ok_iff.mp h
      split at h
      · rename_i hfinish
        cases h
        exact hfinish
      · cases h
    · cases h
  | _ => cases h

end Record

/-! ## Tagged choices -/

namespace Tagged

variable {t : Tagged} {n : Nat}

/-- The variant of an object with its tag first and one other member. -/
theorem variantIn_object {o inner : Origin} {v field : String} {d : Draft}
    (ho : o.enter = .ok inner) (hv : t.variantOf inner (.text v) = .ok v) (hfield : field ≠ t.tag)
    (hd : readable inner d = .ok ()) :
    t.variantIn o (.object [(.text t.tag, .text v), (.text field, d)] none) = .ok v := by
  simp only [variantIn, ho, tagAmong, key, hv, hd, bind, Except.bind, if_true, hfield, if_false,
    ended, pure, Except.pure]

theorem levels_of_readable {d : Draft} (h : readable (.text n) d = .ok ()) : d.levels ≤ n := by
  simp only [readable] at h
  split at h
  · rename_i hd
    exact Draft.levels_le_of_read hd
  · cases h

theorem levels_of_variantOf {o : Origin} {d : Draft} {v : String} (h : t.variantOf o d = .ok v) :
    d.levels = 0 := by
  cases d with
  | array _ _ => cases h
  | object _ _ => cases h
  | _ => rfl

theorem levels_of_tagAmong {found : Option String} {members : List (Draft × Draft)}
    {v : Option String} (h : t.tagAmong (.text n) found members = .ok v) :
    Draft.levelsMembers members ≤ n := by
  induction members generalizing found with
  | nil => exact Nat.zero_le _
  | cons m rest ih =>
    obtain ⟨k, d⟩ := m
    obtain ⟨k, -, h⟩ := bind_ok_iff.mp h
    split at h
    · split at h
      · cases h
      · obtain ⟨tag, htag, h⟩ := bind_ok_iff.mp h
        have hd := levels_of_variantOf htag
        exact Nat.max_le.mpr ⟨by omega, ih h⟩
    · obtain ⟨_, hd, h⟩ := bind_ok_iff.mp h
      exact Nat.max_le.mpr ⟨levels_of_readable hd, ih h⟩

theorem levels_of_each_readable {items : List Draft} {us : List Unit}
    (h : each (readable (.text n)) items = .ok us) : Draft.levelsItems items ≤ n := by
  induction items generalizing us with
  | nil => exact Nat.zero_le _
  | cons d rest ih =>
    obtain ⟨_, hd, h⟩ := bind_ok_iff.mp h
    obtain ⟨_, hrest, -⟩ := bind_ok_iff.mp h
    exact Nat.max_le.mpr ⟨levels_of_readable hd, ih hrest⟩

/-- All of a tagged choice is read for its tag, so it goes no deeper than the text may. -/
theorem levels_of_variantIn {d : Draft} {v : String} (h : t.variantIn (.text n) d = .ok v) :
    d.levels ≤ n := by
  cases d with
  | object members ending =>
    obtain ⟨o, ho, h⟩ := bind_ok_iff.mp h
    cases n with
    | zero => cases ho
    | succ n =>
      cases ho
      obtain ⟨found, hfound, -⟩ := bind_ok_iff.mp h
      exact Nat.succ_le_succ (levels_of_tagAmong hfound)
  | array items ending =>
    obtain ⟨o, ho, h⟩ := bind_ok_iff.mp h
    cases n with
    | zero => cases ho
    | succ n =>
      cases ho
      cases items with
      | nil => exact Nat.succ_le_succ (Nat.zero_le _)
      | cons d rest =>
        obtain ⟨_, htag, h⟩ := bind_ok_iff.mp h
        obtain ⟨_, hrest, -⟩ := bind_ok_iff.mp h
        have hd := levels_of_variantOf htag
        exact Nat.succ_le_succ (Nat.max_le.mpr ⟨by omega, levels_of_each_readable hrest⟩)
  | _ => cases h

end Tagged

namespace Content

/-- What stands beside a tag, without the names. -/
def parts : Content α → List α
  | .members ms => ms.map Prod.snd
  | .items as => as

theorem field_of_single (owner field : String) (decode : α → Except DecodeError β) (a : α) :
    Content.field owner field decode (.members [(field, a)]) = decode a := by
  simp only [Content.field, fieldAmong, if_true]
  cases decode a <;> rfl

theorem mem_of_parts_beside {t : Tagged} {ms : List (Draft × α)} {a : α}
    (h : a ∈ (t.beside ms).parts) : ∃ k, (k, a) ∈ ms := by
  obtain ⟨m, hm, rfl⟩ := List.mem_map.mp h
  obtain ⟨⟨k, b⟩, hmem, hm⟩ := List.mem_filterMap.mp hm
  dsimp only at hm
  split at hm
  · split at hm
    · cases hm
    · cases hm
      exact ⟨_, hmem⟩
  · cases hm

theorem mem_of_fieldAmong {field : String} {decode : α → Except DecodeError β} {found : Option β}
    {ms : List (String × α)} {b : β} (h : fieldAmong field decode found ms = .ok b) :
    found = some b ∨ ∃ m ∈ ms, decode m.2 = .ok b := by
  induction ms generalizing found with
  | nil =>
    cases found with
    | none => cases h
    | some c =>
      cases h
      exact Or.inl rfl
  | cons m ms ih =>
    obtain ⟨k, a⟩ := m
    have later (h : found = some b ∨ ∃ m ∈ ms, decode m.2 = .ok b) :
        found = some b ∨ ∃ m ∈ (k, a) :: ms, decode m.2 = .ok b :=
      h.imp id fun ⟨m, hm, hb⟩ => ⟨m, List.mem_cons_of_mem _ hm, hb⟩
    cases found with
    | none =>
      simp only [fieldAmong] at h
      split at h
      · split at h
        · rename_i hm
          rcases ih h with hc | ⟨m, hm, hb⟩
          · cases hc
            exact Or.inr ⟨(k, a), List.mem_cons_self, hm⟩
          · exact Or.inr ⟨m, List.mem_cons_of_mem _ hm, hb⟩
        · cases h
      · exact later (ih h)
    | some c =>
      simp only [fieldAmong] at h
      split at h
      · cases h
      · exact later (ih h)

/-- The field of a variant is one of the parts. -/
theorem mem_of_field {owner field : String} {decode : α → Except DecodeError β}
    {content : Content α} {b : β} (h : content.field owner field decode = .ok b) :
    ∃ a ∈ content.parts, decode a = .ok b := by
  cases content with
  | members ms =>
    rcases mem_of_fieldAmong h with hnone | ⟨m, hm, hb⟩
    · cases hnone
    · exact ⟨m.2, List.mem_map_of_mem hm, hb⟩
  | items as =>
    match as, h with
    | [a], h => exact ⟨a, List.mem_singleton_self a, h⟩
    | a :: _ :: _, h =>
      simp only [Content.field] at h
      split at h <;> cases h

end Content

end Decode

end StoreClient
