-- Which values the decoders accept. A value is all there, so nothing but its shape counts; and a
-- record takes an object if each slot takes what it gets, no slot gets two members, and none goes
-- without that must not.
import Mathlib.Data.List.Nodup
import Mathlib.Data.List.Pairwise
import StoreClient.Proofs.Decoders

namespace StoreClient

/-! ## Drafts of values -/

namespace Draft

mutual

/-- The draft of a value reads within its own levels. -/
theorem exists_read_ofJson : ∀ (j : Json) {depth : Nat}, (ofJson j).levels ≤ depth →
    ∃ value, (ofJson j).read depth = .ok value
  | .array items, depth, h => by
    cases depth with
    | zero => cases h
    | succ depth =>
      obtain ⟨values, hvalues⟩ := exists_readItems_ofJson items (Nat.le_of_succ_le_succ h)
      exact ⟨.array values, by simp only [ofJson, read, hvalues]⟩
  | .object members, depth, h => by
    cases depth with
    | zero => cases h
    | succ depth =>
      obtain ⟨values, hvalues⟩ := exists_readMembers_ofJson members (Nat.le_of_succ_le_succ h)
      exact ⟨.object (Json.sorted values), by simp only [ofJson, read, hvalues]⟩
  | .null, _, _ => ⟨.null, by simp only [ofJson, read]⟩
  | .bool b, _, _ => ⟨.bool b, by simp only [ofJson, read]⟩
  | .number n, _, _ => ⟨.number n, by simp only [ofJson, read]⟩
  | .text s, _, _ => ⟨.text s, by simp only [ofJson, read]⟩

theorem exists_readItems_ofJson : ∀ (items : List Json) {depth : Nat},
    levelsItems (ofJson.ofItems items) ≤ depth →
      ∃ values, readItems depth (ofJson.ofItems items) = .ok values
  | [], _, _ => ⟨[], by simp only [ofJson.ofItems, readItems]⟩
  | item :: rest, depth, h => by
    obtain ⟨hitem, hrest⟩ := Nat.max_le.mp h
    obtain ⟨value, hvalue⟩ := exists_read_ofJson item hitem
    obtain ⟨values, hvalues⟩ := exists_readItems_ofJson rest hrest
    exact ⟨value :: values, by simp only [ofJson.ofItems, readItems, hvalue, hvalues]⟩

theorem exists_readMembers_ofJson : ∀ (members : List (String × Json)) {depth : Nat},
    levelsMembers (ofJson.ofMembers members) ≤ depth →
      ∃ values, readMembers depth (ofJson.ofMembers members) = .ok values
  | [], _, _ => ⟨[], by simp only [ofJson.ofMembers, readMembers]⟩
  | (key, item) :: rest, depth, h => by
    obtain ⟨hitem, hrest⟩ := Nat.max_le.mp h
    obtain ⟨value, hvalue⟩ := exists_read_ofJson item hitem
    obtain ⟨values, hvalues⟩ := exists_readMembers_ofJson rest hrest
    exact ⟨(key, value) :: values, by
      simp only [ofJson.ofMembers, readMembers, read, hvalue, hvalues]⟩

end

mutual

/-- Nothing is broken in the draft of a value. -/
theorem passing_ofJson : ∀ j : Json, (ofJson j).passing = none
  | .array items => by simp only [ofJson, passing, passingItems_ofJson items, Option.or_none]
  | .object members => by
    simp only [ofJson, passing, passingMembers_ofJson members, Option.or_none]
  | .null | .bool _ | .number _ | .text _ => by simp only [ofJson, passing]

theorem passingItems_ofJson : ∀ items : List Json, passingItems (ofJson.ofItems items) = none
  | [] => by simp only [ofJson.ofItems, passingItems]
  | item :: rest => by
    simp only [ofJson.ofItems, passingItems, passing_ofJson item, passingItems_ofJson rest,
      Option.or_none]

theorem passingMembers_ofJson : ∀ members : List (String × Json),
    passingMembers (ofJson.ofMembers members) = none
  | [] => by simp only [ofJson.ofMembers, passingMembers]
  | (key, item) :: rest => by
    simp only [ofJson.ofMembers, passingMembers, passing, passing_ofJson item,
      passingMembers_ofJson rest, Option.or_none]

end

end Draft

namespace Decode

open Draft (ofJson)

/-! ## Reading values -/

theorem any_ok (j : Json) : ∃ value, any .value (ofJson j) = .ok value := by
  obtain ⟨value, hvalue⟩ := Draft.exists_read_ofJson j (Nat.le_refl _)
  exact ⟨value, by simp only [any, hvalue]⟩

theorem text_ok_iff {j : Json} : (∃ s, text .value (ofJson j) = .ok s) ↔ ∃ s, j = .text s := by
  cases j <;> simp [text, ofJson]

theorem optional_text_ok_iff {j : Json} : (∃ s, optional text .value (ofJson j) = .ok s) ↔
    j = .null ∨ ∃ s, j = .text s := by
  cases j <;> simp [optional, text, ofJson, Except.map]

variable {α σ : Type}

theorem each_ok_iff {decode : Draft → Except DecodeError α} {ds : List Draft} :
    (∃ as, each decode ds = .ok as) ↔ ∀ d ∈ ds, ∃ a, decode d = .ok a := by
  induction ds with
  | nil => simp [each]
  | cons d ds ih =>
    rw [List.forall_mem_cons, ← ih]
    simp only [each, bind_ok_iff]
    constructor
    · rintro ⟨_, a, ha, as, has, -⟩
      exact ⟨⟨a, ha⟩, as, has⟩
    · rintro ⟨⟨a, ha⟩, as, has⟩
      exact ⟨a :: as, a, ha, as, has, rfl⟩

theorem list_ok_iff {decode : Decoder α} {j : Json} :
    (∃ as, list decode .value (ofJson j) = .ok as) ↔
      ∃ items, j = .array items ∧ ∀ item ∈ items, ∃ a, decode .value (ofJson item) = .ok a := by
  cases j with
  | array items =>
    have heach : (∃ as, each (decode .value) (items.map ofJson) = .ok as) ↔ _ := each_ok_iff
    rw [List.forall_mem_map] at heach
    simp only [Json.array.injEq, exists_eq_left', ← heach, ofJson, Draft.ofItems_eq_map, list,
      bind_ok_iff]
    constructor
    · rintro ⟨_, o, ho, as, has, -⟩
      cases ho
      exact ⟨as, has⟩
    · rintro ⟨as, has⟩
      exact ⟨as, .value, rfl, as, has, (), rfl, rfl⟩
  | _ => simp [list, ofJson]

/-! ## Records -/

theorem slot_fill_ok_iff {name : String} {omission : Omission} {decode : Decoder α}
    {get : σ → Option α} {put : α → σ → σ} {o : Origin} {d : Draft} {s : σ} :
    (∃ s', (slot name omission decode get put).fill o d s = .ok s') ↔ ∃ a, decode o d = .ok a := by
  simp only [slot_fill_iff]
  constructor
  · rintro ⟨_, a, ha, -⟩
    exact ⟨a, ha⟩
  · rintro ⟨a, ha⟩
    exact ⟨put a s, a, ha, rfl⟩

/-- The names that a slot goes by. -/
def Slot.names (slot : Slot σ) : List String := slot.name :: slot.aliases

namespace Record

/-- Slots that do not look at each other. Each goes by names of its own and is empty at the start;
what it takes does not depend on the others, nor does it fill them; and those that must be filled
are enough. -/
structure Independent (r : Record σ α) : Prop where
  names_differ : (r.slots.flatMap Slot.names).Nodup
  start_empty : ∀ slot ∈ r.slots, slot.filled r.start = false
  fill_ok_iff : ∀ slot ∈ r.slots, ∀ d s,
    (∃ s', slot.fill .value d s = .ok s') ↔ ∃ s', slot.fill .value d r.start = .ok s'
  filled_of_fill : ∀ slot ∈ r.slots, ∀ d s s', slot.fill .value d s = .ok s' →
    ∀ other ∈ r.slots, other.filled s' = (other.filled s || other.name = slot.name)
  finish_of_filled : ∀ s, (∀ slot ∈ r.slots, slot.omission = .never → slot.filled s = true) →
    ∃ a, r.finish s = some a

/-- A member whose slot takes its value, or that has no slot. -/
def Takes (r : Record σ α) (m : String × Json) : Prop :=
  ∀ slot ∈ r.slots, m.1 ∈ slot.names → ∃ s, slot.fill .value (ofJson m.2) r.start = .ok s

/-- Two members for one slot. -/
def Clash (r : Record σ α) (m m' : String × Json) : Prop :=
  ∃ slot ∈ r.slots, m.1 ∈ slot.names ∧ m'.1 ∈ slot.names

/-- The slots of these members are empty. -/
def Free (r : Record σ α) (members : List (String × Json)) (s : σ) : Prop :=
  ∀ m ∈ members, ∀ slot ∈ r.slots, m.1 ∈ slot.names → slot.filled s = false

variable {r : Record σ α} {key : String} {value : Json} {members : List (String × Json)} {s s' : σ}
  {slot other : Slot σ}

theorem Independent.eq_of_names (hr : r.Independent) (hslot : slot ∈ r.slots)
    (hother : other ∈ r.slots) (hkey : key ∈ slot.names) (hkey' : key ∈ other.names) :
    slot = other := by
  have hdisjoint := (List.nodup_flatMap.mp hr.names_differ).2
  have hsymm : Std.Symm (Function.onFun List.Disjoint (@Slot.names σ)) :=
    ⟨fun _ _ h => List.disjoint_symm h⟩
  by_contra hne
  exact hdisjoint.forall hslot hother hne hkey hkey'

/-- Filling a slot that goes by a key fills the slots that go by it. -/
theorem Independent.filled_iff (hr : r.Independent) (hslot : slot ∈ r.slots)
    (hkey : key ∈ slot.names) {d : Draft} (hfill : slot.fill .value d s = .ok s')
    (hother : other ∈ r.slots) :
    other.filled s' = true ↔ other.filled s = true ∨ key ∈ other.names := by
  rw [hr.filled_of_fill slot hslot d s s' hfill other hother, Bool.or_eq_true, decide_eq_true_iff]
  refine or_congr_right ⟨fun hname => ?_, fun hkey' => ?_⟩
  · have hself : other.name ∈ slot.names := hname ▸ List.mem_cons_self
    rwa [hr.eq_of_names hother hslot List.mem_cons_self hself]
  · rw [hr.eq_of_names hother hslot hkey' hkey]

theorem find?_eq_none_iff :
    (r.slots.find? fun slot => slot.name = key || slot.aliases.contains key) = none ↔
      ∀ slot ∈ r.slots, key ∉ slot.names := by
  simp [Slot.names, eq_comm (a := key)]

theorem Independent.find?_eq_some (hr : r.Independent) (hslot : slot ∈ r.slots)
    (hkey : key ∈ slot.names) :
    (r.slots.find? fun slot => slot.name = key || slot.aliases.contains key) = some slot := by
  cases hfind : r.slots.find? fun slot => slot.name = key || slot.aliases.contains key with
  | none => exact absurd hkey (find?_eq_none_iff.mp hfind slot hslot)
  | some other =>
    have hkey' : key ∈ other.names := by
      have hfits := List.find?_some hfind
      simpa [Slot.names, eq_comm (a := key)] using hfits
    rw [hr.eq_of_names hslot (List.mem_of_find?_eq_some hfind) hkey hkey']

/-- A member without a slot is passed over. -/
theorem fillMembers_of_no_slot (h : ∀ slot ∈ r.slots, key ∉ slot.names) :
    r.fillMembers .value (ofJson.ofMembers ((key, value) :: members)) s =
      r.fillMembers .value (ofJson.ofMembers members) s := by
  simp only [ofJson.ofMembers, fillMembers, Decode.key, bind, Except.bind,
    find?_eq_none_iff.mpr h, Draft.passing_ofJson]

theorem fillMembers_of_slot (hr : r.Independent) (hslot : slot ∈ r.slots)
    (hkey : key ∈ slot.names) :
    r.fillMembers .value (ofJson.ofMembers ((key, value) :: members)) s = .ok s' ↔
      slot.filled s = false ∧ ∃ s₁, slot.fill .value (ofJson value) s = .ok s₁ ∧
        r.fillMembers .value (ofJson.ofMembers members) s₁ = .ok s' := by
  rw [ofJson.ofMembers, fillMembers]
  simp only [Decode.key, bind, Except.bind, hr.find?_eq_some hslot hkey]
  by_cases hfilled : slot.filled s = true
  · simp [hfilled]
  · rw [if_neg hfilled]
    cases slot.fill .value (ofJson value) s <;> simp [hfilled]

/-- What is filled in the end was filled at first, or a member went to it. -/
theorem filled_of_fillMembers (hr : r.Independent)
    (h : r.fillMembers .value (ofJson.ofMembers members) s = .ok s') (hslot : slot ∈ r.slots) :
    slot.filled s' = true ↔ slot.filled s = true ∨ ∃ m ∈ members, m.1 ∈ slot.names := by
  induction members generalizing s with
  | nil =>
    cases h
    simp
  | cons m members ih =>
    obtain ⟨key, value⟩ := m
    simp only [List.mem_cons, exists_eq_or_imp]
    by_cases hhas : ∃ taker ∈ r.slots, key ∈ taker.names
    · obtain ⟨taker, htaker, hkey⟩ := hhas
      obtain ⟨-, s₁, hfill, h⟩ := (fillMembers_of_slot hr htaker hkey).mp h
      rw [ih h, hr.filled_iff htaker hkey hfill hslot, or_assoc]
    · have hno : ∀ slot ∈ r.slots, key ∉ slot.names := by simpa using hhas
      rw [fillMembers_of_no_slot hno] at h
      simp only [ih h, hno slot hslot, false_or]

/-- Once a slot is filled, those of further members are empty if they were and are others. -/
theorem free_after_iff (hr : r.Independent) (hslot : slot ∈ r.slots) (hkey : key ∈ slot.names)
    {d : Draft} (hfill : slot.fill .value d s = .ok s') :
    r.Free members s' ↔ r.Free members s ∧ ∀ m ∈ members, ¬ r.Clash (key, value) m := by
  have hafter {other : Slot σ} (hother : other ∈ r.slots) :
      other.filled s' = false ↔ other.filled s = false ∧ key ∉ other.names := by
    rw [Bool.eq_false_iff, Ne, hr.filled_iff hslot hkey hfill hother, not_or, Bool.not_eq_true]
  constructor
  · intro hfree
    refine ⟨fun m hm other hother h => ?_, fun m hm ⟨other, hother, hself, h⟩ => ?_⟩
    · exact ((hafter hother).mp (hfree m hm other hother h)).1
    · exact ((hafter hother).mp (hfree m hm other hother h)).2 hself
  · rintro ⟨hfree, hclash⟩ m hm other hother h
    refine (hafter hother).mpr ⟨hfree m hm other hother h, fun hself => ?_⟩
    exact hclash m hm ⟨other, hother, hself, h⟩

/-- Members are filled in if their slots take them, were empty, and differ. -/
theorem fillMembers_ok_iff (hr : r.Independent) :
    (∃ s', r.fillMembers .value (ofJson.ofMembers members) s = .ok s') ↔
      (∀ m ∈ members, r.Takes m) ∧ r.Free members s ∧
        members.Pairwise fun m m' => ¬ r.Clash m m' := by
  induction members generalizing s with
  | nil =>
    simp only [Free, List.not_mem_nil, false_implies, implies_true, List.Pairwise.nil, and_true,
      iff_true]
    exact ⟨s, rfl⟩
  | cons m members ih =>
    obtain ⟨key, value⟩ := m
    rw [Free, List.forall_mem_cons, List.forall_mem_cons, List.pairwise_cons]
    by_cases hhas : ∃ taker ∈ r.slots, key ∈ taker.names
    · obtain ⟨taker, htaker, hkey⟩ := hhas
      have honly {slot : Slot σ} (hslot : slot ∈ r.slots) (h : key ∈ slot.names) : slot = taker :=
        hr.eq_of_names hslot htaker h hkey
      simp only [fillMembers_of_slot hr htaker hkey]
      constructor
      · rintro ⟨s', hempty, s₁, hfill, h⟩
        obtain ⟨htakes, hfree, hpairs⟩ := ih.mp ⟨s', h⟩
        obtain ⟨hfree, hclash⟩ := (free_after_iff hr htaker hkey hfill).mp hfree
        refine ⟨⟨fun slot hslot h => ?_, htakes⟩, ⟨fun slot hslot h => ?_, hfree⟩, hclash, hpairs⟩
        · rw [honly hslot h]
          exact (hr.fill_ok_iff taker htaker _ s).mp ⟨s₁, hfill⟩
        · rwa [honly hslot h]
      · rintro ⟨⟨htake, htakes⟩, ⟨hempty, hfree⟩, hclash, hpairs⟩
        obtain ⟨s₁, hfill⟩ := (hr.fill_ok_iff taker htaker _ s).mpr (htake taker htaker hkey)
        have hfree₁ := (free_after_iff hr htaker hkey hfill).mpr ⟨hfree, hclash⟩
        obtain ⟨s', h⟩ := ih.mpr ⟨htakes, hfree₁, hpairs⟩
        exact ⟨s', hempty taker htaker hkey, s₁, hfill, h⟩
    · have hno : ∀ slot ∈ r.slots, key ∉ slot.names := by simpa using hhas
      have htakes : r.Takes (key, value) := fun slot hslot h => absurd h (hno slot hslot)
      have hempty : ∀ slot ∈ r.slots, key ∈ slot.names → slot.filled s = false :=
        fun slot hslot h => absurd h (hno slot hslot)
      have hclash (m : String × Json) : ¬ r.Clash (key, value) m :=
        fun ⟨slot, hslot, h, _⟩ => hno slot hslot h
      rw [fillMembers_of_no_slot hno, ih, and_iff_right htakes, and_iff_right hempty,
        and_iff_right fun m _ => hclash m]
      rfl

/-- A record is complete if the slots that must be filled are. -/
theorem complete_ok_iff (hr : r.Independent) : (∃ a, r.complete s = .ok a) ↔
    ∀ slot ∈ r.slots, slot.omission = .never → slot.filled s = true := by
  have hmissing : r.slots.find? (fun slot => slot.omission = .never && !slot.filled s) = none ↔
      ∀ slot ∈ r.slots, slot.omission = .never → slot.filled s = true := by
    simp
  rw [← hmissing, complete]
  constructor
  · rintro ⟨a, h⟩
    split at h
    · cases h
    · assumption
  · intro h
    obtain ⟨a, ha⟩ := hr.finish_of_filled s (hmissing.mp h)
    rw [h]
    exact ⟨a, by rw [ha]⟩

/-- An object is accepted if its members are taken, go to slots that differ, and fill those that
must be. -/
theorem decode_object_ok_iff (hr : r.Independent) :
    (∃ a, r.decode .value (ofJson (.object members)) = .ok a) ↔
      (∀ m ∈ members, r.Takes m) ∧ members.Pairwise (fun m m' => ¬ r.Clash m m') ∧
        ∀ slot ∈ r.slots, slot.omission = .never → ∃ m ∈ members, m.1 ∈ slot.names := by
  have hfree : r.Free members r.start := fun _ _ slot hslot _ => hr.start_empty slot hslot
  have hfilled {s : σ} (h : r.fillMembers .value (ofJson.ofMembers members) r.start = .ok s)
      {slot : Slot σ} (hslot : slot ∈ r.slots) :
      slot.filled s = true ↔ ∃ m ∈ members, m.1 ∈ slot.names := by
    simp [filled_of_fillMembers hr h hslot, hr.start_empty slot hslot]
  have hfills := @fillMembers_ok_iff _ _ r members r.start hr
  rw [and_iff_right hfree] at hfills
  simp only [ofJson, decode, bind_ok_iff, ← and_assoc, ← hfills]
  constructor
  · rintro ⟨a, o, ho, s, hs, -, -, ha⟩
    cases ho
    refine ⟨⟨s, hs⟩, fun slot hslot hnever => (hfilled hs hslot).mp ?_⟩
    exact (complete_ok_iff hr).mp ⟨a, ha⟩ slot hslot hnever
  · rintro ⟨⟨s, hs⟩, hall⟩
    obtain ⟨a, ha⟩ := (complete_ok_iff hr).mpr fun slot hslot hnever =>
      (hfilled hs hslot).mpr (hall slot hslot hnever)
    exact ⟨a, .value, rfl, s, hs, (), rfl, ha⟩

end Record

end Decode

end StoreClient
