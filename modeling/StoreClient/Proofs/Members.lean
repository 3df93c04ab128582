-- Members by their keys: what a key gives once a member is put in, taken out or replaced. It
-- gives the same whether or not the members are in order, or a key stands twice.
import StoreClient.Json.Basic

namespace StoreClient

section

variable {α β : Type} [DecidableEq α] [BEq α] [LawfulBEq α]

theorem lookup_cons_if (key k : α) (value : β) (members : List (α × β)) :
    ((key, value) :: members).lookup k = if k = key then some value else members.lookup k := by
  rw [List.lookup_cons]
  by_cases h : k = key
  · simp [h]
  · simp [beq_false_of_ne h, h]

theorem lookup_filter_ne (members : List (α × β)) (key k : α) :
    (members.filter fun m => m.1 ≠ key).lookup k = if k = key then none else members.lookup k := by
  induction members with
  | nil => exact (ite_self none).symm
  | cons m members ih =>
    obtain ⟨key', value⟩ := m
    by_cases hkey : key' = key
    · rw [List.filter_cons_of_neg (by simp [hkey]), ih, lookup_cons_if, hkey]
      grind
    · rw [List.filter_cons_of_pos (by simp [hkey]), lookup_cons_if, lookup_cons_if, ih]
      grind

theorem lookup_eq_none_iff_forall {members : List (α × β)} {key : α} :
    members.lookup key = none ↔ ∀ m ∈ members, m.1 ≠ key := by
  simp only [List.lookup_eq_none_iff]
  grind

/-- With each key once, a member is what its key gives. -/
theorem lookup_eq_some_iff_mem {members : List (α × β)} {key : α} {value : β}
    (h : (members.map (·.1)).Nodup) :
    members.lookup key = some value ↔ (key, value) ∈ members := by
  induction members with
  | nil => simp
  | cons m members ih =>
    obtain ⟨key', value'⟩ := m
    rw [List.map_cons, List.nodup_cons] at h
    rw [lookup_cons_if, List.mem_cons, Prod.mk.injEq, ← ih h.2]
    split
    · rename_i hkey
      have hnone : (key, value) ∉ members := fun hmem =>
        h.1 (List.mem_map.mpr ⟨(key, value), hmem, hkey⟩)
      grind
    · grind

end

namespace Json

variable (key k : String) (value : Json) (members : List (String × Json))

theorem lookup_insert :
    (insert key value members).lookup k = if k = key then some value else members.lookup k := by
  induction members with
  | nil => rw [insert, lookup_cons_if]
  | cons m rest ih =>
    obtain ⟨key', value'⟩ := m
    unfold insert
    split
    · rw [lookup_cons_if]
    · split
      · rename_i heq
        rw [heq, lookup_cons_if, lookup_cons_if]
        split <;> rfl
      · rename_i hne
        rw [lookup_cons_if, lookup_cons_if, ih]
        grind

theorem lookup_erase :
    (erase key members).lookup k = if k = key then none else members.lookup k :=
  lookup_filter_ne members key k

/-- A replaced member keeps its place, and a key that is not there is not put in. -/
theorem lookup_replace : (replace key value members).lookup k =
    if k = key then (members.lookup k).map fun _ => value else members.lookup k := by
  induction members with
  | nil => simp [replace]
  | cons m rest ih =>
    obtain ⟨key', value'⟩ := m
    unfold replace at ih ⊢
    rw [List.map_cons]
    split
    · rename_i heq
      rw [lookup_cons_if, lookup_cons_if, ih]
      grind
    · rw [lookup_cons_if, lookup_cons_if, ih]
      grind

theorem replace_replace (value' : Json) :
    replace key value (replace key value' members) = replace key value members := by
  unfold replace
  rw [List.map_map]
  apply List.map_congr_left
  intro m _
  by_cases h : m.1 = key <;> simp [h]

variable {key value members}

theorem replace_eq_self (h : ∀ j, (key, j) ∈ members → j = value) :
    replace key value members = members := by
  unfold replace
  refine (List.map_congr_left ?_).trans (List.map_id members)
  rintro ⟨k, j⟩ hm
  by_cases hkey : k = key
  · subst hkey
    rw [if_pos rfl, h j hm]
    rfl
  · exact if_neg hkey

end Json

end StoreClient
