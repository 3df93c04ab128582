-- Values whose objects have each key once. Whatever is read from a JSON text is such a value: its
-- members are put in by their keys, and of two members with one key the later one stays.
import Mathlib.Data.List.Nodup
import Mathlib.Data.String.Basic
import StoreClient.Json.Scan

namespace StoreClient

namespace Json

/-- A value whose objects have each key once. -/
inductive Keyed : Json → Prop
  | null : Keyed .null
  | bool (b : Bool) : Keyed (.bool b)
  | number (n : Number) : Keyed (.number n)
  | text (s : String) : Keyed (.text s)
  | array {items : List Json} (items_keyed : ∀ item ∈ items, Keyed item) : Keyed (.array items)
  | object {members : List (String × Json)} (keys_differ : (members.map (·.1)).Nodup)
      (values_keyed : ∀ m ∈ members, Keyed m.2) : Keyed (.object members)

@[simp] theorem keyed_text (s : String) : (Json.text s).Keyed := .text s

@[simp] theorem keyed_array {items : List Json} :
    (Json.array items).Keyed ↔ ∀ item ∈ items, item.Keyed := by
  constructor
  · rintro (_ | _ | _ | _ | h | _)
    exact h
  · exact .array

@[simp] theorem keyed_object {members : List (String × Json)} : (Json.object members).Keyed ↔
    (members.map (·.1)).Nodup ∧ ∀ m ∈ members, m.2.Keyed := by
  constructor
  · rintro (_ | _ | _ | _ | _ | ⟨hkeys, hvalues⟩)
    exact ⟨hkeys, hvalues⟩
  · rintro ⟨hkeys, hvalues⟩
    exact .object hkeys hvalues

/-! ## Members in the order of their keys -/

/-- Each key comes before the next, so none stands twice. -/
def InOrder (members : List (String × Json)) : Prop := members.Pairwise fun m n => m.1 < n.1

variable {key : String} {value : Json} {members : List (String × Json)}

theorem InOrder.nodup_keys (h : InOrder members) : (members.map (·.1)).Nodup :=
  List.pairwise_map.mpr (h.imp fun hlt => ne_of_lt hlt)

theorem mem_insert {m : String × Json} (h : m ∈ insert key value members) :
    m = (key, value) ∨ m ∈ members := by
  induction members with
  | nil => exact .inl (List.mem_singleton.mp h)
  | cons first rest ih =>
    obtain ⟨k, v⟩ := first
    unfold insert at h
    split at h
    · exact List.mem_cons.mp h
    · split at h
      · exact (List.mem_cons.mp h).imp_right (List.mem_cons_of_mem _)
      · rcases List.mem_cons.mp h with rfl | h
        · exact .inr List.mem_cons_self
        · exact (ih h).imp_right (List.mem_cons_of_mem _)

theorem inOrder_insert (h : InOrder members) : InOrder (insert key value members) := by
  induction members with
  | nil => exact List.pairwise_singleton _ _
  | cons first rest ih =>
    obtain ⟨k, v⟩ := first
    obtain ⟨hfirst, hrest⟩ := List.pairwise_cons.mp h
    unfold insert
    split
    · rename_i hlt
      refine List.pairwise_cons.mpr ⟨List.forall_mem_cons.mpr ⟨hlt, fun m hm => ?_⟩, h⟩
      exact hlt.trans (hfirst m hm)
    · rename_i hnot
      split
      · rename_i heq
        subst heq
        exact List.pairwise_cons.mpr ⟨hfirst, hrest⟩
      · rename_i hne
        refine List.pairwise_cons.mpr ⟨fun m hm => ?_, ih hrest⟩
        rcases mem_insert hm with rfl | hm
        · exact lt_of_le_of_ne (not_lt.mp hnot) (Ne.symm hne)
        · exact hfirst m hm

/-- Members that are put in one after the other, each by its key. -/
theorem inOrder_foldl_insert (more : List (String × Json)) (h : InOrder members) :
    InOrder (more.foldl (fun ms m => insert m.1 m.2 ms) members) ∧
      ∀ m ∈ more.foldl (fun ms m => insert m.1 m.2 ms) members, m ∈ members ∨ m ∈ more := by
  induction more generalizing members with
  | nil => exact ⟨h, fun m hm => .inl hm⟩
  | cons first more ih =>
    obtain ⟨horder, hmem⟩ := ih (inOrder_insert h)
    refine ⟨horder, fun m hm => ?_⟩
    rcases hmem m hm with hm | hm
    · rcases mem_insert hm with rfl | hm
      · exact .inr List.mem_cons_self
      · exact .inl hm
    · exact .inr (List.mem_cons_of_mem _ hm)

theorem keyed_sorted (h : ∀ m ∈ members, m.2.Keyed) : (Json.object (sorted members)).Keyed := by
  obtain ⟨horder, hmem⟩ := inOrder_foldl_insert members List.Pairwise.nil
  refine .object horder.nodup_keys fun m hm => ?_
  rcases hmem m hm with hnone | hm
  · exact absurd hnone List.not_mem_nil
  · exact h m hm

end Json

/-! ## Texts -/

namespace Draft

mutual

theorem keyed_of_read : ∀ (d : Draft) {depth : Nat} {j : Json}, d.read depth = .ok j → j.Keyed
  | .array items ending, depth, j, h => by
    cases depth with
    | zero => cases h
    | succ depth =>
      simp only [read] at h
      split at h
      · cases h
      · cases h
      · rename_i values hvalues
        cases h
        exact .array (keyed_of_readItems items hvalues)
  | .object members ending, depth, j, h => by
    cases depth with
    | zero => cases h
    | succ depth =>
      simp only [read] at h
      split at h
      · cases h
      · cases h
      · rename_i values hvalues
        cases h
        exact Json.keyed_sorted (keyed_of_readMembers members hvalues)
  | .null, _, _, h => by
    simp only [read] at h
    cases h
    exact .null
  | .bool b, _, _, h => by
    simp only [read] at h
    cases h
    exact .bool b
  | .number n, _, _, h => by
    simp only [read] at h
    cases h
    exact .number n
  | .text s, _, _, h => by
    simp only [read] at h
    cases h
    exact .text s
  | .flawedText _ _, _, _, h | .flawedWord _ _, _, _, h | .absent _, _, _, h => by
    simp only [read] at h
    cases h

theorem keyed_of_readItems : ∀ (items : List Draft) {depth : Nat} {values : List Json},
    readItems depth items = .ok values → ∀ value ∈ values, value.Keyed
  | [], _, _, h => by
    simp only [readItems] at h
    cases h
    exact List.forall_mem_nil _
  | item :: rest, depth, _, h => by
    simp only [readItems] at h
    split at h
    · cases h
    · rename_i value hvalue
      split at h
      · cases h
      · rename_i values hvalues
        cases h
        exact List.forall_mem_cons.mpr ⟨keyed_of_read item hvalue, keyed_of_readItems rest hvalues⟩

theorem keyed_of_readMembers : ∀ (members : List (Draft × Draft)) {depth : Nat}
    {values : List (String × Json)}, readMembers depth members = .ok values →
      ∀ m ∈ values, m.2.Keyed
  | [], _, _, h => by
    simp only [readMembers] at h
    cases h
    exact List.forall_mem_nil _
  | (key, item) :: rest, depth, _, h => by
    simp only [readMembers] at h
    split at h
    · split at h
      · cases h
      · rename_i value hvalue
        split at h
        · cases h
        · rename_i values hvalues
          cases h
          exact List.forall_mem_cons.mpr
            ⟨keyed_of_read item hvalue, keyed_of_readMembers rest hvalues⟩
    · cases h
    · cases h

end

end Draft

/-- What a JSON text is read into has each key of an object once. -/
theorem Json.keyed_of_parse {text : String} {j : Json} (h : Json.parse text = .ok j) :
    j.Keyed := by
  simp only [Json.parse] at h
  split at h
  · cases h
  · rename_i value hvalue
    split at h
    · cases h
    · cases h
      exact Draft.keyed_of_read _ hvalue

end StoreClient
