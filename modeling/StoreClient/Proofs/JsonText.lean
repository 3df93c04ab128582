-- The law of JSON texts: a value that the printer lays out line by line is scanned back to
-- itself, whatever stands in its texts. Numbers are left out of it; a schema has none.
import StoreClient.Json.Printer
import StoreClient.Json.Scan

namespace StoreClient

/-! ## Literals -/

namespace Literal

theorem toList_ofString (s : String) : (ofString s).toList = quote s.toList :=
  String.toList_ofList

/-- A literal and what follows it, after the opening quote. -/
theorem quote_append (cs tail : List Char) :
    quote cs ++ tail = '"' :: (encode cs ++ '"' :: tail) := by
  rw [quote, List.cons_append, List.append_assoc, List.singleton_append]

end Literal

namespace Scan

theorem digit?_hexDigit : ∀ n < 16, Digits.digit? 16 (Literal.hexDigit n) = some n := by decide

/-- The four digits of an escape by number give the number that was written. -/
theorem number?_of_escape {n : Nat} (h : n < 256) :
    Digits.number? 16 ['0', '0', Literal.hexDigit (n / 16), Literal.hexDigit (n % 16)] =
      some n := by
  have hzero : Digits.digit? 16 '0' = some 0 := by decide
  have hhigh := digit?_hexDigit (n / 16) (by omega)
  have hlow := digit?_hexDigit (n % 16) (by omega)
  simp only [Digits.number?, Digits.numberAfter?, hzero, hhigh, hlow]
  congr 1
  omega

theorem pushCode_of_control (acc : List Char) {c : Char} (h : c.toNat < 32) :
    Inside.pushCode ⟨acc, none, none⟩ c.toNat = ⟨c :: acc, none, none⟩ := by
  have hhigh : isHighSurrogate c.toNat = false := by
    simp only [isHighSurrogate, Bool.and_eq_false_iff, decide_eq_false_iff_not]
    omega
  have hlow : isLowSurrogate c.toNat = false := by
    simp only [isLowSurrogate, Bool.and_eq_false_iff, decide_eq_false_iff_not]
    omega
  simp [Inside.pushCode, hhigh, hlow]

/-- One character of a literal is read as itself, whatever follows. -/
theorem text_escape (acc : List Char) (c : Char) (rest : List Char) :
    text ⟨acc, none, none⟩ (Literal.escape c ++ rest) = text ⟨c :: acc, none, none⟩ rest := by
  unfold Literal.escape
  split
  · rfl
  · rfl
  · rfl
  · rfl
  · rfl
  · rfl
  · rfl
  · rename_i hquote hslash _ _ _ _ _
    split
    · rename_i hcontrol
      simp only [List.cons_append, List.nil_append, text]
      rw [number?_of_escape (by omega)]
      simp only [pushCode_of_control acc hcontrol]
    · rename_i hplain
      rw [List.singleton_append, text]
      · rw [if_neg hplain]
        rfl
      · exact hquote
      · exact fun h _ => hslash h
      · exact fun _ _ _ _ _ h _ => hslash h
      · exact fun _ h _ => hslash h
      · exact fun _ _ h _ => hslash h

theorem text_encode (acc cs rest : List Char) :
    text ⟨acc, none, none⟩ (Literal.encode cs ++ '"' :: rest) =
      (.text (String.ofList (acc.reverse ++ cs)), some rest) := by
  induction cs generalizing acc with
  | nil =>
    rw [List.append_nil]
    rfl
  | cons c cs ih =>
    have hsplit : Literal.encode (c :: cs) = Literal.escape c ++ Literal.encode cs := rfl
    rw [hsplit, List.append_assoc, text_escape, ih, List.reverse_cons, List.append_assoc]
    rfl

/-- A literal is read back whole, after its opening quote. -/
theorem text_quote (s : String) (rest : List Char) :
    text ⟨[], none, none⟩ (Literal.encode s.toList ++ '"' :: rest) = (.text s, some rest) := by
  rw [text_encode, List.reverse_nil, List.nil_append, String.ofList_toList]

/-! ## Blanks -/

theorem skipBlank_newLine (level : Nat) (cs : List Char) :
    skipBlank (Json.newLine level ++ cs) = skipBlank cs := by
  have hspaces : ∀ n, skipBlank (List.replicate n ' ' ++ cs) = skipBlank cs := by
    intro n
    induction n with
    | zero => rfl
    | succ n ih =>
      rw [List.replicate_succ, List.cons_append, ← ih]
      rfl
  exact hspaces (2 * level)

/-- A text at which a value without numbers begins. -/
def BeginsValue (cs : List Char) : Prop :=
  ∃ c rest, cs = c :: rest ∧ c ∈ ['n', 't', 'f', '"', '[', '\x7b']

theorem BeginsValue.append {cs : List Char} (h : BeginsValue cs) (rest : List Char) :
    BeginsValue (cs ++ rest) := by
  obtain ⟨c, cs, rfl, hc⟩ := h
  exact ⟨c, cs ++ rest, rfl, hc⟩

theorem BeginsValue.skipBlank_eq {cs : List Char} (h : BeginsValue cs) : skipBlank cs = cs := by
  obtain ⟨c, cs, rfl, hc⟩ := h
  simp only [List.mem_cons, List.not_mem_nil, or_false] at hc
  rcases hc with rfl | rfl | rfl | rfl | rfl | rfl <;> rfl

/-! ## Items and members one by one -/

section

variable {fuel : Nat} {cs rest rest' : List Char} {d : Draft} {ds : List Draft}

theorem items_first (level : Nat) (hcs : BeginsValue cs) (hv : value fuel cs = (d, some rest))
    (hi : items fuel false rest = (ds, none, some rest')) :
    items (fuel + 1) true (Json.newLine level ++ cs) = (d :: ds, none, some rest') := by
  rw [items, skipBlank_newLine, hcs.skipBlank_eq]
  obtain ⟨c, cs, rfl, hc⟩ := hcs
  simp only [List.mem_cons, List.not_mem_nil, or_false] at hc
  rcases hc with rfl | rfl | rfl | rfl | rfl | rfl <;> simp [hv, hi]

theorem items_next (level : Nat) (hcs : BeginsValue cs) (hv : value fuel cs = (d, some rest))
    (hi : items fuel false rest = (ds, none, some rest')) :
    items (fuel + 1) false (',' :: (Json.newLine level ++ cs)) = (d :: ds, none, some rest') := by
  have hcomma : ∀ cs, skipBlank (',' :: cs) = ',' :: cs := fun _ => rfl
  rw [items, hcomma]
  simp only [Bool.false_eq_true, if_false, skipBlank_newLine, hcs.skipBlank_eq]
  obtain ⟨c, cs, rfl, hc⟩ := hcs
  simp only [List.mem_cons, List.not_mem_nil, or_false] at hc
  rcases hc with rfl | rfl | rfl | rfl | rfl | rfl <;> simp [hv, hi]

theorem items_end (level fuel : Nat) (rest : List Char) :
    items (fuel + 1) false (Json.newLine level ++ ']' :: rest) = ([], none, some rest) := by
  rw [items, skipBlank_newLine]
  rfl

theorem value_array (hi : items fuel true cs = (ds, none, some rest)) :
    value (fuel + 1) ('[' :: cs) = (.array ds none, some rest) := by
  have hskip : skipBlank ('[' :: cs) = '[' :: cs := rfl
  simp only [value, hskip, hi]

variable {k : String} {ms : List (Draft × Draft)}

theorem value_object (hm : members fuel true cs = (ms, none, some rest)) :
    value (fuel + 1) ('\x7b' :: cs) = (.object ms none, some rest) := by
  have hskip : skipBlank ('\x7b' :: cs) = '\x7b' :: cs := rfl
  simp only [value, hskip, hm]

theorem value_space (fuel : Nat) (cs : List Char) : value fuel (' ' :: cs) = value fuel cs := by
  cases fuel <;> rfl

theorem members_first (level : Nat) (hv : value fuel cs = (d, some rest))
    (hm : members fuel false rest = (ms, none, some rest')) :
    members (fuel + 1) true (Json.newLine level ++ (Literal.quote k.toList ++ ':' :: ' ' :: cs)) =
      ((.text k, d) :: ms, none, some rest') := by
  have hquote : ∀ cs, skipBlank ('"' :: cs) = '"' :: cs := fun _ => rfl
  have hcolon : ∀ cs, skipBlank (':' :: cs) = ':' :: cs := fun _ => rfl
  rw [members, skipBlank_newLine, Literal.quote_append, hquote]
  simp only [text_quote, hcolon, value_space, hv, hm, if_true]

theorem members_next (level : Nat) (hv : value fuel cs = (d, some rest))
    (hm : members fuel false rest = (ms, none, some rest')) :
    members (fuel + 1) false
        (',' :: (Json.newLine level ++ (Literal.quote k.toList ++ ':' :: ' ' :: cs))) =
      ((.text k, d) :: ms, none, some rest') := by
  have hcomma : ∀ cs, skipBlank (',' :: cs) = ',' :: cs := fun _ => rfl
  have hquote : ∀ cs, skipBlank ('"' :: cs) = '"' :: cs := fun _ => rfl
  have hcolon : ∀ cs, skipBlank (':' :: cs) = ':' :: cs := fun _ => rfl
  rw [members, hcomma]
  simp only [Bool.false_eq_true, if_false, skipBlank_newLine, Literal.quote_append, hquote,
    text_quote, hcolon, value_space, hv, hm]

theorem members_end (level fuel : Nat) (rest : List Char) :
    members (fuel + 1) false (Json.newLine level ++ '\x7d' :: rest) = ([], none, some rest) := by
  rw [members, skipBlank_newLine]
  rfl

end

end Scan

/-! ## Values -/

namespace Json

/-- A value with no number in it. -/
inductive Numberless : Json → Prop
  | null : Numberless null
  | bool (b : Bool) : Numberless (bool b)
  | text (s : String) : Numberless (text s)
  | array {items : List Json} (h : ∀ j ∈ items, Numberless j) : Numberless (array items)
  | object {members : List (String × Json)} (h : ∀ m ∈ members, Numberless m.2) :
      Numberless (object members)

attribute [simp] Numberless.null Numberless.bool Numberless.text

/-- The scan of the printed value gives the value, whatever follows it. Calls as many as the
printed characters are enough. -/
def ScansBack (j : Json) : Prop := ∀ level fuel rest, (j.pretty level).length ≤ fuel →
  Scan.value fuel (j.pretty level ++ rest) = (Draft.ofJson j, some rest)

theorem Numberless.begins {j : Json} (h : j.Numberless) (level : Nat) :
    Scan.BeginsValue (j.pretty level) := by
  cases h with
  | null => exact ⟨'n', _, by rw [pretty], by decide⟩
  | bool b => cases b <;> exact ⟨_, _, by rw [pretty], by decide⟩
  | text s => exact ⟨'"', _, by rw [pretty, Literal.quote], by decide⟩
  | @array items h =>
    cases items <;> exact ⟨'[', _, by rw [pretty], by decide⟩
  | @object members h =>
    cases members with
    | nil => exact ⟨'\x7b', _, by rw [pretty], by decide⟩
    | cons m rest => exact ⟨'\x7b', _, by rw [pretty], by decide⟩

theorem length_newLine_pos (level : Nat) : 0 < (newLine level).length := Nat.succ_pos _

/-- The items after the first one, and the end of the array. -/
theorem items_of_pretty {items : List Json} (h : ∀ j ∈ items, j.Numberless)
    (hback : ∀ j ∈ items, j.ScansBack) (level fuel : Nat) (rest : List Char)
    (hfuel : (prettyItems (level + 1) items).length < fuel) :
    Scan.items fuel false (prettyItems (level + 1) items ++ (newLine level ++ ']' :: rest)) =
      (Draft.ofJson.ofItems items, none, some rest) := by
  induction items generalizing fuel with
  | nil =>
    cases fuel with
    | zero => omega
    | succ fuel => exact Scan.items_end level fuel rest
  | cons j js ih =>
    cases fuel with
    | zero => omega
    | succ fuel =>
      have hline := length_newLine_pos (level + 1)
      simp only [prettyItems, List.length_cons, List.length_append] at hfuel
      rw [List.forall_mem_cons] at h hback
      have hv := hback.1 (level + 1) fuel
        (prettyItems (level + 1) js ++ (newLine level ++ ']' :: rest)) (by omega)
      have hi := ih h.2 hback.2 fuel (by omega)
      have hstep := Scan.items_next (level + 1) ((h.1.begins (level + 1)).append _) hv hi
      simpa only [prettyItems, Draft.ofJson.ofItems, List.cons_append,
        List.append_assoc] using hstep

/-- The members after the first one, and the end of the object. -/
theorem members_of_pretty {members : List (String × Json)} (hback : ∀ m ∈ members, m.2.ScansBack)
    (level fuel : Nat) (rest : List Char)
    (hfuel : (prettyMembers (level + 1) members).length < fuel) :
    Scan.members fuel false
        (prettyMembers (level + 1) members ++ (newLine level ++ '\x7d' :: rest)) =
      (Draft.ofJson.ofMembers members, none, some rest) := by
  induction members generalizing fuel with
  | nil =>
    cases fuel with
    | zero => omega
    | succ fuel => exact Scan.members_end level fuel rest
  | cons m ms ih =>
    obtain ⟨key, j⟩ := m
    cases fuel with
    | zero => omega
    | succ fuel =>
      have hline := length_newLine_pos (level + 1)
      simp only [prettyMembers, List.length_cons, List.length_append] at hfuel
      rw [List.forall_mem_cons] at hback
      have hj : j.ScansBack := hback.1
      have hv := hj (level + 1) fuel
        (prettyMembers (level + 1) ms ++ (newLine level ++ '\x7d' :: rest)) (by omega)
      have hm := ih hback.2 fuel (by omega)
      have hstep := Scan.members_next (k := key) (level + 1) hv hm
      simpa only [prettyMembers, Draft.ofJson.ofMembers, List.cons_append, List.append_assoc]
        using hstep

theorem Numberless.scansBack {j : Json} (h : j.Numberless) : j.ScansBack := by
  induction h with
  | null =>
    rintro level (- | fuel) rest hfuel
    · cases hfuel
    · rfl
  | bool b =>
    rintro level (- | fuel) rest hfuel
    · cases b <;> cases hfuel
    · cases b <;> rfl
  | text s =>
    rintro level (- | fuel) rest hfuel
    · cases hfuel
    · rw [pretty, Literal.quote_append]
      exact Scan.text_quote s rest
  | @array items h ih =>
    intro level fuel rest hfuel
    cases items with
    | nil =>
      match fuel with
      | 0 => cases hfuel
      | 1 => simp [pretty] at hfuel
      | _ + 2 => rfl
    | cons j js =>
      rw [List.forall_mem_cons] at h ih
      have hline := length_newLine_pos level
      simp only [pretty, List.length_cons, List.length_append] at hfuel
      obtain ⟨fuel, rfl⟩ : ∃ n, fuel = n + 2 := ⟨fuel - 2, by omega⟩
      have hv := ih.1 (level + 1) fuel
        (prettyItems (level + 1) js ++ (newLine level ++ ']' :: rest)) (by omega)
      have hi := items_of_pretty h.2 ih.2 level fuel rest (by omega)
      have hall := Scan.value_array
        (Scan.items_first (level + 1) ((h.1.begins (level + 1)).append _) hv hi)
      simpa only [pretty, Draft.ofJson, Draft.ofJson.ofItems, List.cons_append, List.append_assoc,
        List.nil_append] using hall
  | @object members h ih =>
    intro level fuel rest hfuel
    cases members with
    | nil =>
      match fuel with
      | 0 => cases hfuel
      | 1 => simp [pretty] at hfuel
      | _ + 2 => rfl
    | cons m ms =>
      obtain ⟨key, j⟩ := m
      rw [List.forall_mem_cons] at ih
      have hj : j.ScansBack := ih.1
      have hline := length_newLine_pos level
      simp only [pretty, List.length_cons, List.length_append] at hfuel
      obtain ⟨fuel, rfl⟩ : ∃ n, fuel = n + 2 := ⟨fuel - 2, by omega⟩
      have hv := hj (level + 1) fuel
        (prettyMembers (level + 1) ms ++ (newLine level ++ '\x7d' :: rest)) (by omega)
      have hm := members_of_pretty ih.2 level fuel rest (by omega)
      have hall := Scan.value_object (Scan.members_first (k := key) (level + 1) hv hm)
      simpa only [pretty, Draft.ofJson, Draft.ofJson.ofMembers, List.cons_append,
        List.append_assoc, List.nil_append] using hall

/-- The text of a value without numbers is scanned back to the value, with nothing left over. -/
theorem Numberless.draft_prettyText {j : Json} (h : j.Numberless) :
    Scan.draft j.prettyText.toList = (Draft.ofJson j, some []) := by
  have hscan := h.scansBack 0 (2 * (j.pretty 0).length + 2) [] (by omega)
  rw [List.append_nil] at hscan
  rw [prettyText, String.toList_ofList]
  exact hscan

end Json

end StoreClient
