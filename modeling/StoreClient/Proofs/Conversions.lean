-- The law of conversions: the expressions that the generated client converts a value with
-- give what the rules of the fields give, whatever the field is called.
import StoreClient.Proofs.ConversionText
import StoreClient.Proofs.ScriptValues
import StoreClient.Proofs.TypedRules

namespace StoreClient

/-! ## What the conversions give -/

namespace Script

variable {record : String → Option Value} {name : String}

theorem eval_access {v : Value} (h : record name = some v) :
    eval (scopeOf record) (access name) = .ok v := by
  have hrecord : scopeOf record "record" = some (.record record) := rfl
  rw [access, eval_member_word hrecord, h]
  rfl

theorem eval_parseISO {e : Expression} {w : Json}
    (h : eval (scopeOf record) e = .ok (.data w)) :
    eval (scopeOf record) (.call (.word "parseISO") e) =
      received w (Codec.temporal.toModel w) := by
  have hfunction : eval (scopeOf record) (.word "parseISO") = .ok (.function .parseISO) := rfl
  exact eval_call hfunction h

theorem eval_formatISO {e : Expression} {t : Instant}
    (h : eval (scopeOf record) e = .ok (.date t)) :
    eval (scopeOf record) (.call (.word "formatISO") e) = .ok (.data (.text t.text)) := by
  have hfunction : eval (scopeOf record) (.word "formatISO") = .ok (.function .formatISO) := rfl
  exact eval_call hfunction h

theorem same?_empty (w : Json) :
    (Value.data w).same? (.data (.text "")) = some (Sentinel.emptyString.isMatch w) := by
  cases w with
  | text s => by_cases hs : s = "" <;> simp [Value.same?, Sentinel.isMatch, hs]
  | _ => rfl

theorem same?_zero (n : Nat) :
    (Value.data (.number (.int n))).same? (.data (.number (.int 0))) = some (decide (n = 0)) := by
  simp [Value.same?, sameNumber?]

/-- Dates that may be missing are read as dates are. -/
theorem received_instantOf (c : Codec) (w : Json) :
    received w (c.instantOf w) = received w (Codec.temporal.toModel w) := by
  cases w with
  | text s =>
    simp only [Codec.toModel, Codec.instantOf]
    cases Instant.ofChars? s.toList <;> rfl
  | _ => rfl

end Script

namespace Codec

open Script

variable {file : Json → Prop} {c : Codec} {wire model : ValueType}
  {record : String → Option Value} {name : String}

/-- On a value of the type of the store, the expression to memory gives what the rule gives. -/
theorem eval_parsed (h : Links (some c) wire model) {w : Json} (hw : wire.Admits file w)
    (hrecord : record name = some (.data w)) :
    eval (scopeOf record) (c.parsed (access name)) = received w (c.toModel w) := by
  have hvalue := eval_access hrecord
  have htext : eval (scopeOf record) (.text "") = .ok (.data (.text "")) := rfl
  have hempty := eval_same hvalue htext (same?_empty w)
  cases h with
  | temporal => exact eval_parseISO hvalue
  | nullableTemporal =>
    rw [parsed, eval_choose hempty, eval_parseISO hvalue, ← received_instantOf .nullableTemporal,
      toModel]
    cases Sentinel.emptyString.isMatch w <;> rfl
  | @emptyAsNull s _ _ _ _ stands _ =>
    cases s with
    | emptyString =>
      rw [parsed, eval_choose hempty, hvalue, toModel]
      cases Sentinel.emptyString.isMatch w <;> rfl
    | emptyList =>
      -- The sentinel is a list only where the store sends lists, and these have a length.
      have hlist : wire.isList = true := by
        by_contra hlist
        rw [ValueType.emptyValue, if_neg hlist] at stands
        cases stands
      cases wire with
      | list item =>
        obtain ⟨items, rfl, -⟩ := hw
        have hkey : eval (scopeOf record) (.text "length") = .ok (.data (.text "length")) := rfl
        have hlength := eval_member hvalue hkey
        have hzero : eval (scopeOf record) (.number 0) = .ok (.data (.number (.int 0))) := rfl
        rw [parsed, eval_choose (eval_same hlength hzero (same?_zero items.length)), hvalue]
        cases items <;> rfl
      | _ => cases hlist
  | arrayPatch _ => exact hvalue

/-- On a value in memory of its type, the expression to the store gives what the rule gives. -/
theorem eval_serialized (h : Links (some c) wire model) (hnull : ¬ wire.Admits file .null)
    {m : ModelValue} (hm : model.AdmitsModel file m) (hrecord : record name = some (.ofModel m)) :
    ∃ w, c.toWire m = .ok w ∧
      eval (scopeOf record) (c.serialized (access name)) = .ok (.data w) := by
  have hvalue := eval_access hrecord
  cases h with
  | temporal =>
    obtain ⟨t, rfl⟩ := hm
    exact ⟨_, rfl, eval_formatISO hvalue⟩
  | nullableTemporal =>
    rcases hm with rfl | ⟨t, rfl⟩
    · refine ⟨_, rfl, ?_⟩
      rw [serialized, eval_choose hvalue]
      rfl
    · refine ⟨_, rfl, ?_⟩
      rw [serialized, eval_choose hvalue, eval_formatISO hvalue]
      rfl
  | @emptyAsNull s _ _ plain values _ _ =>
    rcases hm with rfl | hm
    · refine ⟨s.wireValue, rfl, ?_⟩
      cases s <;> rw [serialized, eval_orElse hvalue] <;> rfl
    · obtain ⟨j, rfl, hj⟩ := (ValueType.admitsModel_iff plain m).mp hm
      -- The value stands for itself, so it must not be what stands for nothing.
      have hfilled : (Value.data j).isNullish = false := by
        cases j with
        | null => exact absurd ((values file _).mp hj) hnull
        | _ => rfl
      refine ⟨j, rfl, ?_⟩
      cases s <;> rw [serialized, eval_orElse hvalue, Value.ofModel, hfilled] <;> rfl
  | arrayPatch plain =>
    obtain ⟨j, rfl, -⟩ := (ValueType.admitsModel_iff plain m).mp hm
    exact ⟨j, rfl, hvalue⟩

end Codec

/-! ## The conversions of a client -/

/-- On every record that holds a value of the type of the store under a name, the text gives what
the rule reads. -/
def Codec.ReadBy (file : Json → Prop) (wire : ValueType) (name : String) (c : Codec)
    (text : String) : Prop :=
  ∀ record w, record name = some (.data w) → wire.Admits file w →
    Script.run (Script.scopeOf record) text = Script.received w (c.toModel w)

/-- On every record that holds a value of the type in memory under a name, the text gives what the
rule writes. -/
def Codec.WrittenBy (file : Json → Prop) (model : ValueType) (name : String) (c : Codec)
    (text : String) : Prop :=
  ∀ record m, record name = some (.ofModel m) → model.AdmitsModel file m →
    ∃ w, c.toWire m = .ok w ∧ Script.run (Script.scopeOf record) text = .ok (.data w)

/-- A read entry has an expression for each of its rules, and it computes the rule. -/
structure ReadField.ConvertedBy (file : Json → Prop) (f : ReadField) (v : FieldView) : Prop where
  parser : Option.Rel (Codec.ReadBy file f.wireType f.name) f.parse v.parser
  serializer : Option.Rel (Codec.WrittenBy file f.modelType f.name) f.serialize v.serializer

/-- An entry to be written has an expression for its rule, if it has one, that computes it. -/
def WriteField.ConvertedBy (file : Json → Prop) (f : WriteField) (v : FieldView) : Prop :=
  Option.Rel (Codec.WrittenBy file f.modelType f.name) f.serialize v.serializer

/-- The entries of a bundle have their expressions; those for patches read another variable. -/
structure Bundle.ConvertedBy (file : Json → Prop) (b : Bundle) (v : BundleView) : Prop where
  read : List.Forall₂ (ReadField.ConvertedBy file) b.read v.read
  create : List.Forall₂ (WriteField.ConvertedBy file) b.create v.create
  update : List.Forall₂ (fun f v => f.isCompanion = false → f.ConvertedBy file v) b.update v.update

section

variable {file : Json → Prop} {policy : EmptyListPolicy} {f : Field}

theorem rel_map {α β : Type} {r : α → β → Prop} {g : α → β} {o : Option α}
    (h : ∀ a, o = some a → r a (g a)) : Option.Rel r o (o.map g) := by
  cases o with
  | none => exact .none
  | some a => exact .some (h a rfl)

theorem Codec.readBy_parsing {c : Codec} {wire model : ValueType} (h : Links (some c) wire model)
    (name : String) :
    c.ReadBy file wire name (c.parsing (Member.access FieldView.record name)) := by
  intro record w hrecord hw
  rw [Script.run, ofText?_parsing]
  exact eval_parsed h hw hrecord

theorem Codec.writtenBy_serializing {c : Codec} {wire model : ValueType}
    (h : Links (some c) wire model) (hnull : ¬ wire.Admits file .null) (name : String) :
    c.WrittenBy file model name (c.serializing (Member.access FieldView.record name)) := by
  intro record m hrecord hm
  rw [Script.run, ofText?_serializing]
  exact eval_serialized h hnull hm hrecord

theorem Codec.Links.ne_unknown {c : Codec} {wire model : ValueType}
    (h : Links (some c) wire model) : model ≠ .unknown := by
  rintro rfl
  cases h with
  | arrayPatch plain => exact plain.elim

namespace Field

/-- The store never sends null for a field with a rule. -/
theorem never_null {t : ValueType} {c : Codec} (ht : f.readType? policy = some t)
    (hlinks : Codec.Links (some c) f.wireType t) : ¬ f.wireType.Admits file .null :=
  (unknown_or_never_null ht file).resolve_left hlinks.ne_unknown

theorem convertedBy_ofRead {r : ReadField} (h : f.readField? policy = some r) :
    r.ConvertedBy file (FieldView.ofRead r) := by
  obtain ⟨t, ht, rfl⟩ := Option.map_eq_some_iff.mp h
  have hlinks {c : Codec} (hc : f.codec? policy = some c) : Codec.Links (some c) f.wireType t := by
    rw [← hc]
    exact links_of_readType ht
  refine ⟨rel_map ?_, rel_map ?_⟩
  · intro c hc
    exact Codec.readBy_parsing (hlinks hc) f.name
  · intro c hc
    exact Codec.writtenBy_serializing (hlinks hc) (never_null ht (hlinks hc)) f.name

theorem convertedBy_of_createField {e : WriteField} (h : f.createField? policy = some e) :
    e.ConvertedBy file (FieldView.ofWrite e) := by
  apply rel_map
  intro c hc
  unfold createField? at h
  split at h
  · cases h
  · cases h
    cases hc
  · cases h
    cases hc
  · obtain ⟨t, ht, rfl⟩ := Option.map_eq_some_iff.mp h
    have hrule : f.codec? policy = some c := hc
    have hlinks := links_of_readType ht
    rw [hrule] at hlinks
    exact Codec.writtenBy_serializing hlinks (never_null ht hlinks) f.name

/-- A change to a field that is no patch is written as the field of a new record is. -/
theorem convertedBy_of_updateFields {e : WriteField} (h : e ∈ f.updateFields policy)
    (hpatch : e.isCompanion = false) : e.ConvertedBy file (FieldView.ofWrite e) := by
  unfold updateFields at h
  split at h
  · cases h
  · rename_i c _ _
    rcases List.mem_cons.mp h with rfl | h
    · exact .none
    · cases c with
      | single => cases h
      | multiple =>
        obtain ⟨op, -, rfl⟩ := List.mem_map.mp h
        cases hpatch
  · exact convertedBy_of_createField (Option.mem_toList.mp h)

end Field

/-- Every change that is no patch has the view of an entry to be written. -/
theorem FieldView.forall₂_ofUpdates {P : WriteField → FieldView → Prop} (number : Nat)
    {fs : List WriteField} (h : ∀ f ∈ fs, f.isCompanion = false → P f (ofWrite f)) :
    List.Forall₂ (fun f v => f.isCompanion = false → P f v) fs (ofUpdates number fs).1 := by
  induction fs generalizing number with
  | nil => exact .nil
  | cons f rest ih =>
    rw [List.forall_mem_cons] at h
    unfold ofUpdates
    by_cases hf : f.isCompanion = true
    · rw [if_pos hf]
      refine .cons ?_ (ih (number + 1) h.2)
      intro hnot
      rw [hf] at hnot
      cases hnot
    · rw [if_neg hf]
      exact .cons h.1 (ih number h.2)

theorem Collection.convertedBy_shapes (c : Collection) (all : List Collection) :
    (c.shapes policy all).ConvertedBy file (BundleView.ofBundle (c.shapes policy all)) where
  read := by
    apply List.forall₂_map_right_iff.mpr
    apply List.forall₂_same.mpr
    intro r hr
    obtain ⟨f, -, hf⟩ := List.mem_filterMap.mp hr
    exact Field.convertedBy_ofRead hf
  create := by
    apply List.forall₂_map_right_iff.mpr
    apply List.forall₂_same.mpr
    intro e he
    obtain ⟨f, -, hf⟩ := List.mem_filterMap.mp he
    exact Field.convertedBy_of_createField hf
  update := by
    apply FieldView.forall₂_ofUpdates
    intro e he hpatch
    obtain ⟨f, -, hf⟩ := List.mem_flatMap.mp he
    exact Field.convertedBy_of_updateFields hf hpatch

end

/-- The expressions of the generated client compute the rules of its fields, whatever the fields
are called and whatever stands for the bytes of a file. -/
theorem conversions_compute_the_rules (policy : EmptyListPolicy) (d : Document) (s : Schema)
    (h : d.compile policy = .ok s) (file : Json → Prop) :
    List.Forall₂ (Bundle.ConvertedBy file) s.bundles s.views := by
  obtain ⟨cs, -, -, -, -, rfl⟩ := (d.compile_ok_iff policy s).mp h
  apply List.forall₂_map_right_iff.mpr
  apply List.forall₂_same.mpr
  intro b hb
  obtain ⟨c, -, rfl⟩ := List.mem_map.mp hb
  exact c.convertedBy_shapes cs

/-- A picture without an album: the client reads the empty id as nothing. -/
theorem the_gallery_reads_no_album : ∃ s, gallery.compile .null = .ok s ∧
    ∃ v ∈ s.views, ∃ f ∈ v.read, f.name = "album" ∧
      ∃ text, f.parser = some text ∧
        Script.run (Script.scopeOf fun _ => some (.data (.text ""))) text = .ok (.data .null) := by
  refine ⟨_, rfl, _, List.mem_cons_of_mem _ List.mem_cons_self, _,
    List.mem_cons_of_mem _ List.mem_cons_self, rfl, _, rfl, ?_⟩
  have hall := conversions_compute_the_rules .null gallery _ rfl fun _ => True
  rcases hall with - | ⟨-, - | ⟨hpictures, -⟩⟩
  rcases hpictures.read with - | ⟨-, - | ⟨halbum, -⟩⟩
  rcases halbum.parser with hparser | -
  exact hparser (fun _ => some (.data (.text ""))) (.text "") rfl ⟨"", rfl⟩

end StoreClient
