-- From drafts to the types of the program. A decoder walks a draft in the order of the
-- text and stops at the first thing that is wrong, be it the kind of a value or the text.
import StoreClient.Json.Scan
import StoreClient.Text.Shown

namespace StoreClient

/-! ## What can be wrong -/

/-- What stands where something else is expected. -/
inductive Found where
  | null
  | bool (value : Bool)
  | number (value : Number)
  | text (value : String)
  | sequence
  | map
deriving DecidableEq, Repr

def Found.message : Found → String
  | .null => "null"
  | .bool true => "boolean `true`"
  | .bool false => "boolean `false`"
  | .number (.int n) => "integer `" ++ String.ofList (Number.intChars n) ++ "`"
  | .number (.double x) => "floating point `" ++ x.text ++ "`"
  | .text s => "string " ++ Shown.ofString s
  | .sequence => "sequence"
  | .map => "map"

/-- Why a well-formed value is not what is expected. -/
inductive Mismatch where
  | missingField (field : String)
  | duplicateField (field : String)
  | wrongType (found : Found) (expected : String)
  | wrongValue (found : Found) (expected : String)
  | wrongLength (length : Nat) (expected : String)
  | unknownVariant (variant : String) (known : List String)
deriving DecidableEq, Repr

namespace Mismatch

def ticked (s : String) : String := "`" ++ s ++ "`"

/-- The known variants, as messages list them. -/
def listed : List String → String
  | [] => "there are no variants"
  | [a] => "expected " ++ ticked a
  | [a, b] => "expected " ++ ticked a ++ " or " ++ ticked b
  | known => "expected one of " ++ ", ".intercalate (known.map ticked)

def message : Mismatch → String
  | missingField field => "missing field " ++ ticked field
  | duplicateField field => "duplicate field " ++ ticked field
  | wrongType found expected => "invalid type: " ++ found.message ++ ", expected " ++ expected
  | wrongValue found expected => "invalid value: " ++ found.message ++ ", expected " ++ expected
  | wrongLength length expected =>
    "invalid length " ++ String.ofList (Number.natChars length) ++ ", expected " ++ expected
  | unknownVariant variant known => "unknown variant " ++ ticked variant ++ ", " ++ listed known

end Mismatch

/-- Why a draft does not decode. -/
inductive DecodeError where
  | broken (why : Break)
  | mismatch (why : Mismatch)
deriving DecidableEq, Repr

/-! ## Where a draft comes from -/

/-- Where a draft comes from: from a text, with the levels it may still go down; from a value;
or from inside a tagged choice, whose content is read whole before it is looked at. -/
inductive Origin where
  | text (levels : Nat)
  | value
  | buffered
deriving DecidableEq, Repr

/-- The origin of what stands inside an array or an object. -/
def Origin.enter : Origin → Except DecodeError Origin
  | .text 0 => .error (.broken .malformed)
  | .text (levels + 1) => .ok (.text levels)
  | o => .ok o

abbrev Decoder (α : Type) := Origin → Draft → Except DecodeError α

namespace Decode

/-- The error of a draft that is of another kind than expected. -/
def wrongType (expected : String) : Draft → DecodeError
  | .null => .mismatch (.wrongType .null expected)
  | .bool b => .mismatch (.wrongType (.bool b) expected)
  | .number n => .mismatch (.wrongType (.number n) expected)
  | .text s => .mismatch (.wrongType (.text s) expected)
  | .array _ _ => .mismatch (.wrongType .sequence expected)
  | .object _ _ => .mismatch (.wrongType .map expected)
  | .flawedText reading _ => .broken reading
  | .flawedWord reading _ => .broken reading
  | .absent why => .broken why

/-- An array or object that does not end. -/
def ended : Option Break → Except DecodeError Unit
  | some b => .error (.broken b)
  | none => .ok ()

/-- The text of a key. -/
def key : Draft → Except DecodeError String
  | .text s => .ok s
  | d => .error (wrongType "a string" d)

/-! ## Simple kinds -/

def text : Decoder String := fun _ d =>
  match d with
  | .text s => .ok s
  | d => .error (wrongType "a string" d)

def flag : Decoder Bool := fun _ d =>
  match d with
  | .bool b => .ok b
  | d => .error (wrongType "a boolean" d)

/-- Any value. -/
def any : Decoder Json := fun o d =>
  let levels := match o with
    | .text levels => levels
    | _ => d.levels
  match d.read levels with
  | .ok j => .ok j
  | .error b => .error (.broken b)

/-- Null stands for nothing. -/
def optional {α : Type} (decode : Decoder α) : Decoder (Option α) := fun o d =>
  match d with
  | .null => .ok none
  | d => (decode o d).map some

def each {α : Type} (decode : Draft → Except DecodeError α) :
    List Draft → Except DecodeError (List α)
  | [] => .ok []
  | d :: rest => do
    let a ← decode d
    let as ← each decode rest
    pure (a :: as)

def list {α : Type} (decode : Decoder α) : Decoder (List α) := fun o d =>
  match d with
  | .array items ending => do
    let o ← o.enter
    let as ← each (decode o) items
    ended ending
    pure as
  | d => .error (wrongType "a sequence" d)

/-! ## Choices without content -/

/-- The variant of a name. -/
def variant {α : Type} (variants : List (String × α)) (name : String) : Except DecodeError α :=
  match variants.lookup name with
  | some a => .ok a
  | none => .error (.mismatch (.unknownVariant name (variants.map Prod.fst)))

/-- The content of a variant that has none. -/
def unit : Decoder Unit := fun o d =>
  match o, d with
  | _, .null => .ok ()
  | .buffered, .object [] _ => .ok ()
  | _, d => .error (wrongType "unit" d)

/-- A choice given by name, or as an object whose only key is the name. -/
def choice {α : Type} (variants : List (String × α)) : Decoder α := fun o d =>
  match o, d with
  | _, .text s => variant variants s
  | .text _, .object members ending => do
    let o ← o.enter
    match members with
    | [] => .error (.broken (ending.getD .malformed))
    | (k, d) :: rest =>
      let a ← variant variants (← key k)
      unit o d
      if rest.isEmpty then ended ending else .error (.broken .malformed)
      pure a
  | .text _, .flawedText reading _ => .error (.broken reading)
  | .text _, .absent why => .error (.broken why)
  | .text _, _ => .error (.broken .malformed)
  | o, .object [(k, d)] _ => do
    let a ← variant variants (← key k)
    unit o d
    pure a
  | _, .object _ _ => .error (.mismatch (.wrongValue .map "map with a single key"))
  | _, d => .error (wrongType "string or map" d)

/-! ## Choices with content -/

def counted (n : Nat) : String :=
  String.ofList (Number.natChars n) ++ (if n = 1 then " element" else " elements")

/-- The content of a tagged choice beside its tag. -/
inductive Content (α : Type) where
  | members (members : List (String × α))
  | items (items : List α)

namespace Content

/-- The content of a variant that has none: members are passed over, items are not. -/
def nothing {α : Type} : Content α → Except DecodeError Unit
  | .members _ => .ok ()
  | .items [] => .ok ()
  | .items as => .error (.mismatch (.wrongLength as.length (counted 0 ++ " in sequence")))

/-- The only field of a variant among members; others are passed over. -/
def fieldAmong {α β : Type} (field : String) (decode : α → Except DecodeError β) :
    Option β → List (String × α) → Except DecodeError β
  | none, [] => .error (.mismatch (.missingField field))
  | some b, [] => .ok b
  | found, (k, a) :: rest =>
    if k = field then
      match found with
      | some _ => .error (.mismatch (.duplicateField field))
      | none =>
        match decode a with
        | .ok b => fieldAmong field decode (some b) rest
        | .error e => .error e
    else fieldAmong field decode found rest

/-- The only field of a variant. -/
def field {α β : Type} (owner field : String) (decode : α → Except DecodeError β) :
    Content α → Except DecodeError β
  | .members ms => fieldAmong field decode none ms
  | .items [] =>
    .error (.mismatch (.wrongLength 0 ("struct variant " ++ owner ++ " with " ++ counted 1)))
  | .items [a] => decode a
  | .items (a :: rest) =>
    match decode a with
    | .ok _ => .error (.mismatch (.wrongLength (rest.length + 1) (counted 1 ++ " in sequence")))
    | .error e => .error e

end Content

/-- A choice that names its variant in a member of its own, or in its first item. -/
structure Tagged where
  name : String
  tag : String
  variants : List String

namespace Tagged

/-- The variant that a tag names. Inside another choice the number of a variant names it too. -/
def variantOf (t : Tagged) (o : Origin) : Draft → Except DecodeError String
  | .text s => variant (t.variants.map fun v => (v, v)) s
  | .number (.int (.ofNat n)) =>
    if o = .buffered then
      match t.variants[n]? with
      | some v => .ok v
      | none =>
        .error (.mismatch (.wrongValue (.number (.int n)) ("variant index 0 <= i < " ++
          String.ofList (Number.natChars t.variants.length))))
    else .error (wrongType "variant identifier" (.number (.int n)))
  | d => .error (wrongType "variant identifier" d)

/-- What stands beside the tag must be readable before the variant is looked at. -/
def readable (o : Origin) (d : Draft) : Except DecodeError Unit :=
  match o with
  | .text levels =>
    match d.read levels with
    | .ok _ => .ok ()
    | .error b => .error (.broken b)
  | _ => .ok ()

/-- The variant among members. -/
def tagAmong (t : Tagged) (o : Origin) : Option String → List (Draft × Draft) →
    Except DecodeError (Option String)
  | found, [] => .ok found
  | found, (k, d) :: rest => do
    let k ← key k
    if k = t.tag then
      match found with
      | some _ => .error (.mismatch (.duplicateField t.tag))
      | none =>
        let v ← t.variantOf o d
        tagAmong t o (some v) rest
    else
      readable o d
      tagAmong t o found rest

/-- The variant of a draft. All of the draft is read for it. -/
def variantIn (t : Tagged) : Decoder String := fun o d =>
  match d with
  | .object members ending => do
    let o ← o.enter
    let found ← t.tagAmong o none members
    ended ending
    match found with
    | some v => pure v
    | none => .error (.mismatch (.missingField t.tag))
  | .array items ending => do
    let o ← o.enter
    match items with
    | [] =>
      ended ending
      .error (.mismatch (.missingField t.tag))
    | d :: rest =>
      let v ← t.variantOf o d
      let _ ← each (readable o) rest
      ended ending
      pure v
  | d => .error (wrongType ("internally tagged enum " ++ t.name) d)

/-- The members beside the tag. -/
def beside (t : Tagged) {α : Type} (members : List (Draft × α)) : Content α :=
  .members (members.filterMap fun m => match m.1 with
    | .text k => if k = t.tag then none else some (k, m.2)
    | _ => none)

end Tagged

/-! ## Records -/

/-- When a field of a record may be left out. -/
inductive Omission where
  | never
  /-- In an object, not in a list. -/
  | inObject
  | always
deriving DecidableEq, Repr

/-- One field of a record that is filled into a draft of the record. -/
structure Slot (σ : Type) where
  name : String
  aliases : List String
  omission : Omission
  filled : σ → Bool
  fill : Origin → Draft → σ → Except DecodeError σ

/-- A record: its fields in order, and how the filled fields make the record. -/
structure Record (σ α : Type) where
  name : String
  slots : List (Slot σ)
  start : σ
  finish : σ → Option α

/-- A slot whose value is put into the draft record by `put`. -/
def slot {σ β : Type} (name : String) (omission : Omission) (decode : Decoder β)
    (get : σ → Option β) (put : β → σ → σ) : Slot σ :=
  { name, aliases := [], omission, filled := fun s => (get s).isSome,
    fill := fun o d s => (decode o d).map fun b => put b s }

namespace Record

variable {σ α : Type}

/-- Fills in members in their order; unknown ones are passed over. -/
def fillMembers (r : Record σ α) (o : Origin) : List (Draft × Draft) → σ → Except DecodeError σ
  | [], s => .ok s
  | (k, d) :: rest, s => do
    let k ← key k
    match r.slots.find? fun slot => slot.name = k || slot.aliases.contains k with
    | none =>
      match d.passing with
      | some b => .error (.broken b)
      | none => r.fillMembers o rest s
    | some slot =>
      if slot.filled s then .error (.mismatch (.duplicateField slot.name))
      else
        let s ← slot.fill o d s
        r.fillMembers o rest s

/-- Fills in items by position; gives back the items that are left. -/
def fillItems (r : Record σ α) (o : Origin) (ending : Option Break) :
    Nat → List (Slot σ) → List Draft → σ → Except DecodeError (σ × List Draft)
  | _, [], items, s => .ok (s, items)
  | position, slot :: slots, [], s =>
    match ending with
    | some b => .error (.broken b)
    | none =>
      if slot.omission = .always then r.fillItems o ending (position + 1) slots [] s
      else
        .error (.mismatch (.wrongLength position
          ("struct " ++ r.name ++ " with " ++ counted r.slots.length)))
  | position, slot :: slots, d :: rest, s => do
    let s ← slot.fill o d s
    r.fillItems o ending (position + 1) slots rest s

/-- The record, unless a field is missing. -/
def complete (r : Record σ α) (s : σ) : Except DecodeError α :=
  match r.slots.find? fun slot => slot.omission = .never && !slot.filled s with
  | some slot => .error (.mismatch (.missingField slot.name))
  | none =>
    match r.finish s with
    | some a => .ok a
    | none => .error (.mismatch (.missingField r.name))

/-- Items beyond the last field. -/
def leftOver (o : Origin) (all : Nat) (fields : Nat) : DecodeError :=
  match o with
  | .text _ => .broken .malformed
  | .value => .mismatch (.wrongLength all "fewer elements in array")
  | .buffered => .mismatch (.wrongLength all (counted fields ++ " in sequence"))

/-- A record given as an object, or as a list of its fields in order. -/
def decode (r : Record σ α) : Decoder α := fun o d =>
  match d with
  | .object members ending => do
    let o ← o.enter
    let s ← r.fillMembers o members r.start
    ended ending
    r.complete s
  | .array items ending => do
    let o ← o.enter
    let (s, rest) ← r.fillItems o ending 0 r.slots items r.start
    if rest.isEmpty then ended ending
    else .error (leftOver o items.length r.slots.length)
    match r.finish s with
    | some a => pure a
    | none => .error (.mismatch (.missingField r.name))
  | d => .error (wrongType ("struct " ++ r.name) d)

end Record

/-! ## Whole texts and values -/

/-- Decodes a JSON text. Nothing but blanks may follow its value. -/
def ofText {α : Type} (decode : Decoder α) (s : String) : Except DecodeError α := do
  let (draft, rest) := Scan.draft s.toList
  let a ← decode (.text Json.deepest) draft
  match Scan.endOf rest with
  | .ok () => pure a
  | .error b => .error (.broken b)

/-- Decodes a JSON value. -/
def ofValue {α : Type} (decode : Decoder α) (j : Json) : Except DecodeError α :=
  decode .value (Draft.ofJson j)

end Decode

end StoreClient
