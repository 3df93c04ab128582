-- What an expression of the generated client gives, for a record that its variable holds.
-- Values are told apart as the language does it, and what this account leaves out gives a
-- failure of its own, so that no expression gives a value by accident.
import StoreClient.Field.Codec
import StoreClient.Proofs.ScriptExpressions

namespace StoreClient

namespace Script

/-! ## Values -/

/-- The functions that the generated client has from elsewhere. -/
inductive Builtin where
  | parseISO
  | formatISO
deriving DecidableEq, Repr

/-- A value of an expression. -/
inductive Value where
  | undefined
  | data (json : Json)
  | date (instant : Instant)
  | record (member? : String → Option Value)
  | function (f : Builtin)

/-- What a comparison of values looks at first. -/
inductive Kind where
  | undefined
  | null
  | boolean
  | number
  | text
  | object
  | function
deriving DecidableEq, Repr

/-- Why an expression gives no value. -/
inductive Failure where
  /-- The text is no expression that is read here. -/
  | unreadable
  /-- The expression leaves this account. -/
  | stuck
  /-- A data value that is not the text of an instant. -/
  | refused (value : Json)

/-- Whether two numbers are the same. Whole numbers that no double holds are rounded to doubles,
which cannot make them the same as a smaller number. -/
def sameNumber? : Number → Number → Option Bool
  | .int m, .int n =>
    if m.natAbs < Nat.pow 2 53 ∨ n.natAbs < Nat.pow 2 53 then some (m = n) else none
  | _, _ => none

namespace Value

/-- The value of what stands in memory. -/
def ofModel : ModelValue → Value
  | .null => data .null
  | .temporal t => date t
  | .value j => data j

def kind : Value → Kind
  | undefined => .undefined
  | data .null => .null
  | data (.bool _) => .boolean
  | data (.number _) => .number
  | data (.text _) => .text
  | data (.array _) | data (.object _) | date _ | record _ => .object
  | function _ => .function

/-- The comparison `===`. Values of different kinds differ; whether two objects are one and the
same is not known here. -/
def same? : Value → Value → Option Bool
  | undefined, undefined | data .null, data .null => some true
  | data (.bool a), data (.bool b) => some (a = b)
  | data (.number m), data (.number n) => sameNumber? m n
  | data (.text s), data (.text t) => some (s = t)
  | v, w => if v.kind = w.kind then none else some false

/-- Whether a condition of this value holds. -/
def isTruthy : Value → Bool
  | undefined | data .null => false
  | data (.bool b) => b
  | data (.number (.int n)) => n ≠ 0
  | data (.number (.double x)) => !x.isZero
  | data (.text s) => s ≠ ""
  | data (.array _) | data (.object _) | date _ | record _ | function _ => true

/-- Whether `??` goes on to its right side. -/
def isNullish : Value → Bool
  | undefined | data .null => true
  | _ => false

/-- A member of a value. What a record does not have itself may still come from elsewhere. -/
def member? : Value → String → Option Value
  | record member?, name => member? name
  | data (.array items), "length" => some (data (.number (.int items.length)))
  | _, _ => none

end Value

/-- What a rule reads, as the outcome of an expression. -/
def received (w : Json) : Except CodecError ModelValue → Except Failure Value
  | .ok m => .ok (.ofModel m)
  | .error _ => .error (.refused w)

/-- What a rule writes, as the outcome of an expression. -/
def sent : Except CodecError Json → Except Failure Value
  | .ok w => .ok (.data w)
  | .error _ => .error .stuck

/-- The functions read and write dates as the rule of dates does. -/
def Builtin.apply : Builtin → Value → Except Failure Value
  | parseISO, .data w => received w (Codec.temporal.toModel w)
  | formatISO, .date t => sent (Codec.temporal.toWire (.temporal t))
  | _, _ => .error .stuck

/-! ## Evaluation -/

/-- The values of the words. -/
abbrev Scope := String → Option Value

/-- A value that may be unknown here. -/
def known {α : Type} : Option α → Except Failure α
  | some a => .ok a
  | none => .error .stuck

def call : Value → Value → Except Failure Value
  | .function f, v => f.apply v
  | _, _ => .error .stuck

def member : Value → Value → Except Failure Value
  | v, .data (.text name) => known (v.member? name)
  | _, _ => .error .stuck

/-- The value of an expression. -/
def eval (scope : Scope) : Expression → Except Failure Value
  | .word name => known (scope name)
  | .text s => .ok (.data (.text s))
  | .number n => .ok (.data (.number (.int n)))
  | .emptyList => .ok (.data (.array []))
  | .member object key => do
    let v ← eval scope object
    member v (← eval scope key)
  | .call function argument => do
    let f ← eval scope function
    call f (← eval scope argument)
  | .same left right => do
    let v ← eval scope left
    let isSame ← known (v.same? (← eval scope right))
    return .data (.bool isSame)
  | .orElse left right => do
    let v ← eval scope left
    if v.isNullish then eval scope right else return v
  | .choose condition yes no => do
    let v ← eval scope condition
    if v.isTruthy then eval scope yes else eval scope no

section

variable {scope : Scope} {e left right yes no : Expression} {v w : Value}

theorem eval_member (hleft : eval scope left = .ok v) (hright : eval scope right = .ok w) :
    eval scope (.member left right) = member v w := by
  rw [eval, hleft, hright]
  rfl

/-- A member of a variable that holds a record. -/
theorem eval_member_word {object : String} {record : String → Option Value}
    (h : scope object = some (.record record)) (name : String) :
    eval scope (.member (.word object) (.text name)) = known (record name) := by
  have hobject : eval scope (.word object) = .ok (.record record) := by
    rw [eval, h]
    rfl
  have hkey : eval scope (.text name) = .ok (.data (.text name)) := rfl
  rw [eval_member hobject hkey]
  rfl

theorem eval_call (hleft : eval scope left = .ok v) (hright : eval scope right = .ok w) :
    eval scope (.call left right) = call v w := by
  rw [eval, hleft, hright]
  rfl

theorem eval_same (hleft : eval scope left = .ok v) (hright : eval scope right = .ok w) {b : Bool}
    (hsame : v.same? w = some b) : eval scope (.same left right) = .ok (.data (.bool b)) := by
  have hstep : eval scope (.same left right) =
      (known (v.same? w)).bind fun b => .ok (.data (.bool b)) := by
    rw [eval, hleft, hright]
    rfl
  rw [hstep, hsame]
  rfl

theorem eval_orElse (hleft : eval scope left = .ok v) :
    eval scope (.orElse left right) = if v.isNullish then eval scope right else .ok v := by
  rw [eval, hleft]
  rfl

theorem eval_choose (he : eval scope e = .ok v) :
    eval scope (.choose e yes no) = if v.isTruthy then eval scope yes else eval scope no := by
  rw [eval, he]
  rfl

end

/-- Reads a text as an expression and evaluates it. -/
def run (scope : Scope) (text : String) : Except Failure Value :=
  match Expression.ofText? text with
  | some e => eval scope e
  | none => .error .unreadable

/-- The words of a function that takes a record. -/
def scopeOf (record : String → Option Value) : Scope
  | "null" => some (.data .null)
  | "record" => some (.record record)
  | "parseISO" => some (.function .parseISO)
  | "formatISO" => some (.function .formatISO)
  | _ => none

end Script

end StoreClient
