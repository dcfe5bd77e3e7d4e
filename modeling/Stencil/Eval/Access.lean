import Stencil.Failure
import Stencil.Value.Basic

/-!
# Parts of values

* `Value.member` is the part of a value under a name. Records and arguments have every member.
* `Value.index` is the part at a position, counted from zero, or under a name.
-/

namespace Stencil

namespace Value

/-- The value of an argument. -/
def ofArgument : Argument → Value
  | .text s => .text s
  | .flag b => .flag b

/-- The part of a date under a name. -/
def ofDatePart? (d : Calendar.Date) (field : String) : Option Value :=
  if field = "year" then some (.ofInt d.year)
  else if field = "month" then some (.ofInt d.month)
  else if field = "day" then some (.ofInt d.day)
  else if field = "weekday" then some (.text d.weekday.name)
  else none

/-- The part of a value under a name, if values of its type have one. -/
def member? (field : String) : Value → Option Value
  | .record _ fields => some ((fields.get? field).getD .null)
  | .args a =>
    match a.lookup? field with
    | some v => some (.ofArgument v)
    | none => some (if field = "length" then .ofInt a.size else .text "")
  | .text s => if field = "length" then some (.ofInt s.length) else none
  | .list items => if field = "length" then some (.ofInt items.length) else none
  | .date d => ofDatePart? d field
  | _ => none

/-- The part of a value under a name. -/
def member (v : Value) (field : String) : Except EvalError Value :=
  match v.member? field with
  | some part => .ok part
  | none => .error (.noMember field v.typeName)

/-- The position that a number stands for: a whole number that is not negative. -/
def position? (x : Float) : Option Nat :=
  match Decimal.whole? x with
  | some n => if 0 ≤ n then some n.toNat else none
  | none => none

/-- The part of a value at a position or under a name. -/
def index (v w : Value) : Except EvalError Value :=
  match v, w with
  | .list items, .number x => .ok (((position? x).bind fun i => items[i]?).getD .null)
  | .text s, .number x =>
    match (position? x).bind fun i => s.toList[i]? with
    | some c => .ok (.text (String.singleton c))
    | none => .ok .null
  | .args a, .number x =>
    .ok (((position? x).map fun i => Value.ofArgument (a.ordinal i)).getD (.text ""))
  | .record .., .text key => v.member key
  | .args _, .text key => v.member key
  | _, _ =>
    .error (.wrongType "List, String or Record index" (v.typeName ++ "[" ++ w.typeName ++ "]"))

end Value

end Stencil
