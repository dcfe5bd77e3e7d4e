import Stencil.Failure
import Stencil.Script.Expr
import Stencil.Value.Basic

/-!
# Operators on values

* `Value.toNumber` reads a number, also off a text, since arguments and properties are texts.
* `Value.looselySame` is the equality of scripts: a number equals a text that spells it.
* `BinaryOp.apply` and `UnaryOp.apply` are the operators on values that are there already; which
  operands are evaluated at all is not decided here.
-/

namespace Stencil

open Calendar Script

namespace Value

/-- The number that a value is or spells. -/
def toNumber : Value → Except EvalError Float
  | .number x => .ok x
  | .text s =>
    match Decimal.readNumeral? (Text.trim s.toList) with
    | some x => .ok x
    | none => .error (.wrongType "Number" ("String '" ++ s ++ "'"))
  | v => .error (.wrongType "Number" v.typeName)

/-- Whether a text spells a number. -/
def spells (s : String) (x : Float) : Bool :=
  match Decimal.readNumeral? (Text.trim s.toList) with
  | some y => y == x
  | none => false

/-- Whether two values are equal, where a number equals a text that spells it. -/
def looselySame : Value → Value → Bool
  | .number x, .text s => spells s x
  | .text s, .number x => spells s x
  | v, w => v.same w

/-- The date that lies the whole part of a number of days away. -/
def moveDate (d : Date) (days : Float) : Except EvalError Value :=
  let size : Int := Decimal.truncatedSize days 0xFFFFFFFFFFFFFFFF
  match d.addDays? (if 0.0 ≤ days then size else -size) with
  | some d => .ok (.date d)
  | none => .error .dateOutOfRange

/-- Applies a function of two numbers. -/
def onNumbers (f : Float → Float → Except EvalError Float) (v w : Value) :
    Except EvalError Value := do
  return .number (← f (← v.toNumber) (← w.toNumber))

/-- A function of two numbers of which the second must not be zero. -/
def nonzero (f : Float → Float → Float) (x y : Float) : Except EvalError Float :=
  if y == 0.0 then .error .divisionByZero else .ok (f x y)

/-- Adds numbers, moves a date, joins lists, or joins texts when either value is one. -/
def plus : Value → Value → Except EvalError Value
  | .number x, .number y => .ok (.number (x + y))
  | .date d, .number x => moveDate d x
  | .list vs, .list ws => .ok (.list (vs ++ ws))
  | .text s, w => .ok (.text (s ++ w.display))
  | v, .text t => .ok (.text (v.display ++ t))
  | v, w =>
    .error (.wrongType "matching numeric or string types" (v.typeName ++ " + " ++ w.typeName))

/-- Subtracts numbers, moves a date back, or counts the days between two dates. -/
def minus : Value → Value → Except EvalError Value
  | .date d, .number x => moveDate d (-x)
  | .date d, .date e => .ok (.ofInt (d.number - e.number))
  | v, w => onNumbers (fun x y => .ok (x - y)) v w

/-- The order of two numbers, which NaN does not have. -/
def numberOrder? (x y : Float) : Option Ordering :=
  if x < y then some .lt else if x == y then some .eq else if y < x then some .gt else none

/-- The order of two values: texts by code points, dates by days, all else as numbers. -/
def order? : Value → Value → Except EvalError (Option Ordering)
  | .text s, .text t => .ok (some (compare s t))
  | .date d, .date e => .ok (some (compare d.number e.number))
  | v, w => do return numberOrder? (← v.toNumber) (← w.toNumber)

/-- Tests the order of two values; values without an order fail every test. -/
def compareBy (test : Ordering → Bool) (v w : Value) : Except EvalError Value := do
  return .flag ((← order? v w).any test)

end Value

/-- Applies an operator to one value. -/
def Script.UnaryOp.apply (op : UnaryOp) (v : Value) : Except EvalError Value :=
  match op with
  | .negate => do return .number (-(← v.toNumber))
  | .not => .ok (.flag v.isFalsy)

/-- Whether an operator gives its first operand without looking at the second. -/
def Script.BinaryOp.stopsAt (op : BinaryOp) (v : Value) : Bool :=
  match op with
  | .and => v.isFalsy
  | .or => v.isTruthy
  | .coalesce => !v.isEmpty
  | _ => false

/-- Applies an operator to two values. -/
def Script.BinaryOp.apply (op : BinaryOp) (v w : Value) : Except EvalError Value :=
  match op with
  | .add => v.plus w
  | .subtract => v.minus w
  | .multiply => Value.onNumbers (fun x y => .ok (x * y)) v w
  | .divide => Value.onNumbers (Value.nonzero fun x y => x / y) v w
  | .modulo => Value.onNumbers (Value.nonzero Decimal.remainder) v w
  | .equal => .ok (.flag (v.looselySame w))
  | .notEqual => .ok (.flag (!v.looselySame w))
  | .greater => Value.compareBy Ordering.isGT v w
  | .less => Value.compareBy Ordering.isLT v w
  | .greaterEqual => Value.compareBy Ordering.isGE v w
  | .lessEqual => Value.compareBy Ordering.isLE v w
  | .and | .or | .coalesce => .ok w

end Stencil
