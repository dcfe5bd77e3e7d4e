import Stencil.Span

/-!
# Failures

Why a script stops, and where.

* `EvalError` is the reason and `EvalError.message` its wording.
* `Failure` is an error with the span and the file of the code that failed.
-/

namespace Stencil

/-- Why a script stops. -/
inductive EvalError where
  /-- A value has the wrong type; both are described in words. -/
  | wrongType (expected got : String)
  | unknownName (name : String)
  | unknownFunction (name : String)
  /-- A reserved name cannot be bound. -/
  | readOnly (name : String)
  /-- Values of the type have no such member. -/
  | noMember (field type : String)
  | divisionByZero
  /-- A helper refused its arguments. -/
  | helper (name message : String)
  /-- An expression is nested too deeply. -/
  | tooDeep
  /-- A day is added to a date that would leave the calendar. -/
  | dateOutOfRange
  /-- A weekday is asked for that lies beyond the end of the calendar. -/
  | beyondCalendar
  deriving Repr, DecidableEq

/-- The wording of an error. -/
def EvalError.message : EvalError → String
  | .wrongType expected got => "type error: expected " ++ expected ++ ", got " ++ got
  | .unknownName name => "undefined variable: " ++ name
  | .unknownFunction name => "undefined function: " ++ name
  | .readOnly name => "cannot assign to read-only name '" ++ name ++ "'"
  | .noMember field type => "cannot read '" ++ field ++ "' of " ++ type
  | .divisionByZero => "division by zero"
  | .helper name message => name ++ ": " ++ message
  | .tooDeep => "stack overflow"
  | .dateOutOfRange => "date out of range"
  | .beyondCalendar => "date beyond the calendar"

/-- An error and the place of the code that failed. -/
structure Failure where
  error : EvalError
  span : Span
  file : Nat
  deriving Repr, DecidableEq

/-- The wording of a failure. -/
def Failure.message (f : Failure) : String := f.error.message

end Stencil
