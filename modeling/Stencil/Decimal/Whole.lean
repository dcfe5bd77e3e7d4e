import Stencil.Decimal.Numeral

/-!
# Whole numbers and remainders

* `whole?`: the integer that a number is, if it is one.
* `ofWhole`: the number nearest to an integer.
* `truncatedSize`: the integer part of the size of a number, kept below a limit; `truncated` is the
  integer part as a number.
* `remainder`: the exact remainder with the sign of the dividend.
* `plainNumeral`: the numeral of a number, where small whole numbers have no sign of zero.
-/

namespace Stencil.Decimal

/-- The integer `± mantissa * 2 ^ exponent`, rounded toward zero. -/
def integerPart (negative : Bool) (mantissa : Nat) (exponent : Int) : Int :=
  let n : Int := (mantissa * Nat.pow 2 exponent.toNat / Nat.pow 2 (-exponent).toNat : Nat)
  if negative then -n else n

/-- The integer that `x` is, if it is one. -/
def whole? (x : Float) : Option Int :=
  match view x with
  | .finite negative mantissa exponent =>
    if mantissa % Nat.pow 2 (-exponent).toNat = 0 then some (integerPart negative mantissa exponent)
    else none
  | _ => none

/-- The number nearest to an integer. -/
def ofWhole (n : Int) : Float := nearest (n < 0) n.natAbs 1

/-- The integer part of a number, as a number. -/
def truncated (x : Float) : Float :=
  match view x with
  | .finite negative mantissa exponent =>
    nearest negative (integerPart false mantissa exponent).natAbs 1
  | _ => x

/-- The integer part of the size of `x`, at most `limit`; zero for NaN. -/
def truncatedSize (x : Float) (limit : Nat) : Nat :=
  match view x with
  | .nan => 0
  | .infinite _ => limit
  | .finite _ mantissa exponent => min (integerPart false mantissa exponent).toNat limit

/-- The remainder of `x` by `y`, exact, with the sign of `x`. -/
def remainder (x y : Float) : Float :=
  match view x, view y with
  | .finite negative m e, .finite _ n f =>
    if n = 0 then 0.0 / 0.0
    else
      let low := min e f
      let rest := (m * Nat.pow 2 (e - low).toNat) % (n * Nat.pow 2 (f - low).toNat)
      nearest negative (rest * Nat.pow 2 low.toNat) (Nat.pow 2 (-low).toNat)
  | .finite .., .infinite _ => x
  | _, _ => 0.0 / 0.0

/-- The text of a number: a whole number of size below `10 ^ 15` is written as an integer, so that
zero never has a sign; any other number by its numeral. -/
def plainNumeral (x : Float) : String :=
  match whole? x with
  | some n => if n.natAbs < 1000000000000000 then toString n else String.ofList (numeral x)
  | none => String.ofList (numeral x)

end Stencil.Decimal
