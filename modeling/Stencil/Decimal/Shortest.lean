import Stencil.Decimal.Binary

/-!
# The fewest digits that read back

* `shortest`: among the decimals with the fewest digits that read back as a number, the one
  nearest to it; of two equally near ones the larger.

A candidate is kept only after it has been read back, and when seventeen digits were not enough the
exact value is taken, so what is chosen always reads back.
-/

namespace Stencil.Decimal

/-- A decimal `digits * 10 ^ exponent`. -/
structure Scientific where
  digits : Nat
  exponent : Int
  deriving Repr, DecidableEq

/-- Whether a decimal reads back as the positive number with the given bits. -/
def Scientific.readsAs (d : Scientific) (bits : UInt64) : Bool :=
  (ofDecimal false d.digits d.exponent).toBits == bits

/-- The fraction `mantissa * 2 ^ exponent` times `10 ^ power`. -/
def scaleUp (mantissa : Nat) (exponent power : Int) : Nat × Nat :=
  (mantissa * Nat.pow 2 exponent.toNat * Nat.pow 10 power.toNat,
    Nat.pow 2 (-exponent).toNat * Nat.pow 10 (-power).toNat)

/-- The least `k` with `mantissa * 2 ^ exponent < 10 ^ k`, for a value of at least `10 ^ -340`. -/
def decimalScale (mantissa : Nat) (exponent : Int) : Int :=
  let (num, den) := scaleUp mantissa exponent 340
  (digitCount (num / den) : Int) - 340

/-- The better of the two decimals with `n` digits next to the value, if one reads back. -/
def candidate? (mantissa : Nat) (exponent : Int) (bits : UInt64) (scale : Int) (n : Nat) :
    Option Scientific :=
  let (num, den) := scaleUp mantissa exponent (n - scale)
  let below : Scientific := ⟨num / den, scale - n⟩
  let above : Scientific := ⟨num / den + 1, scale - n⟩
  let (near, far) := if 2 * (num % den) < den then (below, above) else (above, below)
  if near.readsAs bits then some near else if far.readsAs bits then some far else none

/-- The value itself as a decimal. -/
def exactDecimal (mantissa : Nat) (exponent : Int) : Scientific :=
  ⟨mantissa * Nat.pow 2 exponent.toNat * Nat.pow 5 (-exponent).toNat, min exponent 0⟩

/-- The shortest decimal that reads back as the positive number `mantissa * 2 ^ exponent` with the
given bits. -/
def shortest (mantissa : Nat) (exponent : Int) (bits : UInt64) : Scientific :=
  let scale := decimalScale mantissa exponent
  ((List.range 17).findSome? fun n => candidate? mantissa exponent bits scale (n + 1)).getD
    (exactDecimal mantissa exponent)

end Stencil.Decimal
