/-!
# Binary floating point numbers as exact values

A number is read off its 64 bits, and a fraction is rounded to the nearest number in exact integer
arithmetic.

* `View` and `view`: sign, mantissa and exponent of a number.
* `nearest`: the number nearest to a fraction, ties to the even mantissa.
* `ofDecimal`: the number nearest to `digits * 10 ^ exponent`.
-/

namespace Stencil.Decimal

/-- What a number stands for: a finite one is `± mantissa * 2 ^ exponent`. -/
inductive View where
  | nan
  | infinite (negative : Bool)
  | finite (negative : Bool) (mantissa : Nat) (exponent : Int)
  deriving Repr, DecidableEq

/-- The highest of 64 bits, which is set in negative numbers. -/
def signBit : Nat := 0x8000000000000000

/-- The highest bit of a mantissa of 53 bits, which is not stored. -/
def hiddenBit : Nat := 0x10000000000000

/-- Reads a number off its bits: sign, eleven bits of exponent, 52 bits of fraction. -/
def View.ofBits (bits : Nat) : View :=
  let negative := decide (signBit ≤ bits)
  let exponent : Nat := bits / hiddenBit % 2048
  let fraction := bits % hiddenBit
  if exponent = 2047 then if fraction = 0 then .infinite negative else .nan
  else if exponent = 0 then .finite negative fraction (-1074)
  else .finite negative (hiddenBit + fraction) ((exponent : Int) - 1075)

/-- What a number stands for. -/
def view (x : Float) : View := View.ofBits x.toBits.toNat

/-- The bits of positive infinity. -/
def infinityBits : Nat := 2047 * hiddenBit

/-- The fraction `num / den` divided by `2 ^ q`, as a numerator and a denominator. -/
def scaleDown (num den : Nat) (q : Int) : Nat × Nat :=
  (num * Nat.pow 2 (-q).toNat, den * Nat.pow 2 q.toNat)

/-- The quotient rounded to a whole number, ties to even. -/
def roundHalfEven (num den : Nat) : Nat :=
  let whole := num / den
  let twice := 2 * (num % den)
  if twice < den then whole
  else if den < twice then whole + 1
  else whole + whole % 2

/-- The exponent at which the mantissa of `num / den` has 53 bits, or the least exponent. -/
def mantissaExponent (num den : Nat) : Int :=
  let q := max ((Nat.log2 num : Int) - Nat.log2 den - 53) (-1074)
  let (n, d) := scaleDown num den q
  if 2 * hiddenBit ≤ n / d then q + 1 else q

/-- The bits of the positive number nearest to `num / den`. A mantissa that rounds up to 54 bits
carries into the exponent. -/
def nearestBits (num den : Nat) : Nat :=
  let q := mantissaExponent num den
  let (n, d) := scaleDown num den q
  min ((q + 1074).toNat * hiddenBit + roundHalfEven n d) infinityBits

/-- The number nearest to `± num / den`; `den` is not zero. -/
def nearest (negative : Bool) (num den : Nat) : Float :=
  let bits := if num = 0 then 0 else nearestBits num den
  Float.ofBits (UInt64.ofNat (if negative then signBit + bits else bits))

/-- How many decimal digits `n` has; zero has one. -/
def digitCount (n : Nat) : Nat := (Nat.toDigits 10 n).length

/-- The number nearest to `± digits * 10 ^ exponent`. Far beyond either end of the range the
power of ten is not computed. -/
def ofDecimal (negative : Bool) (digits : Nat) (exponent : Int) : Float :=
  let magnitude := digitCount digits + exponent
  if digits = 0 ∨ magnitude < -400 then nearest negative 0 1
  else if 400 < magnitude then
    Float.ofBits (UInt64.ofNat (if negative then signBit + infinityBits else infinityBits))
  else nearest negative (digits * Nat.pow 10 exponent.toNat) (Nat.pow 10 (-exponent).toNat)

end Stencil.Decimal
