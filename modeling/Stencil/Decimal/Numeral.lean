import Stencil.Decimal.Shortest
import Stencil.Text.Search

/-!
# Numerals

How numbers are written and read.

* `numeral`: the fewest digits that read back, always positional, without a point for whole
  numbers; `inf`, `-inf` and `NaN` for the rest.
* `readNumeral?`: an optional sign, then digits with at most one point and an optional exponent,
  or one of the words `inf`, `infinity` and `nan` in any case.
* `readLong?`: integers of 64 bits, an optional sign and digits only.
-/

namespace Stencil.Decimal

/-- The positional form of `digits * 10 ^ exponent`, without superfluous zeros. -/
def positional (d : Scientific) : List Char :=
  let written := Nat.toDigits 10 d.digits
  if 0 ≤ d.exponent then written ++ List.replicate d.exponent.toNat '0'
  else
    let places := (-d.exponent).toNat
    let padded := List.replicate (places + 1 - written.length) '0' ++ written
    let whole := padded.take (padded.length - places)
    let fraction := ((padded.drop (padded.length - places)).reverse.dropWhile (· = '0')).reverse
    if fraction.isEmpty then whole else whole ++ '.' :: fraction

/-- A sign in front of a text. -/
def signed (negative : Bool) (cs : List Char) : List Char := if negative then '-' :: cs else cs

/-- The numeral of a number. -/
def numeral (x : Float) : List Char :=
  match view x with
  | .nan => ['N', 'a', 'N']
  | .infinite negative => signed negative ['i', 'n', 'f']
  | .finite negative 0 _ => signed negative ['0']
  | .finite negative mantissa exponent =>
    let bits := if negative then x.toBits - 0x8000000000000000 else x.toBits
    signed negative (positional (shortest mantissa exponent bits))

/-- The value of a run of decimal digits. -/
def digitsValue (cs : List Char) : Nat := cs.foldl (fun n c => 10 * n + (c.toNat - '0'.toNat)) 0

/-- An optional sign: whether it is a minus, and the rest. -/
def readSign : List Char → Bool × List Char
  | '-' :: cs => (true, cs)
  | '+' :: cs => (false, cs)
  | cs => (false, cs)

/-- An exponent: nothing, or `e` with an optional sign and at least one digit. -/
def readExponent? : List Char → Option Int
  | [] => some 0
  | c :: cs =>
    if c = 'e' || c = 'E' then
      let (negative, digits) := readSign cs
      if digits.isEmpty || !digits.all Char.isDigit then none
      else
        let n : Int := digitsValue digits
        some (if negative then -n else n)
    else none

/-- Digits with at most one point, then an optional exponent. -/
def readDecimal? (negative : Bool) (cs : List Char) : Option Float :=
  let whole := cs.takeWhile Char.isDigit
  let rest := cs.dropWhile Char.isDigit
  let (fraction, rest) := match rest with
    | '.' :: after => (after.takeWhile Char.isDigit, after.dropWhile Char.isDigit)
    | _ => ([], rest)
  if whole.isEmpty && fraction.isEmpty then none
  else (readExponent? rest).map fun exponent =>
    ofDecimal negative (digitsValue (whole ++ fraction)) (exponent - fraction.length)

/-- Reads a numeral; the whole text has to be one. -/
def readNumeral? (cs : List Char) : Option Float :=
  let (negative, rest) := readSign cs
  let word := String.ofList (rest.map Char.toLower)
  if word = "inf" || word = "infinity" then
    some (if negative then -(1.0 / 0.0) else 1.0 / 0.0)
  else if word = "nan" then some (0.0 / 0.0)
  else readDecimal? negative rest

/-- Whether an integer fits 64 bits with a sign. -/
def fitsLong (n : Int) : Bool := -0x8000000000000000 ≤ n && n < 0x8000000000000000

/-- Reads an integer of 64 bits; the whole text has to be one. -/
def readLong? (cs : List Char) : Option Int :=
  let (negative, digits) := readSign cs
  if digits.isEmpty || !digits.all Char.isDigit then none
  else
    let size : Int := digitsValue digits
    let n := if negative then -size else size
    if fitsLong n then some n else none

end Stencil.Decimal
