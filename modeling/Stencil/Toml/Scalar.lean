import Stencil.Calendar.Date
import Stencil.Decimal.Numeral
import Stencil.Toml.Quoted

/-!
# Numbers, dates and times of TOML

What may stand for a value that is neither quoted nor bracketed; nothing is computed with it.

* `isNumber` and `isMoment` say whether a text is a number, or a date or time.
* `readScalar?` reads such a value.
-/

namespace Stencil.Toml

/-! ## Numbers -/

/-- Whether a text is made of digits, with single underscores between them. -/
def isDigits (digit : Char → Bool) (cs : List Char) : Bool :=
  (Text.splitWhere (· = '_') cs).all fun piece => !piece.isEmpty && piece.all digit

/-- The text without underscores. -/
def dropUnderscores (cs : List Char) : List Char := cs.filter (· ≠ '_')

/-- Whether a text is a number of 64 bits in another base than ten, after a zero and a letter. -/
def isRadixNumber : List Char → Bool
  | '0' :: letter :: cs =>
    let base := match letter with
      | 'x' => 16
      | 'o' => 8
      | 'b' => 2
      | _ => 0
    let value? (c : Char) : Option Nat := (hexDigit? c).filter (· < base)
    let value := (dropUnderscores cs).foldl (fun n c => base * n + (value? c).getD 0) 0
    isDigits (fun c => (value? c).isSome) cs && Decimal.fitsLong value
  | _ => false

/-- Whether a text is an exponent, or empty. -/
def isExponent : List Char → Bool
  | [] => true
  | c :: cs => (c = 'e' || c = 'E') && isDigits Char.isDigit (Decimal.readSign cs).2

/-- Whether a text is a fraction with an exponent, of which one may be missing. -/
def isFraction : List Char → Bool
  | '.' :: cs =>
    let isPart (c : Char) : Bool := c.isDigit || c = '_'
    isDigits Char.isDigit (cs.takeWhile isPart) && isExponent (cs.dropWhile isPart)
  | cs => isExponent cs

/-- Whether a text is a decimal number that is in range. -/
def isDecimal (cs : List Char) : Bool :=
  let unsigned := (Decimal.readSign cs).2
  let whole := unsigned.takeWhile fun c => c.isDigit || c = '_'
  let rest := unsigned.drop whole.length
  isDigits Char.isDigit whole && (whole.head? ≠ some '0' || whole.length = 1) && isFraction rest &&
    if rest.isEmpty then (Decimal.readLong? (dropUnderscores cs)).isSome
    else match Decimal.readNumeral? (dropUnderscores cs) with
      | some x => x.isFinite
      | none => false

/-- Whether a text is a number. -/
def isNumber (cs : List Char) : Bool :=
  isDecimal cs || isRadixNumber cs ||
    (Decimal.readSign cs).2 = ['i', 'n', 'f'] || (Decimal.readSign cs).2 = ['n', 'a', 'n']

/-! ## Dates and times -/

/-- The value of exactly two digits. -/
def pair? : List Char → Option Nat
  | [a, b] => if a.isDigit && b.isDigit then some (Decimal.digitsValue [a, b]) else none
  | _ => none

/-- Whether a text is two digits below a bound. -/
def isPairBelow (bound : Nat) (cs : List Char) : Bool := ((pair? cs).filter (· < bound)).isSome

/-- Whether a text is a date: year, month and day with hyphens between them. -/
def isDate (cs : List Char) : Bool :=
  match Text.splitWhere (· = '-') cs with
  | [year, month, day] =>
    match pair? month, pair? day with
    | some m, some d => year.length = 4 && year.all Char.isDigit &&
        decide (Calendar.IsDate (Decimal.digitsValue year) m d)
    | _, _ => false
  | _ => false

/-- Whether a text is a time: hour, minute and second with colons between them, the second perhaps
with a fraction. -/
def isTime (cs : List Char) : Bool :=
  match Text.splitWhere (· = ':') cs with
  | [hour, minute, second] =>
    isPairBelow 24 hour && isPairBelow 60 minute && isPairBelow 61 (second.take 2) &&
      match second.drop 2 with
      | [] => true
      | '.' :: fraction => !fraction.isEmpty && fraction.all Char.isDigit
      | _ => false
  | _ => false

/-- Whether a text is a time, perhaps with its distance from universal time. -/
def isZonedTime (cs : List Char) : Bool :=
  let time := cs.takeWhile fun c => c.isDigit || c = ':' || c = '.'
  isTime time && match cs.drop time.length with
    | [] | ['Z'] | ['z'] => true
    | sign :: distance => (sign = '+' || sign = '-') &&
        match Text.splitWhere (· = ':') distance with
        | [hour, minute] => isPairBelow 24 hour && isPairBelow 60 minute
        | _ => false

/-- Whether a text is a date, a time or both. -/
def isMoment (cs : List Char) : Bool :=
  isTime cs || isDate cs ||
    (isDate (cs.take 10) && match cs.drop 10 with
      | mark :: time => (mark = 'T' || mark = 't' || mark = ' ') && isZonedTime time
      | [] => false)

/-! ## Values -/

/-- Whether a character ends a value that is neither quoted nor bracketed. -/
def endsScalar (c : Char) : Bool :=
  isSpace c || c = '\n' || c = '#' || c = ',' || c = ']' || c = '\x7d'

/-- The text of a value and what comes after it. A single space may stand between a date and a
time. -/
def cutScalar (cs : List Char) : List Char × List Char :=
  let first := cs.takeWhile fun c => !endsScalar c
  match cs.drop first.length with
  | ' ' :: rest =>
    let second := rest.takeWhile fun c => !endsScalar c
    if isDate first && (second.headD ' ').isDigit then
      (first ++ ' ' :: second, rest.drop second.length)
    else (first, ' ' :: rest)
  | rest => (first, rest)

end Stencil.Toml
