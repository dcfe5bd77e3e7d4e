import Stencil.Calendar.Date
import Stencil.Decimal.Numeral
import Stencil.Text.Blank

/-!
# Year, month and day in figures

* `Date.iso` writes a date as year, month and day between hyphens. A year of more or less than
  four figures, or before the year 0, has a sign.
* `Date.readIso` reads the form strictly, `Date.readLoose` allows blanks around the hyphens. Both
  allow fewer figures, and `DateError` says what is wrong.
* `Date.library` is the `DateLibrary` of this calendar.
-/

namespace Stencil.Calendar

/-- Why a text is no date. -/
inductive DateError where
  | tooShort
  | tooLong
  | invalid
  | outOfRange
  deriving Repr, DecidableEq

/-- The wording of an error. -/
def DateError.message : DateError → String
  | .tooShort => "premature end of input"
  | .tooLong => "trailing input"
  | .invalid => "input contains invalid characters"
  | .outOfRange => "input is out of range"

/-- A number with zeros in front up to the given width. -/
def zeroPadded (width n : Nat) : List Char :=
  let digits := Nat.toDigits 10 n
  List.replicate (width - digits.length) '0' ++ digits

/-- A year in at least four figures, with a sign outside of the years 0 to 9999. -/
def yearText (year : Int) : List Char :=
  if 0 ≤ year ∧ year ≤ 9999 then zeroPadded 4 year.toNat
  else (if year < 0 then '-' else '+') :: zeroPadded 4 year.natAbs

/-- A date as year, month and day between hyphens. -/
def Date.iso (d : Date) : String :=
  String.ofList (yearText d.year ++ '-' :: zeroPadded 2 d.month ++ '-' :: zeroPadded 2 d.day)

/-- Reads a run of digits, at most `limit` of them if there is a limit. The value has to fit a
signed 64-bit integer. -/
def readDigits (limit : Option Nat) (cs : List Char) : Except DateError (Nat × List Char) :=
  let run := cs.takeWhile Char.isDigit
  let run := match limit with
    | some limit => run.take limit
    | none => run
  if cs.isEmpty then .error .tooShort
  else if run.isEmpty then .error .invalid
  else if Decimal.digitsValue run < 0x8000000000000000 then
    .ok (Decimal.digitsValue run, cs.drop run.length)
  else .error .outOfRange

/-- Reads a year: four figures at most, or a sign and any number of them. -/
def readYear (cs : List Char) : Except DateError (Int × List Char) :=
  match Text.trimStart cs with
  | '-' :: cs => (readDigits none cs).map fun (n, rest) => (-(n : Int), rest)
  | '+' :: cs => (readDigits none cs).map fun (n, rest) => ((n : Int), rest)
  | cs => (readDigits (some 4) cs).map fun (n, rest) => ((n : Int), rest)

/-- Reads a number of at most two figures from 1 to `top`. -/
def readPart (top : Nat) (cs : List Char) : Except DateError (Nat × List Char) := do
  let (n, rest) ← readDigits (some 2) (Text.trimStart cs)
  if 1 ≤ n ∧ n ≤ top then .ok (n, rest) else .error .outOfRange

/-- Reads a hyphen. -/
def readHyphen : List Char → Except DateError (List Char)
  | '-' :: cs => .ok cs
  | [] => .error .tooShort
  | _ => .error .invalid

/-- Reads year, month and day; `gap` is applied before each hyphen and at the end. -/
def readDate (gap : List Char → List Char) (cs : List Char) : Except DateError Date := do
  let (year, cs) ← readYear cs
  if year < -0x80000000 ∨ 0x80000000 ≤ year then throw .outOfRange
  let cs ← readHyphen (gap cs)
  let (month, cs) ← readPart 12 cs
  let cs ← readHyphen (gap cs)
  let (day, cs) ← readPart 31 cs
  if (gap cs).isEmpty then
    match Date.ofParts? year month day with
    | some date => .ok date
    | none => .error .outOfRange
  else .error .tooLong

/-- Reads a date; blanks may stand before each number. -/
def Date.readIso (cs : List Char) : Except DateError Date := readDate id cs

/-- Reads a date; blanks may stand before each number and each hyphen and at the end. -/
def Date.readLoose (cs : List Char) : Except DateError Date := readDate Text.trimStart cs

/-- The calendar of these dates. -/
instance Date.library : DateLibrary where
  ofParts? := Date.ofParts?
  addDays? := Date.addDays?
  addMonths? := Date.addMonths?
  weekday := Date.weekday
  readIso? cs := (Date.readIso cs).toOption

end Stencil.Calendar
