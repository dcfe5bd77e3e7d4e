import Stencil.Calendar.Iso

/-!
# Date patterns

A pattern is text with fields, each a percent sign and a letter.

* `Field` are the figures and names a pattern can ask for, `Item` the pieces of a pattern.
* `Item.ofPattern?` reads a pattern; it fails at a letter that stands for no field of a date.
* `Date.format` writes a date by a pattern, and in figures by a pattern that cannot be read.
-/

namespace Stencil.Calendar

/-- What fills a number up to its width. -/
inductive Pad where
  | bare
  | zeros
  | blanks
  deriving Repr, DecidableEq

/-- A number of a date. -/
inductive Field where
  | year | century | yearOfCentury
  | weekYear | yearOfWeekCentury
  | quarter | month | day | dayOfYear
  | sundayWeek | mondayWeek | week
  | sundayIndex | weekdayNumber
  deriving Repr, DecidableEq

/-- A piece of a pattern. -/
inductive Item where
  | literal (char : Char)
  | number (field : Field) (pad : Pad)
  | monthName
  | shortMonthName
  | weekdayName
  | shortWeekdayName
  deriving Repr, DecidableEq

/-- Day, month and year of the forms that are made up of several fields. -/
def Item.composite? (letter : Char) : Option (List Item) :=
  match letter with
  | 'D' | 'x' => some [.number .month .zeros, .literal '/', .number .day .zeros, .literal '/',
      .number .yearOfCentury .zeros]
  | 'F' => some [.number .year .zeros, .literal '-', .number .month .zeros, .literal '-',
      .number .day .zeros]
  | 'v' => some [.number .day .blanks, .literal '-', .shortMonthName, .literal '-',
      .number .year .zeros]
  | _ => none

/-- The field of a letter with its own padding. -/
def Item.field? (letter : Char) : Option (Field × Pad) :=
  match letter with
  | 'Y' => some (.year, .zeros)
  | 'C' => some (.century, .zeros)
  | 'y' => some (.yearOfCentury, .zeros)
  | 'G' => some (.weekYear, .zeros)
  | 'g' => some (.yearOfWeekCentury, .zeros)
  | 'q' => some (.quarter, .bare)
  | 'm' => some (.month, .zeros)
  | 'd' => some (.day, .zeros)
  | 'e' => some (.day, .blanks)
  | 'j' => some (.dayOfYear, .zeros)
  | 'U' => some (.sundayWeek, .zeros)
  | 'W' => some (.mondayWeek, .zeros)
  | 'V' => some (.week, .zeros)
  | 'w' => some (.sundayIndex, .bare)
  | 'u' => some (.weekdayNumber, .bare)
  | _ => none

/-- The pieces that a letter stands for. -/
def Item.ofLetter? (letter : Char) : Option (List Item) :=
  match Item.field? letter with
  | some (field, pad) => some [.number field pad]
  | none =>
    match letter with
    | 'A' => some [.weekdayName]
    | 'a' => some [.shortWeekdayName]
    | 'B' => some [.monthName]
    | 'b' | 'h' => some [.shortMonthName]
    | 'n' => some [.literal '\n']
    | 't' => some [.literal '\t']
    | '%' => some [.literal '%']
    | _ => Item.composite? letter

/-- The padding that a sign after the percent sign asks for. -/
def Pad.ofSign? : Char → Option Pad
  | '-' => some .bare
  | '0' => some .zeros
  | '_' => some .blanks
  | _ => none

/-- The pieces of a pattern. A padding sign goes with a number only. -/
def Item.ofPattern? : List Char → Option (List Item)
  | [] => some []
  | '%' :: [] => none
  | '%' :: sign :: cs =>
    match Pad.ofSign? sign with
    | none => do
      let items ← Item.ofLetter? sign
      let rest ← Item.ofPattern? cs
      some (items ++ rest)
    | some pad =>
      match cs with
      | [] => none
      | letter :: cs => do
        let (field, _) ← Item.field? letter
        let rest ← Item.ofPattern? cs
        some (.number field pad :: rest)
  | c :: cs => (Item.ofPattern? cs).map (.literal c :: ·)

/-- A text filled up from the front; zeros go between a sign and the digits. -/
def padTo (width : Nat) (pad : Pad) (sign digits : List Char) : List Char :=
  let missing := width - (sign.length + digits.length)
  match pad with
  | .bare => sign ++ digits
  | .zeros => sign ++ List.replicate missing '0' ++ digits
  | .blanks => List.replicate missing ' ' ++ sign ++ digits

/-- A year. Outside of the years 0 to 9999 it has a sign. -/
def yearField (pad : Pad) (year : Int) : List Char :=
  let digits := Nat.toDigits 10 year.natAbs
  if 0 ≤ year ∧ year ≤ 9999 then padTo 4 pad [] digits
  else padTo 5 pad [if year < 0 then '-' else '+'] digits

/-- A number below 100 in two places. The number is kept in one byte, and its tens in one
character from `'0'` on, whatever they are. -/
def twoPlaces (pad : Pad) (n : Int) : List Char :=
  let byte := (n % 256).toNat
  let ones := Char.ofNat ('0'.toNat + byte % 10)
  match byte / 10, pad with
  | 0, .bare => [ones]
  | 0, .blanks => [' ', ones]
  | tens, _ => [Char.ofNat ('0'.toNat + tens), ones]

/-- The text of a number of a date. -/
def Field.text (field : Field) (pad : Pad) (d : Date) : List Char :=
  match field with
  | .year => yearField pad d.year
  | .century => twoPlaces pad (d.year / 100)
  | .yearOfCentury => twoPlaces pad (d.year % 100)
  | .weekYear => yearField pad d.yearWeek.1
  | .yearOfWeekCentury => twoPlaces pad (d.yearWeek.1 % 100)
  | .quarter => Nat.toDigits 10 d.quarter
  | .month => twoPlaces pad d.month
  | .day => twoPlaces pad d.day
  | .dayOfYear => padTo 3 pad [] (Nat.toDigits 10 d.dayOfYear)
  | .sundayWeek => twoPlaces pad d.sundayWeek
  | .mondayWeek => twoPlaces pad d.mondayWeek
  | .week => twoPlaces pad d.yearWeek.2
  | .sundayIndex => Nat.toDigits 10 d.weekday.sundayIndex
  | .weekdayNumber => Nat.toDigits 10 (d.weekday.index + 1)

/-- The text of a piece of a pattern. -/
def Item.text (d : Date) : Item → List Char
  | .literal char => [char]
  | .number field pad => field.text pad d
  | .monthName => (Calendar.monthName d.month).toList
  | .shortMonthName => (Calendar.monthName d.month).toList.take 3
  | .weekdayName => d.weekday.name.toList
  | .shortWeekdayName => d.weekday.shortName.toList

/-- A date by a pattern; in figures if the pattern cannot be read. -/
def Date.format (d : Date) (pattern : String) : String :=
  match Item.ofPattern? pattern.toList with
  | some items => String.ofList (items.flatMap (Item.text d))
  | none => d.iso

end Stencil.Calendar
