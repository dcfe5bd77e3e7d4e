/-!
# Dates of the calendar

Dates of the Gregorian calendar, extended to both sides, in a fixed range of years.

* `Date` is a valid date; `Date.ofParts?` makes one from year, month and day.
* `Date.number` numbers the days, the first of January of the year 1 being day 1;
  `Date.ofNumber?` is the date of a number.
* `Date.addDays?` and `Date.addMonths?` move a date, the latter to the end of a month that is too
  short.
* `Date.weekday`, `Date.dayOfYear` and the weeks of the year.
* `DateLibrary` is what the rest asks of a calendar.
* `Date.ofJournalDay?` and `Date.journalDay` convert journal days: dates written as one signed
  number of 32 bits, `yyyymmdd`.
-/

namespace Stencil.Calendar

/-- The first year of the range. -/
def firstYear : Int := -262143

/-- The last year of the range. -/
def lastYear : Int := 262142

/-- Whether a year has a leap day. -/
def isLeap (year : Int) : Bool := year % 4 = 0 && (year % 100 ≠ 0 || year % 400 = 0)

/-- How many days a month has. -/
def monthLength (year : Int) (month : Nat) : Nat :=
  match month with
  | 2 => if isLeap year then 29 else 28
  | 4 | 6 | 9 | 11 => 30
  | _ => 31

/-- Whether year, month and day make a date in the range. -/
def IsDate (year : Int) (month day : Nat) : Prop :=
  firstYear ≤ year ∧ year ≤ lastYear ∧ 1 ≤ month ∧ month ≤ 12 ∧ 1 ≤ day ∧
    day ≤ monthLength year month

instance (year : Int) (month day : Nat) : Decidable (IsDate year month day) :=
  inferInstanceAs (Decidable (_ ∧ _))

/-- A date. -/
structure Date where
  year : Int
  month : Nat
  day : Nat
  valid : IsDate year month day
  deriving DecidableEq

/-- The days of the week, from Monday. -/
inductive Weekday where
  | monday | tuesday | wednesday | thursday | friday | saturday | sunday
  deriving Repr, DecidableEq

namespace Weekday

/-- The days of the week in order. -/
def all : List Weekday := [.monday, .tuesday, .wednesday, .thursday, .friday, .saturday, .sunday]

/-- The position in the week, Monday being 0. -/
def index : Weekday → Nat
  | .monday => 0
  | .tuesday => 1
  | .wednesday => 2
  | .thursday => 3
  | .friday => 4
  | .saturday => 5
  | .sunday => 6

/-- The weekday at a position, counted round and round. -/
def ofIndex (n : Nat) : Weekday :=
  match n % 7 with
  | 0 => .monday
  | 1 => .tuesday
  | 2 => .wednesday
  | 3 => .thursday
  | 4 => .friday
  | 5 => .saturday
  | _ => .sunday

/-- The name of a weekday. -/
def name : Weekday → String
  | .monday => "Monday"
  | .tuesday => "Tuesday"
  | .wednesday => "Wednesday"
  | .thursday => "Thursday"
  | .friday => "Friday"
  | .saturday => "Saturday"
  | .sunday => "Sunday"

/-- The first three letters of the name. -/
def shortName (w : Weekday) : String := String.ofList (w.name.toList.take 3)

/-- The position in a week that starts on Sunday. -/
def sundayIndex (w : Weekday) : Nat := (w.index + 1) % 7

end Weekday

/-- The names of the months. -/
def monthName (month : Nat) : String :=
  match month with
  | 1 => "January"
  | 2 => "February"
  | 3 => "March"
  | 4 => "April"
  | 5 => "May"
  | 6 => "June"
  | 7 => "July"
  | 8 => "August"
  | 9 => "September"
  | 10 => "October"
  | 11 => "November"
  | _ => "December"

/-- How many days lie before the first day of a year, counted from the year 1. -/
def daysBeforeYear (year : Int) : Int :=
  365 * (year - 1) + (year - 1) / 4 - (year - 1) / 100 + (year - 1) / 400

/-- How many days of a year lie before a month. -/
def daysBeforeMonth (year : Int) : Nat → Nat
  | 0 => 0
  | month + 1 => if month = 0 then 0 else daysBeforeMonth year month + monthLength year month

/-- The year in which lie `days` days after the first day of the year 1. The estimate from the
length of 400 years is off by one year at most. -/
def yearAfter (days : Int) : Int :=
  let guess := 400 * days / 146097 + 1
  if days < daysBeforeYear guess then guess - 1
  else if daysBeforeYear (guess + 1) ≤ days then guess + 1
  else guess

/-- The month, at most `limit` months after `month`, and the days gone in it, `days` days after
the start of `month`. -/
def monthAfter (year : Int) (limit month days : Nat) : Nat × Nat :=
  match limit with
  | 0 => (month, days)
  | limit + 1 =>
    if days < monthLength year month then (month, days)
    else monthAfter year limit (month + 1) (days - monthLength year month)

namespace Date

/-- The date of year, month and day, if there is one in the range. -/
def ofParts? (year : Int) (month day : Nat) : Option Date :=
  if h : IsDate year month day then some ⟨year, month, day, h⟩ else none

/-- The number of the day in its year, from 1. -/
def dayOfYear (d : Date) : Nat := daysBeforeMonth d.year d.month + d.day

/-- The number of the day. -/
def number (d : Date) : Int := daysBeforeYear d.year + d.dayOfYear

/-- The date with a number, if it lies in the range. -/
def ofNumber? (n : Int) : Option Date :=
  let days := n - 1
  let year := yearAfter days
  let (month, gone) := monthAfter year 11 1 (days - daysBeforeYear year).toNat
  ofParts? year month (gone + 1)

/-- The first date of the range. -/
def first : Date := ⟨-262143, 1, 1, by decide⟩

/-- The last date of the range. -/
def last : Date := ⟨262142, 12, 31, by decide⟩

/-- The first day of the year 1970. -/
def epoch : Date := ⟨1970, 1, 1, by decide⟩

instance : Inhabited Date := ⟨epoch⟩

/-- The date `n` days later, if it lies in the range. -/
def addDays? (d : Date) (n : Int) : Option Date := ofNumber? (d.number + n)

/-- The same day `n` months later, or the last day of that month when it is shorter. -/
def addMonths? (d : Date) (n : Int) : Option Date :=
  let months := 12 * d.year + (d.month - 1) + n
  let year := months / 12
  let month := (months % 12).toNat + 1
  ofParts? year month (min d.day (monthLength year month))

/-- The weekday of a date. -/
def weekday (d : Date) : Weekday := .ofIndex ((d.number - 1) % 7).toNat

/-- The quarter of the year, from 1. -/
def quarter (d : Date) : Nat := (d.month + 2) / 3

/-- The number of the week in a year whose first week starts on its first Sunday. -/
def sundayWeek (d : Date) : Nat := (d.dayOfYear + 6 - d.weekday.sundayIndex) / 7

/-- The number of the week in a year whose first week starts on its first Monday. -/
def mondayWeek (d : Date) : Nat := (d.dayOfYear + 6 - d.weekday.index) / 7

/-- The year and the week that a date belongs to when a week from Monday on counts to the year of
its Thursday. -/
def yearWeek (d : Date) : Int × Nat :=
  let thursday := d.number + 3 - d.weekday.index
  let year := yearAfter (thursday - 1)
  (year, ((thursday - 1 - daysBeforeYear year).toNat) / 7 + 1)

end Date

/-- What calculates with dates. -/
@[ext]
class DateLibrary where
  /-- The date of year, month and day, if there is one. -/
  ofParts? : Int → Nat → Nat → Option Date
  /-- The date some days later, if there is one. -/
  addDays? : Date → Int → Option Date
  /-- The date some months later, if there is one. -/
  addMonths? : Date → Int → Option Date
  /-- The weekday of a date. -/
  weekday : Date → Weekday
  /-- The date that is written as year, month and day in figures. -/
  readIso? : List Char → Option Date

namespace Date

/-- The date of a journal day. Only positive numbers have one. -/
def ofJournalDay? [DateLibrary] (n : Int) : Option Date :=
  if 0 < n then DateLibrary.ofParts? (n / 10000) (n / 100 % 100).toNat (n % 100).toNat else none

/-- The journal day of a date; years too far away wrap round. -/
def journalDay (d : Date) : Int := (d.year * 10000 + d.month * 100 + d.day).bmod 0x100000000

end Date

end Stencil.Calendar
