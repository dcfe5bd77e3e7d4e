import Stencil.Calendar.Iso
import Stencil.Text.Case

/-!
# Dates in words

A phrase such as `next monday`, `in 3 weeks` or `a month ago` names a date relative to today.

* `Weekday.ofName?` reads the name of a weekday, in full or by its first three letters.
* `nextOn` and `lastOn` are the nearest dates with a weekday.
* `Resolved` is what a phrase stands for: a date, nothing known, or a weekday that lies beyond the
  end of the calendar. `resolve` finds it out.
-/

namespace Stencil.Calendar

/-- The weekday with a name in lower case, in full or by its first three letters. -/
def Weekday.ofName? (name : List Char) : Option Weekday :=
  Weekday.all.find? fun w =>
    let full := w.name.toList.map Char.toLower
    name = full || name = full.take 3

/-- How many days ahead the next `target` is, today included. -/
def daysAhead (current target : Weekday) : Nat := (7 + target.index - current.index) % 7

/-- How many days back the last `target` is, today included. -/
def daysBack (current target : Weekday) : Nat := (7 + current.index - target.index) % 7

/-- What a phrase stands for. -/
inductive Resolved where
  | date (date : Date)
  | unknown
  /-- The weekday asked for lies outside of the calendar. -/
  | beyondCalendar
  deriving DecidableEq

/-- The date of a result, if there is one. -/
def Resolved.date? : Resolved → Option Date
  | .date d => some d
  | _ => none

/-- A date that may be missing. -/
def Resolved.ofOption : Option Date → Resolved
  | some d => .date d
  | none => .unknown

/-- A date at a distance, which has to lie in the calendar. -/
def reach [DateLibrary] (today : Date) (days : Int) : Resolved :=
  match DateLibrary.addDays? today days with
  | some date => .date date
  | none => .beyondCalendar

/-- The next date with the weekday, `today` included. -/
def thisOn [DateLibrary] (today : Date) (w : Weekday) : Resolved :=
  reach today (daysAhead (DateLibrary.weekday today) w)

/-- The next date with the weekday after today. -/
def nextOn [DateLibrary] (today : Date) (w : Weekday) : Resolved :=
  let ahead := daysAhead (DateLibrary.weekday today) w
  reach today (if ahead = 0 then 7 else ahead)

/-- The last date with the weekday before today. -/
def lastOn [DateLibrary] (today : Date) (w : Weekday) : Resolved :=
  let back := daysBack (DateLibrary.weekday today) w
  reach today (-(if back = 0 then 7 else back : Nat))

/-- A number of days, weeks, months or years: a number that fits 64 bits, or a small number in
words. -/
def readAmount? (word : List Char) : Option Nat :=
  if word = ['a'] || word = ['a', 'n'] || word = ['o', 'n', 'e'] then some 1
  else if word = ['t', 'w', 'o'] then some 2
  else if word = ['t', 'h', 'r', 'e', 'e'] then some 3
  else
    let digits := if word.head? = some '+' then word.tail else word
    if digits.isEmpty || !digits.all Char.isDigit then none
    else if Decimal.digitsValue digits < 0x10000000000000000 then some (Decimal.digitsValue digits)
    else none

/-- A unit of time. -/
inductive TimeUnit where
  | day | week | month | year
  deriving Repr, DecidableEq

/-- The unit with a name, whatever number of letters `s` it ends with. -/
def TimeUnit.ofName? (name : List Char) : Option TimeUnit :=
  let name := String.ofList (Text.stripEnd ['s'] name)
  if name = "day" then some .day
  else if name = "week" then some .week
  else if name = "month" then some .month
  else if name = "year" then some .year
  else none

/-- The date an amount of time after today, or before it when the amount is negative. -/
def shift? [DateLibrary] (today : Date) (amount : Int) : TimeUnit → Option Date
  | .day => DateLibrary.addDays? today amount
  | .week => DateLibrary.addDays? today (7 * amount)
  | .month => DateLibrary.addMonths? today amount
  | .year => DateLibrary.addMonths? today (12 * amount)

/-- The date an amount of a named unit away. -/
def shiftBy [DateLibrary] (today : Date) (amount : Int) (name : List Char) : Resolved :=
  .ofOption ((TimeUnit.ofName? name).bind (shift? today amount))

/-- A date in figures, or the weekday of that name from today on. -/
def resolveWord [DateLibrary] (today : Date) (word : List Char) : Resolved :=
  match DateLibrary.readIso? word with
  | some date => .date date
  | none =>
    match Weekday.ofName? word with
    | some w => thisOn today w
    | none => .unknown

/-- The date that a phrase of words in lower case stands for. -/
def resolveWords [DateLibrary] (today : Date) (words : List (List Char)) : Resolved :=
  match words.map String.ofList, words with
  | ["today"], _ | ["now"], _ => .date today
  | ["tomorrow"], _ => .ofOption (DateLibrary.addDays? today 1)
  | ["yesterday"], _ => .ofOption (DateLibrary.addDays? today (-1))
  | [_], [word] => resolveWord today word
  | ["this", _], [_, name] =>
    match Weekday.ofName? name with
    | some w => thisOn today w
    | none => .unknown
  | ["next", _], [_, name] =>
    match Weekday.ofName? name with
    | some w => nextOn today w
    | none => shiftBy today 1 name
  | ["last", _], [_, name] =>
    match Weekday.ofName? name with
    | some w => lastOn today w
    | none => shiftBy today (-1) name
  | ["in", _, _], [_, amount, unit] =>
    match readAmount? amount with
    | some n => shiftBy today n unit
    | none => .unknown
  | [_, _, "ago"], [amount, unit, _] =>
    match readAmount? amount with
    | some n => shiftBy today (-(n : Int)) unit
    | none => .unknown
  | [_, _, "from", "now"], [amount, unit, _, _] =>
    match readAmount? amount with
    | some n => shiftBy today n unit
    | none => .unknown
  | _, _ => .unknown

/-- The date that a phrase stands for. -/
def resolve [DateLibrary] (today : Date) (phrase : List Char) : Resolved :=
  resolveWords today (Text.words (Text.lower (Text.trim phrase)))

end Stencil.Calendar
