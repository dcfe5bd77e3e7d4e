import Mathlib.Tactic.IntervalCases
import Stencil.Proofs.Calendar.Iso

/-!
# The numbers of days

Year, month and day have a number in the calendar that goes on without end to both sides, and every
number is that of one day. The dates are the days of some of the years, so they are the days whose
numbers lie between those of the first and the last date.

* `yearAfter_eq_iff` and `monthAfter_spec`: the year and the month in which a day lies.
* `IsDay` and `dayNumber` are about all years; `dayNumber_inj` and `exists_isDay`.
* `Date.ofNumber?_dayNumber`, `Date.ofNumber?_eq_some_iff` and `Date.ofNumber?_eq_none_iff`.
* `addMonths?_eq` and `Date.weekday_eq`: the dates some months away and the days of the week.
* `LawfulDateLibrary` are the laws of a `DateLibrary`; `Date.lawful_library` proves them for the one
  of these dates.
-/

namespace Stencil.Calendar

variable {year year' days n : Int} {month day : Nat}

/-! ## Years -/

/-- How many days a year has. -/
def yearLength (year : Int) : Nat := if isLeap year then 366 else 365

theorem daysBeforeYear_succ (year : Int) :
    daysBeforeYear (year + 1) = daysBeforeYear year + yearLength year := by
  unfold daysBeforeYear yearLength isLeap
  by_cases h4 : year % 4 = 0
  · by_cases h100 : year % 100 = 0
    · by_cases h400 : year % 400 = 0
      · simp [h4, h100, h400]
        omega
      · simp [h4, h100, h400]
        omega
    · simp [h4, h100]
      omega
  · simp [h4]
    omega

theorem daysBeforeYear_mono (h : year ≤ year') : daysBeforeYear year ≤ daysBeforeYear year' := by
  unfold daysBeforeYear
  omega

/-- The estimate is off by one year at most. -/
theorem daysBeforeYear_guess (days : Int) :
    daysBeforeYear (400 * days / 146097) ≤ days ∧
      days < daysBeforeYear (400 * days / 146097 + 3) := by
  unfold daysBeforeYear
  omega

theorem yearAfter_spec (days : Int) :
    daysBeforeYear (yearAfter days) ≤ days ∧ days < daysBeforeYear (yearAfter days + 1) := by
  obtain ⟨hlow, hhigh⟩ := daysBeforeYear_guess days
  unfold yearAfter
  dsimp only
  generalize 400 * days / 146097 = guess at hlow hhigh ⊢
  split
  · next hless =>
    rw [Int.add_sub_cancel]
    exact ⟨hlow, hless⟩
  · next hless =>
    split
    · next hmore => exact ⟨hmore, by rwa [Int.add_assoc, Int.add_assoc]⟩
    · next hmore => exact ⟨Int.not_lt.mp hless, Int.not_le.mp hmore⟩

/-- **A day lies in the year that `yearAfter` gives**, and in no other. -/
theorem yearAfter_eq_iff :
    yearAfter days = year ↔ daysBeforeYear year ≤ days ∧ days < daysBeforeYear (year + 1) := by
  obtain ⟨hlow, hhigh⟩ := yearAfter_spec days
  constructor
  · rintro rfl
    exact ⟨hlow, hhigh⟩
  · rintro ⟨hlow', hhigh'⟩
    by_contra hne
    rcases Int.lt_or_gt_of_ne hne with hlt | hgt
    · have := daysBeforeYear_mono hlt
      omega
    · have := daysBeforeYear_mono hgt
      omega

/-! ## Months -/

theorem monthLength_pos (year : Int) (month : Nat) : 0 < monthLength year month := by
  unfold monthLength
  split
  · split <;> decide
  all_goals decide

theorem daysBeforeMonth_succ (h : 1 ≤ month) (year : Int) :
    daysBeforeMonth year (month + 1) = daysBeforeMonth year month + monthLength year month := by
  rw [daysBeforeMonth, if_neg (Nat.one_le_iff_ne_zero.mp h)]

theorem daysBeforeMonth_mono {month' : Nat} (hlow : 1 ≤ month) (h : month ≤ month') (year : Int) :
    daysBeforeMonth year month ≤ daysBeforeMonth year month' := by
  induction h with
  | refl => exact Nat.le_refl _
  | step h ih =>
    rw [daysBeforeMonth_succ (hlow.trans h)]
    omega

/-- The months make up the year. -/
theorem daysBeforeMonth_end (year : Int) : daysBeforeMonth year 13 = yearLength year := by
  cases hleap : isLeap year <;> simp [daysBeforeMonth, monthLength, yearLength, hleap]

/-- The search for a month passes over whole months only. -/
theorem monthAfter_spec {year : Int} : ∀ {limit month days : Nat}, 1 ≤ month →
    daysBeforeMonth year month + days < daysBeforeMonth year (month + limit + 1) →
    month ≤ (monthAfter year limit month days).1 ∧
      (monthAfter year limit month days).1 ≤ month + limit ∧
      (monthAfter year limit month days).2 <
        monthLength year (monthAfter year limit month days).1 ∧
      daysBeforeMonth year (monthAfter year limit month days).1 +
        (monthAfter year limit month days).2 = daysBeforeMonth year month + days
  | 0, month, days, hmonth, hdays => by
    rw [Nat.add_zero, daysBeforeMonth_succ hmonth] at hdays
    exact ⟨Nat.le_refl _, Nat.le_refl _, by dsimp only [monthAfter]; omega, rfl⟩
  | limit + 1, month, days, hmonth, hdays => by
    rw [monthAfter]
    split
    · next hless => exact ⟨Nat.le_refl _, Nat.le_add_right _ _, hless, rfl⟩
    · next hmore =>
      have hnext := daysBeforeMonth_succ hmonth year
      have hrest : daysBeforeMonth year (month + 1) + (days - monthLength year month) =
          daysBeforeMonth year month + days := by omega
      obtain ⟨hlow, hhigh, hless, hsum⟩ :=
        @monthAfter_spec year limit (month + 1) (days - monthLength year month)
          (Nat.le_add_left 1 month) (by
            rw [hrest, Nat.add_right_comm month 1 limit]
            exact hdays)
      exact ⟨by omega, by omega, hless, hsum.trans hrest⟩

/-! ## Days -/

/-- Whether year, month and day make a day, in whatever year. -/
structure IsDay (year : Int) (month day : Nat) : Prop where
  month_pos : 1 ≤ month
  month_le : month ≤ 12
  day_pos : 1 ≤ day
  day_le : day ≤ monthLength year month

/-- The number of a day. -/
def dayNumber (year : Int) (month day : Nat) : Int :=
  daysBeforeYear year + (daysBeforeMonth year month + day : Nat)

theorem isDate_iff : IsDate year month day ↔
    firstYear ≤ year ∧ year ≤ lastYear ∧ IsDay year month day :=
  ⟨fun ⟨hfirst, hlast, h₁, h₂, h₃, h₄⟩ => ⟨hfirst, hlast, h₁, h₂, h₃, h₄⟩,
    fun ⟨hfirst, hlast, h⟩ => ⟨hfirst, hlast, h.month_pos, h.month_le, h.day_pos, h.day_le⟩⟩

theorem Date.isDay (d : Date) : IsDay d.year d.month d.day := (isDate_iff.mp d.valid).2.2

theorem Date.number_eq (d : Date) : d.number = dayNumber d.year d.month d.day := rfl

/-- A day lies in its year. -/
theorem IsDay.year_bounds (h : IsDay year month day) :
    daysBeforeYear year ≤ dayNumber year month day - 1 ∧
      dayNumber year month day - 1 < daysBeforeYear (year + 1) := by
  have hend := daysBeforeMonth_end year
  have hmonth := daysBeforeMonth_succ h.month_pos year
  have hlast : daysBeforeMonth year (month + 1) ≤ daysBeforeMonth year 13 :=
    daysBeforeMonth_mono (Nat.le_add_left 1 month) (Nat.succ_le_succ h.month_le) year
  have hlow := h.day_pos
  have hhigh := h.day_le
  rw [daysBeforeYear_succ, dayNumber]
  omega

/-- Different days have different numbers. -/
theorem dayNumber_inj {month' day' : Nat} (h : IsDay year month day)
    (h' : IsDay year' month' day') (heq : dayNumber year month day = dayNumber year' month' day') :
    year = year' ∧ month = month' ∧ day = day' := by
  have hyear : yearAfter (dayNumber year month day - 1) = year := yearAfter_eq_iff.mpr h.year_bounds
  have hyear' : yearAfter (dayNumber year' month' day' - 1) = year' :=
    yearAfter_eq_iff.mpr h'.year_bounds
  obtain rfl : year = year' := hyear.symm.trans ((congrArg (yearAfter <| · - 1) heq).trans hyear')
  have hsum : daysBeforeMonth year month + day = daysBeforeMonth year month' + day' := by
    unfold dayNumber at heq
    omega
  obtain ⟨hmonth, -, hday, hlength⟩ := h
  obtain ⟨hmonth', -, hday', hlength'⟩ := h'
  have hnext := daysBeforeMonth_succ hmonth year
  have hnext' := daysBeforeMonth_succ hmonth' year
  rcases Nat.lt_trichotomy month month' with hlt | rfl | hgt
  · have := daysBeforeMonth_mono (Nat.le_add_left 1 month) hlt year
    omega
  · exact ⟨rfl, rfl, by omega⟩
  · have := daysBeforeMonth_mono (Nat.le_add_left 1 month') hgt year
    omega

/-- **Every number is that of a day**, and this is the day that is looked up by it. -/
theorem exists_isDay (n : Int) : ∃ year month day, IsDay year month day ∧
    dayNumber year month day = n ∧ Date.ofNumber? n = Date.ofParts? year month day := by
  obtain ⟨hlow, hhigh⟩ := yearAfter_spec (n - 1)
  have hone (year : Int) : daysBeforeMonth year 1 = 0 := rfl
  have hend := daysBeforeMonth_end (yearAfter (n - 1))
  rw [daysBeforeYear_succ] at hhigh
  unfold Date.ofNumber?
  dsimp only
  generalize yearAfter (n - 1) = year at hlow hhigh hend ⊢
  obtain ⟨hmonth, hmonth', hless, hsum⟩ :=
    @monthAfter_spec year 11 1 (n - 1 - daysBeforeYear year).toNat (Nat.le_refl 1) (by
      rw [hone, hend]
      omega)
  generalize monthAfter year 11 1 (n - 1 - daysBeforeYear year).toNat = found
    at hmonth hmonth' hless hsum ⊢
  obtain ⟨month, gone⟩ := found
  dsimp only at hmonth hmonth' hless hsum ⊢
  refine ⟨year, month, gone + 1, ⟨hmonth, hmonth', Nat.le_add_left 1 gone, hless⟩, ?_, rfl⟩
  rw [hone] at hsum
  unfold dayNumber
  omega

/-! ## Dates -/

namespace Date

/-- A day is looked up by its number. -/
theorem ofNumber?_dayNumber (h : IsDay year month day) :
    ofNumber? (dayNumber year month day) = ofParts? year month day := by
  obtain ⟨year', month', day', h', hnumber, hlookup⟩ := exists_isDay (dayNumber year month day)
  obtain ⟨rfl, rfl, rfl⟩ := dayNumber_inj h' h hnumber
  exact hlookup

/-- **The date with a number is the one that has it.** -/
theorem ofNumber?_eq_some_iff {d : Date} : ofNumber? n = some d ↔ d.number = n := by
  constructor
  · intro h
    obtain ⟨year, month, day, -, hnumber, hlookup⟩ := exists_isDay n
    obtain ⟨hyear, hmonth, hday⟩ := ofParts?_eq_some_iff.mp (hlookup.symm.trans h)
    rw [number_eq, hyear, hmonth, hday, hnumber]
  · rintro rfl
    rw [number_eq, ofNumber?_dayNumber d.isDay, ofParts?_self]

end Date

/-- Whether a number is that of a date. -/
def InCalendar (n : Int) : Prop := Date.first.number ≤ n ∧ n ≤ Date.last.number

instance (n : Int) : Decidable (InCalendar n) := inferInstanceAs (Decidable (_ ∧ _))

theorem number_first : Date.first.number = daysBeforeYear firstYear + 1 := by decide

theorem number_last : Date.last.number = daysBeforeYear (lastYear + 1) := by decide

/-- The days between the first and the last date are those of the years of the calendar. -/
theorem inCalendar_dayNumber_iff (h : IsDay year month day) :
    InCalendar (dayNumber year month day) ↔ firstYear ≤ year ∧ year ≤ lastYear := by
  obtain ⟨hlow, hhigh⟩ := h.year_bounds
  unfold InCalendar
  rw [number_first, number_last]
  constructor
  · intro hbounds
    constructor
    · by_contra hbefore
      have := @daysBeforeYear_mono (year + 1) firstYear (Int.not_le.mp hbefore)
      omega
    · by_contra hbehind
      have := @daysBeforeYear_mono (lastYear + 1) year (Int.not_le.mp hbehind)
      omega
  · rintro ⟨hfirst, hlast⟩
    have hbefore := daysBeforeYear_mono hfirst
    have hbehind := @daysBeforeYear_mono (year + 1) (lastYear + 1) (Int.add_le_add_right hlast 1)
    omega

/-- **The numbers without a date are those outside of the calendar.** -/
theorem Date.ofNumber?_eq_none_iff : ofNumber? n = none ↔ ¬ InCalendar n := by
  obtain ⟨year, month, day, h, rfl, hlookup⟩ := exists_isDay n
  rw [hlookup, inCalendar_dayNumber_iff h, ofParts?]
  constructor
  · intro hnone hyears
    rw [dif_pos (isDate_iff.mpr ⟨hyears.1, hyears.2, h⟩)] at hnone
    cases hnone
  · intro hnot
    exact dif_neg fun hdate => hnot ⟨hdate.1, hdate.2.1⟩

/-! ## Months -/

/-- Whether `n` is the number of the day some months after a date: the same day of the month, or the
last one of a month that is too short. -/
def IsMonthsAfter (today : Date) (months n : Int) : Prop :=
  ∃ year month, 1 ≤ month ∧ month ≤ 12 ∧
    12 * year + (month : Nat) = 12 * today.year + today.month + months ∧
    n = dayNumber year month (min today.day (monthLength year month))

theorem exists_isMonthsAfter (today : Date) (months : Int) :
    ∃ n, IsMonthsAfter today months n ∧ today.addMonths? months = Date.ofNumber? n := by
  have hlow := today.isDay.day_pos
  unfold Date.addMonths?
  dsimp only
  generalize hsum : 12 * today.year + (today.month - 1) + months = sum
  have hmonth : (sum % 12).toNat + 1 ≤ 12 := by omega
  have hpos := monthLength_pos (sum / 12) ((sum % 12).toNat + 1)
  have hday : IsDay (sum / 12) ((sum % 12).toNat + 1)
      (min today.day (monthLength (sum / 12) ((sum % 12).toNat + 1))) :=
    ⟨Nat.le_add_left 1 _, hmonth, by omega, Nat.min_le_right _ _⟩
  exact ⟨_, ⟨_, _, hday.month_pos, hmonth, by omega, rfl⟩, (Date.ofNumber?_dayNumber hday).symm⟩

theorem IsMonthsAfter.unique {today : Date} {months n n' : Int} (h : IsMonthsAfter today months n)
    (h' : IsMonthsAfter today months n') : n = n' := by
  obtain ⟨year, month, hlow, hhigh, hsum, rfl⟩ := h
  obtain ⟨year', month', hlow', hhigh', hsum', rfl⟩ := h'
  obtain rfl : year = year' := by omega
  obtain rfl : month = month' := by omega
  rfl

/-- A date some months away is looked up by its number. -/
theorem addMonths?_eq {today : Date} {months n : Int} (h : IsMonthsAfter today months n) :
    today.addMonths? months = Date.ofNumber? n := by
  obtain ⟨n', h', heq⟩ := exists_isMonthsAfter today months
  rw [h.unique h', heq]

/-! ## Weekdays -/

namespace Weekday

/-- The weekday of the day with a number. -/
def ofNumber (n : Int) : Weekday := .ofIndex ((n - 1) % 7).toNat

theorem index_lt (w : Weekday) : w.index < 7 := by
  cases w <;> decide

theorem index_inj {w w' : Weekday} (h : w.index = w'.index) : w = w' := by
  cases w <;> cases w' <;> first | rfl | cases h

theorem index_ofIndex (n : Nat) : (ofIndex n).index = n % 7 := by
  have hlt : n % 7 < 7 := Nat.mod_lt n (by decide)
  unfold ofIndex
  generalize n % 7 = k at hlt ⊢
  interval_cases k <;> rfl

theorem index_ofNumber (n : Int) : ((ofNumber n).index : Int) = (n - 1) % 7 := by
  rw [ofNumber, index_ofIndex]
  omega

theorem ofNumber_eq_iff {n : Int} {w : Weekday} : ofNumber n = w ↔ (n - 1) % 7 = w.index := by
  rw [← index_ofNumber]
  exact ⟨fun h => h ▸ rfl, fun h => index_inj (Int.ofNat.inj h)⟩

end Weekday

/-- The weekday of a date is that of its number. -/
theorem Date.weekday_eq (d : Date) : d.weekday = .ofNumber d.number := rfl

/-! ## The laws of a calendar -/

/-- A library for the dates of this calendar: year, month and day make a date only if they are those
of one, dates are moved by their numbers, and figures are read as they are written. -/
class LawfulDateLibrary [DateLibrary] : Prop where
  ofParts?_eq_some_iff {year : Int} {month day : Nat} {d : Date} :
    DateLibrary.ofParts? year month day = some d ↔ d.year = year ∧ d.month = month ∧ d.day = day
  addDays?_eq_some_iff {d e : Date} {n : Int} :
    DateLibrary.addDays? d n = some e ↔ e.number = d.number + n
  addMonths?_eq_some_iff {d e : Date} {months n : Int} : IsMonthsAfter d months n →
    (DateLibrary.addMonths? d months = some e ↔ e.number = n)
  weekday_eq (d : Date) : DateLibrary.weekday d = .ofNumber d.number
  readIso?_eq_some_iff {cs : List Char} {d : Date} :
    DateLibrary.readIso? cs = some d ↔ readFigures cs = .ok (d.year, d.month, d.day)

/-- The laws hold of the calendar of these dates. -/
instance Date.lawful_library : LawfulDateLibrary where
  ofParts?_eq_some_iff := Date.ofParts?_eq_some_iff
  addDays?_eq_some_iff := Date.ofNumber?_eq_some_iff
  addMonths?_eq_some_iff h := by
    rw [show DateLibrary.addMonths? _ _ = _ from addMonths?_eq h, Date.ofNumber?_eq_some_iff]
  weekday_eq := Date.weekday_eq
  readIso?_eq_some_iff := by
    intro cs d
    rw [← readIso_eq_ok_iff]
    show (Date.readIso cs).toOption = some d ↔ _
    cases Date.readIso cs <;> simp [Except.toOption]

namespace LawfulDateLibrary

variable [DateLibrary] [LawfulDateLibrary]

/-- Dates of parts are those of the range. -/
theorem ofParts?_eq (year : Int) (month day : Nat) :
    DateLibrary.ofParts? year month day = Date.ofParts? year month day :=
  Option.ext fun d => by rw [ofParts?_eq_some_iff, Date.ofParts?_eq_some_iff]

/-- A date some days away is looked up by its number. -/
theorem addDays?_eq (d : Date) (n : Int) :
    DateLibrary.addDays? d n = Date.ofNumber? (d.number + n) :=
  Option.ext fun e => by rw [addDays?_eq_some_iff, Date.ofNumber?_eq_some_iff]

/-- A date some months away is looked up by its number. -/
theorem addMonths?_eq {d : Date} {months n : Int} (h : IsMonthsAfter d months n) :
    DateLibrary.addMonths? d months = Date.ofNumber? n :=
  Option.ext fun e => by rw [addMonths?_eq_some_iff h, Date.ofNumber?_eq_some_iff]

/-- Every date is read back from its figures. -/
theorem readIso?_iso (d : Date) : DateLibrary.readIso? d.iso.toList = some d :=
  readIso?_eq_some_iff.mpr (readIso_eq_ok_iff.mp (readIso_iso d))

end LawfulDateLibrary

end Stencil.Calendar
