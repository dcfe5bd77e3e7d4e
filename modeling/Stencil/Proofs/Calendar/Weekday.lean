import Stencil.Proofs.Calendar.Phrase
import Stencil.Proofs.Text.Case

/-!
# Phrases with weekdays

A weekday stands for the nearest day that has it: from today on, from the next day on with `next`,
up to the day before with `last`. These are seven days in a row, in which every weekday is there
once.

* `Weekday.names`: how weekdays are called. `Weekday.ofName?_eq_some_iff`: these names are read, and
  no others.
* `Finds`: a phrase has the one date with a weekday at certain distances from today.
  `Request.finds`: so it is if the phrase asks for the weekday in seven days in a row.
* `nearest_weekday`: which days the phrases find, and that no distance is counted below zero.
-/

namespace Stencil.Calendar

open Text

/-! ## Names -/

namespace Weekday

/-- The names of a weekday: the full one and its first three letters, in lower case. -/
def names (w : Weekday) : List (List Char) :=
  let full := w.name.toList.map Char.toLower
  [full, full.take 3]

theorem mem_all (w : Weekday) : w ∈ all := by
  cases w <;> decide

/-- No two weekdays share a name. -/
theorem eq_of_mem_names {w w' : Weekday} {name : List Char} (h : name ∈ w.names)
    (h' : name ∈ w'.names) : w = w' := by
  have hapart : ∀ w ∈ all, ∀ w' ∈ all, (∃ name ∈ w.names, name ∈ w'.names) → w = w' := by decide
  exact hapart w w.mem_all w' w'.mem_all ⟨name, h, h'⟩

theorem mem_names_of_ofName? {name : List Char} {w : Weekday} (h : ofName? name = some w) :
    name ∈ w.names := by
  have hfound := List.find?_some h
  simpa [names] using hfound

/-- The weekday with a name is found, and no other text is the name of one. -/
theorem ofName?_eq_some_iff {name : List Char} {w : Weekday} :
    ofName? name = some w ↔ name ∈ w.names := by
  refine ⟨mem_names_of_ofName?, fun h => ?_⟩
  cases hfound : ofName? name with
  | none =>
    have hnone := List.find?_eq_none.mp hfound w w.mem_all
    exact absurd h (by simpa [names] using hnone)
  | some w' => rw [eq_of_mem_names (mem_names_of_ofName? hfound) h]

end Weekday

/-! ## Seven days in a row -/

/-- Whether a date has the weekday and lies from `low` to `high` days behind today. -/
structure IsWithin (today : Date) (w : Weekday) (low high : Int) (d : Date) : Prop where
  weekday : d.weekday = w
  low_le : low ≤ d.number - today.number
  le_high : d.number - today.number ≤ high

/-- Whether a phrase has the one date with the weekday from `low` to `high` days behind today. If
there is none, which is only possible at an end of the calendar, it goes beyond the calendar. -/
structure Finds (today : Date) (phrase : List Char) (w : Weekday) (low high : Int) : Prop where
  date_iff : ∀ d, resolve today phrase = .date d ↔ IsWithin today w low high d
  unique : ∀ d d', IsWithin today w low high d → IsWithin today w low high d' → d = d'
  beyond_iff : resolve today phrase = .beyondCalendar ↔ ¬ ∃ d, IsWithin today w low high d
  exists_of_inCalendar : InCalendar (today.number + low) → InCalendar (today.number + high) →
    ∃ d, IsWithin today w low high d

theorem Date.number_inj {d d' : Date} (h : d.number = d'.number) : d = d' :=
  Option.some.inj ((ofNumber?_eq_some_iff.mpr h).symm.trans (ofNumber?_eq_some_iff.mpr rfl))

namespace Request

variable {today : Date} {phrase : List Char} {request : Request} {w : Weekday} {low high : Int}

/-- A request for a weekday asks for some day. -/
theorem exists_asks_of_isWeekday (h : request.isWeekday = true) (today : Date) :
    ∃ n, request.Asks today n := by
  obtain hasks | ⟨year, month, day, rfl, -⟩ := request.exists_asks today
  · exact hasks
  · cases h

/-- **A phrase that asks for a weekday in seven days in a row finds it there.** -/
theorem finds (hphrase : ofPhrase? phrase = some request) (hweekday : request.isWeekday = true)
    (hasks : ∀ n, request.Asks today n ↔
      .ofNumber n = w ∧ low ≤ n - today.number ∧ n - today.number ≤ high)
    (hweek : high < low + 7) : Finds today phrase w low high := by
  have hresolve : Calendar.resolve today phrase = request.resolve today := by
    rw [resolve_eq, hphrase]
    rfl
  have hwithin (d : Date) : request.Asks today d.number ↔ IsWithin today w low high d := by
    rw [hasks, ← Date.weekday_eq]
    exact ⟨fun ⟨h, hlow, hhigh⟩ => ⟨h, hlow, hhigh⟩, fun ⟨h, hlow, hhigh⟩ => ⟨h, hlow, hhigh⟩⟩
  obtain ⟨n, hn⟩ := exists_asks_of_isWeekday hweekday today
  have hdate : InCalendar n → ∃ d, IsWithin today w low high d := by
    intro hin
    cases hd : Date.ofNumber? n with
    | none => exact absurd hin (Date.ofNumber?_eq_none_iff.mp hd)
    | some d => exact ⟨d, (hwithin d).mp (Date.ofNumber?_eq_some_iff.mp hd ▸ hn)⟩
  constructor
  case date_iff =>
    intro d
    rw [hresolve, resolve_eq_date_iff, hwithin]
  case unique =>
    rintro d d' ⟨hd, hlow, hhigh⟩ ⟨hd', hlow', hhigh'⟩
    rw [Date.weekday_eq, Weekday.ofNumber_eq_iff] at hd hd'
    exact Date.number_inj (by omega)
  case beyond_iff =>
    rw [hresolve]
    constructor
    · rintro hbeyond ⟨d, hd⟩
      rw [resolve_eq_date_iff.mpr ((hwithin d).mpr hd)] at hbeyond
      cases hbeyond
    · intro hnone
      exact resolve_eq_beyondCalendar_iff.mpr ⟨n, hn, hweekday, fun hin => hnone (hdate hin)⟩
  case exists_of_inCalendar =>
    intro hlow hhigh
    obtain ⟨-, hlow', hhigh'⟩ := (hasks n).mp hn
    exact hdate ⟨by have := hlow.1; omega, by have := hhigh.2; omega⟩

/-! ## Phrases -/

/-- What a phrase asks for depends on its words in lower case. -/
theorem ofPhrase?_eq (phrase : List Char) :
    ofPhrase? phrase = forms.apply ((words phrase).map lower) := by
  rw [ofPhrase?, words_lower, words_trim]

/-- What the name of a weekday asks for, alone and behind each of the three words. -/
theorem forms_apply_name {name : List Char} (h : name ∈ w.names) :
    forms.apply [name] = some (.on w) ∧ forms.apply ["this".toList, name] = some (.on w) ∧
      forms.apply ["next".toList, name] = some (.next w) ∧
      forms.apply ["last".toList, name] = some (.last w) := by
  have hname := Weekday.ofName?_eq_some_iff.mpr h
  refine ⟨?_, ?_, ?_, ?_⟩
  · simp only [Weekday.names, List.mem_cons, List.not_mem_nil, or_false] at h
    rcases h with rfl | rfl <;> cases w <;> rfl
  · exact congrArg (Option.map Request.on) hname
  · show ofName? .next 1 name = _
    rw [ofName?, hname]
  · show ofName? .last (-1) name = _
    rw [ofName?, hname]

end Request

/-- **A phrase with a weekday finds the nearest day that has it.** However its words are written and
whatever blanks are around them, a name alone or behind `this` finds the one date with that weekday
at most 6 days after today, behind `next` the one from 1 to 7 days after it, behind `last` the one
from 1 to 7 days before it. The distances are differences of places in the week that are never
below zero. -/
theorem nearest_weekday (today : Date) {w : Weekday} {name : List Char} (hname : name ∈ w.names)
    (phrase : List Char) :
    ((words phrase).map lower = [name] ∨ (words phrase).map lower = ["this".toList, name] →
      Finds today phrase w 0 6) ∧
    ((words phrase).map lower = ["next".toList, name] → Finds today phrase w 1 7) ∧
    ((words phrase).map lower = ["last".toList, name] → Finds today phrase w (-7) (-1)) ∧
    ∀ current target : Weekday, current.index ≤ 7 + target.index ∧ 7 + target.index < 2 ^ 32 ∧
      (daysAhead current target : Int) = (7 + target.index - current.index) % 7 ∧
      (daysBack current target : Int) = (7 + current.index - target.index) % 7 := by
  obtain ⟨halone, hthis, hnext, hlast⟩ := Request.forms_apply_name hname
  refine ⟨fun h => ?_, fun h => ?_, fun h => ?_, fun current target => ?_⟩
  · have hphrase : Request.ofPhrase? phrase = some (.on w) := by
      rw [Request.ofPhrase?_eq]
      rcases h with h | h
      · rw [h, halone]
      · rw [h, hthis]
    refine Request.finds hphrase rfl (fun n => and_congr_right fun _ => ?_) (by decide)
    omega
  · have hphrase : Request.ofPhrase? phrase = some (.next w) := by
      rw [Request.ofPhrase?_eq, h, hnext]
    refine Request.finds hphrase rfl (fun n => and_congr_right fun _ => ?_) (by decide)
    omega
  · have hphrase : Request.ofPhrase? phrase = some (.last w) := by
      rw [Request.ofPhrase?_eq, h, hlast]
    refine Request.finds hphrase rfl (fun n => and_congr_right fun _ => ?_) (by decide)
    omega
  · have hcurrent := current.index_lt
    have htarget := target.index_lt
    unfold daysAhead daysBack
    omega

/-- On a Friday: the day itself, the one a week later and the one a week before. -/
theorem nearest_weekday_friday :
    resolve ⟨2024, 3, 15, by decide⟩ "Friday".toList = .date ⟨2024, 3, 15, by decide⟩ ∧
      resolve ⟨2024, 3, 15, by decide⟩ " next  FRI".toList = .date ⟨2024, 3, 22, by decide⟩ ∧
      resolve ⟨2024, 3, 15, by decide⟩ "last fri ".toList = .date ⟨2024, 3, 8, by decide⟩ := by
  have hfull : "friday".toList ∈ Weekday.friday.names := by decide
  have hshort : "fri".toList ∈ Weekday.friday.names := by decide
  have htoday := (nearest_weekday ⟨2024, 3, 15, by decide⟩ hfull "Friday".toList).1 (.inl (by cbv))
  have hnext := (nearest_weekday ⟨2024, 3, 15, by decide⟩ hshort " next  FRI".toList).2.1 (by cbv)
  have hlast := (nearest_weekday ⟨2024, 3, 15, by decide⟩ hshort "last fri ".toList).2.2.1 (by cbv)
  exact ⟨(htoday.date_iff _).mpr ⟨by decide, by decide, by decide⟩,
    (hnext.date_iff _).mpr ⟨by decide, by decide, by decide⟩,
    (hlast.date_iff _).mpr ⟨by decide, by decide, by decide⟩⟩

end Stencil.Calendar
