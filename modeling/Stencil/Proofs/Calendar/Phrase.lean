import Stencil.Calendar.Phrase
import Stencil.Proofs.Calendar.Number

/-!
# What phrases ask for

A phrase asks for a day, and whether this is a date of the calendar is another matter. Amounts of
time and dates in figures give no date outside of the calendar; for weekdays nothing is done about
it there.

* `PhraseCases` are the forms of phrases. `resolveWords_eq`: what they are resolved to.
* `Request` is what a phrase asks for, `Request.Asks` says which day this is, in the calendar that
  goes on without end. It has no recourse to how the day is found.
* `Request.resolve_of_asks`: one request, in every lawful library. Days away are found by their
  numbers, and days of the week with `asksOn_iff` and its like.
* `resolve_exactly`: which phrases have a date, and which go beyond the calendar.
* `not_resolve_next_monday`: a weekday behind the last date.
-/

namespace Stencil.Calendar

/-! ## Weekdays -/

/-- No name of a weekday is read as figures. -/
theorem readFigures_ne_ok {name : List Char} {w : Weekday} (h : Weekday.ofName? name = some w)
    (figures : Int × Nat × Nat) : readFigures name ≠ .ok figures := by
  have hname := List.find?_some h
  simp only [Bool.or_eq_true, decide_eq_true_eq] at hname
  rcases hname with rfl | rfl <;> cases w <;> exact nofun

section Week

variable {t n : Int} {w : Weekday}

/-- Of seven days in a row one has a given weekday: forth from a day on. -/
theorem asksOn_iff : (Weekday.ofNumber n = w ∧ t ≤ n ∧ n < t + 7) ↔
    n = t + daysAhead (.ofNumber t) w := by
  have ht := Weekday.index_ofNumber t
  have hcurrent := (Weekday.ofNumber t).index_lt
  have hw := w.index_lt
  rw [Weekday.ofNumber_eq_iff, daysAhead]
  omega

/-- Forth from the next day on. -/
theorem asksNext_iff : (Weekday.ofNumber n = w ∧ t < n ∧ n ≤ t + 7) ↔
    n = t + if daysAhead (.ofNumber t) w = 0 then 7 else (daysAhead (.ofNumber t) w : Int) := by
  have ht := Weekday.index_ofNumber t
  have hcurrent := (Weekday.ofNumber t).index_lt
  have hw := w.index_lt
  rw [Weekday.ofNumber_eq_iff, daysAhead]
  split <;> omega

/-- Back from the day before on. -/
theorem asksLast_iff : (Weekday.ofNumber n = w ∧ t - 7 ≤ n ∧ n < t) ↔
    n = t + -(if daysBack (.ofNumber t) w = 0 then 7 else daysBack (.ofNumber t) w : Nat) := by
  have ht := Weekday.index_ofNumber t
  have hcurrent := (Weekday.ofNumber t).index_lt
  have hw := w.index_lt
  rw [Weekday.ofNumber_eq_iff, daysBack]
  split <;> omega

end Week

/-! ## Requests -/

/-- What a phrase asks for. -/
inductive Request where
  | figures (year : Int) (month day : Nat)
  | away (amount : Int) (unit : TimeUnit)
  | on (w : Weekday)
  | next (w : Weekday)
  | last (w : Weekday)

namespace Request

/-- Whether a day with a weekday is asked for. -/
def isWeekday : Request → Bool
  | .on _ | .next _ | .last _ => true
  | _ => false

/-- Whether the day with the number `n` is asked for: the one of the figures, one that is away, or
the nearest one with the weekday. -/
def Asks (today : Date) (n : Int) : Request → Prop
  | .figures year month day => IsDay year month day ∧ n = dayNumber year month day
  | .away amount .day => n = today.number + amount
  | .away amount .week => n = today.number + 7 * amount
  | .away amount .month => IsMonthsAfter today amount n
  | .away amount .year => IsMonthsAfter today (12 * amount) n
  | .on w => .ofNumber n = w ∧ today.number ≤ n ∧ n < today.number + 7
  | .next w => .ofNumber n = w ∧ today.number < n ∧ n ≤ today.number + 7
  | .last w => .ofNumber n = w ∧ today.number - 7 ≤ n ∧ n < today.number

/-- What a request is resolved to. -/
def resolve [DateLibrary] (today : Date) : Request → Resolved
  | .figures year month day => .ofOption (DateLibrary.ofParts? year month day)
  | .away amount unit => .ofOption (shift? today amount unit)
  | .on w => thisOn today w
  | .next w => nextOn today w
  | .last w => lastOn today w

/-- What the day with the number `n` is if it is asked for. -/
def found (request : Request) (n : Int) : Resolved :=
  (Date.ofNumber? n).elim (if request.isWeekday then .beyondCalendar else .unknown) .date

section Lawful

variable [DateLibrary] [LawfulDateLibrary] {today : Date} {n : Int} {request : Request}

/-- **The day that is asked for is found if it is a date.** -/
theorem resolve_of_asks (h : request.Asks today n) : request.resolve today = request.found n := by
  have haway {found : Option Date} (heq : found = Date.ofNumber? n) :
      Resolved.ofOption found = (Date.ofNumber? n).elim .unknown .date := by
    rw [heq]
    cases Date.ofNumber? n <;> rfl
  have hreach {days : Int} (heq : n = today.number + days) :
      reach today days = (Date.ofNumber? n).elim .beyondCalendar .date := by
    unfold reach
    rw [LawfulDateLibrary.addDays?_eq, ← heq]
    cases Date.ofNumber? n <;> rfl
  cases request with
  | figures year month day =>
    obtain ⟨hday, rfl⟩ := h
    refine haway ?_
    rw [LawfulDateLibrary.ofParts?_eq, Date.ofNumber?_dayNumber hday]
  | away amount unit =>
    cases unit with
    | day => exact haway ((LawfulDateLibrary.addDays?_eq _ _).trans (congrArg _ h.symm))
    | week => exact haway ((LawfulDateLibrary.addDays?_eq _ _).trans (congrArg _ h.symm))
    | month => exact haway (LawfulDateLibrary.addMonths?_eq h)
    | year => exact haway (LawfulDateLibrary.addMonths?_eq h)
  | on w =>
    rw [resolve, thisOn, LawfulDateLibrary.weekday_eq]
    exact hreach (asksOn_iff.mp h)
  | next w =>
    rw [resolve, nextOn, LawfulDateLibrary.weekday_eq]
    exact hreach (asksNext_iff.mp h)
  | last w =>
    rw [resolve, lastOn, LawfulDateLibrary.weekday_eq]
    exact hreach (asksLast_iff.mp h)

end Lawful

variable {today : Date} {n : Int} {request : Request}

/-- A request asks for a day, unless its figures make none. -/
theorem exists_asks (request : Request) (today : Date) : (∃ n, request.Asks today n) ∨
    ∃ year month day, request = .figures year month day ∧ ¬ IsDay year month day := by
  cases request with
  | figures year month day =>
    by_cases hday : IsDay year month day
    · exact .inl ⟨_, hday, rfl⟩
    · exact .inr ⟨year, month, day, rfl, hday⟩
  | away amount unit =>
    cases unit with
    | day => exact .inl ⟨_, rfl⟩
    | week => exact .inl ⟨_, rfl⟩
    | month =>
      obtain ⟨n, h, -⟩ := exists_isMonthsAfter today amount
      exact .inl ⟨n, h⟩
    | year =>
      obtain ⟨n, h, -⟩ := exists_isMonthsAfter today (12 * amount)
      exact .inl ⟨n, h⟩
  | on w => exact .inl ⟨_, asksOn_iff.mpr rfl⟩
  | next w => exact .inl ⟨_, asksNext_iff.mpr rfl⟩
  | last w => exact .inl ⟨_, asksLast_iff.mpr rfl⟩

/-- Figures that make no day are resolved to nothing. -/
theorem resolve_figures [DateLibrary] [LawfulDateLibrary] {year : Int} {month day : Nat}
    (h : ¬ IsDay year month day) :
    (figures year month day).resolve today = .unknown := by
  have hnone : Date.ofParts? year month day = none :=
    dif_neg fun hdate => h (isDate_iff.mp hdate).2.2
  rw [resolve, LawfulDateLibrary.ofParts?_eq, hnone]
  rfl

theorem found_eq_date_iff {d : Date} : request.found n = .date d ↔ d.number = n := by
  rw [← Date.ofNumber?_eq_some_iff, found]
  cases Date.ofNumber? n with
  | some e => simp
  | none => cases request.isWeekday <;> simp

theorem found_eq_beyondCalendar_iff :
    request.found n = .beyondCalendar ↔ request.isWeekday = true ∧ ¬ InCalendar n := by
  rw [← Date.ofNumber?_eq_none_iff, found]
  cases Date.ofNumber? n with
  | some e => simp
  | none => cases request.isWeekday <;> simp

/-- **A request has a date exactly if it asks for the day of the date.** -/
theorem resolve_eq_date_iff [DateLibrary] [LawfulDateLibrary] {d : Date} :
    request.resolve today = .date d ↔ request.Asks today d.number := by
  constructor
  · intro h
    obtain ⟨n, hasks⟩ | ⟨year, month, day, rfl, hday⟩ := exists_asks request today
    · rw [resolve_of_asks hasks, found_eq_date_iff] at h
      exact h ▸ hasks
    · rw [resolve_figures hday] at h
      cases h
  · intro hasks
    rw [resolve_of_asks hasks, found_eq_date_iff]

/-- It goes beyond the calendar exactly if it asks for a weekday that lies there. -/
theorem resolve_eq_beyondCalendar_iff [DateLibrary] [LawfulDateLibrary] :
    request.resolve today = .beyondCalendar ↔
      ∃ n, request.Asks today n ∧ request.isWeekday = true ∧ ¬ InCalendar n := by
  constructor
  · intro h
    obtain ⟨n, hasks⟩ | ⟨year, month, day, rfl, hday⟩ := exists_asks request today
    · rw [resolve_of_asks hasks, found_eq_beyondCalendar_iff] at h
      exact ⟨n, hasks, h⟩
    · rw [resolve_figures hday] at h
      cases h
  · rintro ⟨n, hasks, h⟩
    rw [resolve_of_asks hasks]
    exact found_eq_beyondCalendar_iff.mpr h

/-- A weekday that is asked for is at most seven days away. -/
theorem Asks.near (h : request.Asks today n) (hweekday : request.isWeekday = true) :
    today.number - 7 ≤ n ∧ n ≤ today.number + 7 := by
  cases request with
  | figures => cases hweekday
  | away => cases hweekday
  | on w =>
    obtain ⟨-, hlow, hhigh⟩ := h
    omega
  | next w =>
    obtain ⟨-, hlow, hhigh⟩ := h
    omega
  | last w =>
    obtain ⟨-, hlow, hhigh⟩ := h
    omega

end Request

/-! ## Phrases -/

/-- What is made of each form of a phrase. -/
@[ext]
structure PhraseCases (α : Type) where
  now : α
  tomorrow : α
  yesterday : α
  word : List Char → α
  onward : List Char → α
  next : List Char → α
  last : List Char → α
  ahead : List Char → List Char → α
  back : List Char → List Char → α
  other : α

namespace PhraseCases

variable {α β : Type}

/-- What is made of the words of a phrase. -/
def apply (cases : PhraseCases α) (words : List (List Char)) : α :=
  match words.map String.ofList, words with
  | ["today"], _ | ["now"], _ => cases.now
  | ["tomorrow"], _ => cases.tomorrow
  | ["yesterday"], _ => cases.yesterday
  | [_], [word] => cases.word word
  | ["this", _], [_, name] => cases.onward name
  | ["next", _], [_, name] => cases.next name
  | ["last", _], [_, name] => cases.last name
  | ["in", _, _], [_, amount, unit] => cases.ahead amount unit
  | [_, _, "ago"], [amount, unit, _] => cases.back amount unit
  | [_, _, "from", "now"], [amount, unit, _, _] => cases.ahead amount unit
  | _, _ => cases.other

/-- What a function makes of it. -/
def map (f : α → β) (cases : PhraseCases α) : PhraseCases β where
  now := f cases.now
  tomorrow := f cases.tomorrow
  yesterday := f cases.yesterday
  word word := f (cases.word word)
  onward name := f (cases.onward name)
  next name := f (cases.next name)
  last name := f (cases.last name)
  ahead amount unit := f (cases.ahead amount unit)
  back amount unit := f (cases.back amount unit)
  other := f cases.other

theorem apply_map (f : α → β) (cases : PhraseCases α) (words : List (List Char)) :
    (cases.map f).apply words = f (cases.apply words) := by
  unfold apply
  generalize words.map String.ofList = strings
  split <;> rfl

/-- What phrases are resolved to. -/
def resolved [DateLibrary] (today : Date) : PhraseCases Resolved where
  now := .date today
  tomorrow := .ofOption (DateLibrary.addDays? today 1)
  yesterday := .ofOption (DateLibrary.addDays? today (-1))
  word := resolveWord today
  onward name :=
    match Weekday.ofName? name with
    | some w => thisOn today w
    | none => .unknown
  next name :=
    match Weekday.ofName? name with
    | some w => nextOn today w
    | none => shiftBy today 1 name
  last name :=
    match Weekday.ofName? name with
    | some w => lastOn today w
    | none => shiftBy today (-1) name
  ahead amount unit :=
    match readAmount? amount with
    | some n => shiftBy today n unit
    | none => .unknown
  back amount unit :=
    match readAmount? amount with
    | some n => shiftBy today (-(n : Int)) unit
    | none => .unknown
  other := .unknown

theorem resolveWords_eq [DateLibrary] (today : Date) (words : List (List Char)) :
    resolveWords today words = (resolved today).apply words := by
  rfl

end PhraseCases

namespace Request

/-- What a single word asks for: figures or a weekday. -/
def ofWord? (word : List Char) : Option Request :=
  match readFigures word with
  | .ok (year, month, day) => some (.figures year month day)
  | .error _ => (Weekday.ofName? word).map .on

/-- What an amount of a unit asks for. -/
def ofAmount? (amount? : Option Int) (unit : List Char) : Option Request :=
  amount?.bind fun amount => (TimeUnit.ofName? unit).map (.away amount)

/-- What a name asks for: a weekday, or else an amount of a unit. -/
def ofName? (ofWeekday : Weekday → Request) (amount : Int) (name : List Char) : Option Request :=
  match Weekday.ofName? name with
  | some w => some (ofWeekday w)
  | none => ofAmount? (some amount) name

/-- What phrases ask for. -/
def forms : PhraseCases (Option Request) where
  now := some (.away 0 .day)
  tomorrow := some (.away 1 .day)
  yesterday := some (.away (-1) .day)
  word := ofWord?
  onward name := (Weekday.ofName? name).map .on
  next := ofName? .next 1
  last := ofName? .last (-1)
  ahead amount unit := ofAmount? ((readAmount? amount).map Int.ofNat) unit
  back amount unit := ofAmount? ((readAmount? amount).map fun n => -(n : Int)) unit
  other := none

/-- What a phrase asks for, if it asks for anything. -/
def ofPhrase? (phrase : List Char) : Option Request :=
  forms.apply (Text.words (Text.lower (Text.trim phrase)))

/-- What is resolved if anything is asked for. -/
def outcome [DateLibrary] (today : Date) (request? : Option Request) : Resolved :=
  (request?.map (resolve today)).getD .unknown

variable {today : Date}

theorem outcome_ofWord? [DateLibrary] [LawfulDateLibrary] (today : Date) (word : List Char) :
    outcome today (ofWord? word) = resolveWord today word := by
  unfold resolveWord ofWord?
  cases hfigures : readFigures word with
  | error fault =>
    cases hiso : DateLibrary.readIso? word with
    | some d => cases hfigures.symm.trans (LawfulDateLibrary.readIso?_eq_some_iff.mp hiso)
    | none =>
      dsimp only
      cases Weekday.ofName? word <;> rfl
  | ok figures =>
    obtain ⟨year, month, day⟩ := figures
    have hname : Weekday.ofName? word = none := by
      cases hname : Weekday.ofName? word with
      | none => rfl
      | some w => exact absurd hfigures (readFigures_ne_ok hname _)
    cases hiso : DateLibrary.readIso? word with
    | some d =>
      have hparts := LawfulDateLibrary.readIso?_eq_some_iff.mp hiso
      have hdate : DateLibrary.ofParts? year month day = some d :=
        LawfulDateLibrary.ofParts?_eq_some_iff.mpr (by simpa [hfigures, eq_comm] using hparts)
      show Resolved.ofOption (DateLibrary.ofParts? year month day) = _
      rw [hdate]
      rfl
    | none =>
      have hnone : DateLibrary.ofParts? year month day = none := by
        cases hdate : DateLibrary.ofParts? year month day with
        | none => rfl
        | some d =>
          obtain ⟨rfl, rfl, rfl⟩ := LawfulDateLibrary.ofParts?_eq_some_iff.mp hdate
          cases hiso.symm.trans (LawfulDateLibrary.readIso?_eq_some_iff.mpr hfigures)
      dsimp only
      rw [hname]
      show Resolved.ofOption (DateLibrary.ofParts? year month day) = _
      rw [hnone]
      rfl

theorem outcome_ofAmount? [DateLibrary] (today : Date) (amount? : Option Int) (unit : List Char) :
    outcome today (ofAmount? amount? unit) =
      match amount? with
      | some n => shiftBy today n unit
      | none => .unknown := by
  cases amount? with
  | none => rfl
  | some n =>
    unfold shiftBy ofAmount?
    rw [Option.bind_some]
    cases TimeUnit.ofName? unit <;> rfl

theorem outcome_ofName? [DateLibrary] (today : Date) (ofWeekday : Weekday → Request)
    (amount : Int) (name : List Char) : outcome today (ofName? ofWeekday amount name) =
      match Weekday.ofName? name with
      | some w => (ofWeekday w).resolve today
      | none => shiftBy today amount name := by
  unfold ofName?
  cases Weekday.ofName? name with
  | some w => rfl
  | none => exact outcome_ofAmount? today (some amount) name

/-- A phrase is resolved as what it asks for. -/
theorem resolve_eq [DateLibrary] [LawfulDateLibrary] (today : Date) (phrase : List Char) :
    Calendar.resolve today phrase = outcome today (ofPhrase? phrase) := by
  have hforms : PhraseCases.resolved today = forms.map (outcome today) := by
    have hnow : outcome today (some (.away 0 .day)) = .date today := by
      have hzero : DateLibrary.addDays? today 0 = some today :=
        LawfulDateLibrary.addDays?_eq_some_iff.mpr (Int.add_zero _).symm
      exact congrArg Resolved.ofOption hzero
    refine PhraseCases.ext hnow.symm rfl rfl ?_ ?_ ?_ ?_ ?_ ?_ rfl
    · funext word
      exact (outcome_ofWord? today word).symm
    · funext name
      show _ = outcome today ((Weekday.ofName? name).map .on)
      dsimp only [PhraseCases.resolved]
      cases Weekday.ofName? name <;> rfl
    · funext name
      exact (outcome_ofName? today .next 1 name).symm
    · funext name
      exact (outcome_ofName? today .last (-1) name).symm
    · funext amount unit
      refine .trans ?_ (outcome_ofAmount? today _ unit).symm
      dsimp only [PhraseCases.resolved]
      cases readAmount? amount <;> rfl
    · funext amount unit
      refine .trans ?_ (outcome_ofAmount? today _ unit).symm
      dsimp only [PhraseCases.resolved]
      cases readAmount? amount <;> rfl
  calc Calendar.resolve today phrase
    _ = (PhraseCases.resolved today).apply (Text.words (Text.lower (Text.trim phrase))) :=
      PhraseCases.resolveWords_eq today _
    _ = (forms.map (outcome today)).apply (Text.words (Text.lower (Text.trim phrase))) := by
      rw [hforms]
    _ = outcome today (ofPhrase? phrase) := PhraseCases.apply_map _ _ _

end Request

/-- **What phrases are resolved to.** A phrase has a date exactly if it asks for the day of the
date. It goes beyond the calendar exactly if it asks for a weekday and the day lies outside of it,
hence never if the calendar goes on for seven days to both sides. Whatever else it asks for outside
of the calendar is unknown. -/
theorem resolve_exactly (today : Date) (phrase : List Char) :
    (∀ d, resolve today phrase = .date d ↔
      ∃ request, Request.ofPhrase? phrase = some request ∧ request.Asks today d.number) ∧
    (resolve today phrase = .beyondCalendar ↔ ∃ request n, Request.ofPhrase? phrase = some request ∧
      request.Asks today n ∧ request.isWeekday = true ∧ ¬ InCalendar n) ∧
    (InCalendar (today.number - 7) → InCalendar (today.number + 7) →
      resolve today phrase ≠ .beyondCalendar) ∧
    ∀ request n, Request.ofPhrase? phrase = some request → request.Asks today n →
      request.isWeekday = false → ¬ InCalendar n → resolve today phrase = .unknown := by
  rw [Request.resolve_eq]
  cases Request.ofPhrase? phrase with
  | none => exact ⟨fun d => ⟨nofun, nofun⟩, ⟨nofun, nofun⟩, nofun, nofun⟩
  | some request =>
    rw [show Request.outcome today (some request) = request.resolve today from rfl]
    refine ⟨fun d => ?_, ?_, fun hlow hhigh hbeyond => ?_, ?_⟩
    · rw [Request.resolve_eq_date_iff]
      exact ⟨fun h => ⟨request, rfl, h⟩, fun ⟨_, heq, h⟩ => Option.some.inj heq ▸ h⟩
    · rw [Request.resolve_eq_beyondCalendar_iff]
      exact ⟨fun ⟨n, h⟩ => ⟨request, n, rfl, h⟩, fun ⟨_, n, heq, h⟩ =>
        ⟨n, Option.some.inj heq ▸ h⟩⟩
    · obtain ⟨n, hasks, hweekday, hnot⟩ := Request.resolve_eq_beyondCalendar_iff.mp hbeyond
      obtain ⟨hfirst, hlast⟩ := hasks.near hweekday
      exact hnot ⟨hlow.1.trans hfirst, hlast.trans hhigh.2⟩
    · rintro _ n ⟨⟩ hasks hweekday hnot
      rw [Request.resolve_of_asks hasks, Request.found, Date.ofNumber?_eq_none_iff.mpr hnot,
        hweekday]
      rfl

/-- A month after the last day of January. -/
theorem resolve_exactly_next_month :
    resolve ⟨2024, 1, 31, by decide⟩ "Next month".toList = .date ⟨2024, 2, 29, by decide⟩ ∧
      ∀ phrase, resolve ⟨2024, 1, 31, by decide⟩ phrase ≠ .beyondCalendar := by
  have hrequest : Request.ofPhrase? "Next month".toList = some (.away 1 .month) := by
    rfl
  have hmonth : IsMonthsAfter ⟨2024, 1, 31, by decide⟩ 1 738945 :=
    ⟨2024, 2, by decide, by decide, by decide, by decide⟩
  refine ⟨((resolve_exactly _ _).1 _).mpr ⟨_, hrequest, hmonth⟩, fun phrase => ?_⟩
  exact (resolve_exactly _ phrase).2.2.1 (by decide) (by decide)

/-- A weekday behind the last date lies beyond the calendar. -/
theorem not_resolve_next_monday :
    ¬ ∀ (today : Date) (phrase : List Char), resolve today phrase ≠ .beyondCalendar := by
  intro h
  have hrequest : Request.ofPhrase? "next monday".toList = some (.next .monday) := by
    rfl
  obtain ⟨n, hasks⟩ : ∃ n, (Request.next .monday).Asks Date.last n := ⟨_, asksNext_iff.mpr rfl⟩
  have hbehind : ¬ InCalendar n := fun hin => absurd hin.2 (Int.not_le.mpr hasks.2.1)
  have hbeyond : (Request.next .monday).resolve Date.last = .beyondCalendar :=
    Request.resolve_eq_beyondCalendar_iff.mpr ⟨n, hasks, rfl, hbehind⟩
  have heq := Request.resolve_eq Date.last "next monday".toList
  exact h _ _ (heq.trans ((congrArg (Request.outcome Date.last) hrequest).trans hbeyond))

end Stencil.Calendar
