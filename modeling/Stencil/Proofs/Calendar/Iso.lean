import Stencil.Calendar.Iso
import Stencil.Proofs.Decimal.Numeral
import Stencil.Proofs.Result
import Stencil.Proofs.Text.Trim

/-!
# Dates in figures read back

A date is written with as many figures as it needs, and at least four and two of them, so that the
strict reader takes the very figures of each number.

* `readDigits_zeroPadded`: a number with zeros in front is read back.
* `readYear_yearText` and `readPart_zeroPadded` read the parts, whatever follows a hyphen.
* `readIso_iso`: so every date is read back.
* `readIso_eq_ok_iff`: what is read are the figures, and that these make a date.
-/

namespace Stencil.Calendar

open Decimal (digitsValue)

variable {width n : Nat} {rest : List Char}

/-! ## Numbers with zeros in front -/

theorem digitsValue_zeroPadded (width n : Nat) : digitsValue (zeroPadded width n) = n := by
  rw [zeroPadded, Decimal.digitsValue_zeros_append, Decimal.digitsValue_toDigits]

theorem isDigit_of_mem_zeroPadded {c : Char} (h : c ∈ zeroPadded width n) : c.isDigit = true :=
  (List.mem_append.mp h).elim Decimal.isDigit_of_mem_replicate Decimal.isDigit_of_mem_toDigits

theorem zeroPadded_ne_nil (width n : Nat) : zeroPadded width n ≠ [] := fun h =>
  Nat.toDigits_ne_nil (List.append_eq_nil_iff.mp h).2

/-- A number that fits its width takes no more. -/
theorem length_zeroPadded_le (hwidth : 0 < width) (h : n < 10 ^ width) :
    (zeroPadded width n).length ≤ width := by
  have hdigits : (Nat.toDigits 10 n).length ≤ width :=
    (Nat.length_toDigits_le_iff (by decide) hwidth).mpr h
  rw [zeroPadded, List.length_append, List.length_replicate]
  omega

/-- The first figure is neither a blank nor a sign. -/
theorem exists_cons_zeroPadded (width n : Nat) :
    ∃ c cs, zeroPadded width n = c :: cs ∧ c.isDigit = true := by
  obtain ⟨c, cs, h⟩ := List.exists_cons_of_ne_nil (zeroPadded_ne_nil width n)
  exact ⟨c, cs, h, isDigit_of_mem_zeroPadded (h ▸ List.mem_cons_self)⟩

theorem trimStart_zeroPadded_append (width n : Nat) (rest : List Char) :
    Text.trimStart (zeroPadded width n ++ rest) = zeroPadded width n ++ rest := by
  obtain ⟨c, cs, h, hc⟩ := exists_cons_zeroPadded width n
  rw [h, List.cons_append, Text.trimStart, List.dropWhile_cons_of_neg]
  rw [Text.isBlank_of_isDigit hc]
  decide

/-- **A number with zeros in front is read back** up to what is no digit, if it has no more figures
than are read. -/
theorem readDigits_zeroPadded {limit : Option Nat}
    (hlimit : ∀ l ∈ limit, (zeroPadded width n).length ≤ l) (hn : n < 0x8000000000000000)
    (hrest : ∀ c ∈ rest.head?, c.isDigit = false) :
    readDigits limit (zeroPadded width n ++ rest) = .ok (n, rest) := by
  have htake : (zeroPadded width n ++ rest).takeWhile Char.isDigit = zeroPadded width n :=
    (Decimal.scan_append (fun c => isDigit_of_mem_zeroPadded) rest hrest).1
  have hne : (zeroPadded width n).isEmpty = false :=
    List.isEmpty_eq_false_iff.mpr (zeroPadded_ne_nil width n)
  have hempty : (zeroPadded width n ++ rest).isEmpty = false :=
    List.isEmpty_eq_false_iff.mpr (List.append_ne_nil_of_left_ne_nil (zeroPadded_ne_nil width n) _)
  unfold readDigits
  cases limit with
  | none =>
    simp only [htake, hempty, hne, Bool.false_eq_true, if_false, digitsValue_zeroPadded, hn,
      if_true, List.drop_left]
  | some l =>
    simp only [htake, List.take_of_length_le (hlimit l rfl), hempty, hne, Bool.false_eq_true,
      if_false, digitsValue_zeroPadded, hn, if_true, List.drop_left]

/-! ## The parts of a date -/

/-- A number from 1 to `top` in two figures is read back. -/
theorem readPart_zeroPadded {top : Nat} (htop : top < 100) (hlow : 1 ≤ n) (hhigh : n ≤ top)
    (hrest : ∀ c ∈ rest.head?, c.isDigit = false) :
    readPart top (zeroPadded 2 n ++ rest) = .ok (n, rest) := by
  have hlength : (zeroPadded 2 n).length ≤ 2 := length_zeroPadded_le (by decide) (by omega)
  have hread : readDigits (some 2) (zeroPadded 2 n ++ rest) = .ok (n, rest) :=
    readDigits_zeroPadded (fun l hl => Option.some.inj hl ▸ hlength) (by omega) hrest
  rw [readPart, trimStart_zeroPadded_append, hread]
  exact if_pos ⟨hlow, hhigh⟩

/-- A year is read back: its sign says whether more than four figures are taken. -/
theorem readYear_yearText {year : Int} (hyear : year.natAbs < 0x8000000000000000)
    (hrest : ∀ c ∈ rest.head?, c.isDigit = false) :
    readYear (yearText year ++ rest) = .ok (year, rest) := by
  unfold yearText
  split
  · next h =>
    obtain ⟨n, rfl⟩ := Int.eq_ofNat_of_zero_le h.1
    have hlength : (zeroPadded 4 n).length ≤ 4 := length_zeroPadded_le (by decide) (by omega)
    have hread : readDigits (some 4) (zeroPadded 4 n ++ rest) = .ok (n, rest) :=
      readDigits_zeroPadded (fun l hl => Option.some.inj hl ▸ hlength) (by omega) hrest
    obtain ⟨c, cs, hcs, hc⟩ := exists_cons_zeroPadded 4 n
    rw [Int.toNat_natCast, readYear, trimStart_zeroPadded_append]
    rw [hcs, List.cons_append] at hread ⊢
    split
    · next heq => exact absurd hc ((List.cons.inj heq).1 ▸ by decide)
    · next heq => exact absurd hc ((List.cons.inj heq).1 ▸ by decide)
    · rw [hread]
      rfl
  · have hread : readDigits none (zeroPadded 4 year.natAbs ++ rest) = .ok (year.natAbs, rest) :=
      readDigits_zeroPadded nofun hyear hrest
    split
    all_goals
      show (readDigits none (zeroPadded 4 year.natAbs ++ rest)).map _ = _
      rw [hread]
      exact congrArg (fun y => Except.ok (y, rest)) (by omega)

/-! ## Dates -/

/-- The figures of a month and a day fit in two places each. -/
theorem Date.parts_le (d : Date) : 1 ≤ d.month ∧ d.month ≤ 12 ∧ 1 ≤ d.day ∧ d.day ≤ 31 := by
  obtain ⟨-, -, hmonth, hmonth', hday, hday'⟩ := d.valid
  refine ⟨hmonth, hmonth', hday, hday'.trans ?_⟩
  unfold monthLength
  split
  · split <;> decide
  all_goals decide

theorem Date.ofParts?_self (d : Date) : Date.ofParts? d.year d.month d.day = some d :=
  dif_pos d.valid

theorem Date.ofParts?_eq_some_iff {year : Int} {month day : Nat} {d : Date} :
    Date.ofParts? year month day = some d ↔ d.year = year ∧ d.month = month ∧ d.day = day := by
  unfold Date.ofParts?
  constructor
  · intro h
    split at h
    · obtain rfl := Option.some.inj h
      exact ⟨rfl, rfl, rfl⟩
    · cases h
  · rintro ⟨rfl, rfl, rfl⟩
    exact dif_pos d.valid

/-- **Every date is read back from its figures.** -/
theorem readIso_iso (d : Date) : Date.readIso d.iso.toList = .ok d := by
  obtain ⟨hmonth, hmonth', hday, hday'⟩ := d.parts_le
  obtain ⟨hfirst, hlast, -⟩ := d.valid
  unfold firstYear at hfirst
  unfold lastYear at hlast
  have hyear : readYear (yearText d.year ++ ('-' :: zeroPadded 2 d.month ++
      '-' :: zeroPadded 2 d.day)) = .ok (d.year, _) :=
    readYear_yearText (by omega) fun c hc => Option.some.inj hc ▸ rfl
  have hmonth : readPart 12 (zeroPadded 2 d.month ++ '-' :: zeroPadded 2 d.day) =
      .ok (d.month, '-' :: zeroPadded 2 d.day) :=
    readPart_zeroPadded (by decide) hmonth hmonth' fun c hc => Option.some.inj hc ▸ rfl
  have hday : readPart 31 (zeroPadded 2 d.day ++ []) = .ok (d.day, []) :=
    readPart_zeroPadded (by decide) hday hday' nofun
  rw [List.append_nil] at hday
  rw [Date.iso, String.toList_ofList, List.append_assoc, Date.readIso, readDate, hyear]
  show (if d.year < -0x80000000 ∨ 0x80000000 ≤ d.year then _ else _) = _
  rw [if_neg (by omega)]
  show (readPart 12 (zeroPadded 2 d.month ++ '-' :: zeroPadded 2 d.day) >>= _) = _
  rw [hmonth]
  show (readPart 31 (zeroPadded 2 d.day) >>= _) = _
  rw [hday]
  dsimp only [bind, Except.bind]
  rw [d.ofParts?_self]
  rfl

/-! ## Figures -/

/-- Reads year, month and day in figures, whether or not they make a date. -/
def readFigures (cs : List Char) : Except DateError (Int × Nat × Nat) := do
  let (year, cs) ← readYear cs
  let cs ← readHyphen cs
  let (month, cs) ← readPart 12 cs
  let cs ← readHyphen cs
  let (day, cs) ← readPart 31 cs
  if cs.isEmpty then .ok (year, month, day) else .error .tooLong

/-- The dates in figures are the figures that make a date. -/
theorem readIso_eq_ok_iff {cs : List Char} {d : Date} :
    Date.readIso cs = .ok d ↔ readFigures cs = .ok (d.year, d.month, d.day) := by
  constructor
  · intro h
    obtain ⟨⟨year, afterYear⟩, hyear, h⟩ := bind_eq_ok_iff.mp h
    dsimp only at h
    split at h
    · cases h
    obtain ⟨beforeMonth, hhyphen, h⟩ := bind_eq_ok_iff.mp h
    obtain ⟨⟨month, afterMonth⟩, hmonth, h⟩ := bind_eq_ok_iff.mp h
    obtain ⟨beforeDay, hhyphen', h⟩ := bind_eq_ok_iff.mp h
    obtain ⟨⟨day, rest⟩, hday, h⟩ := bind_eq_ok_iff.mp h
    dsimp only [id] at hhyphen hhyphen' h
    split at h
    · next hend =>
      split at h
      · next date hdate =>
        obtain rfl := Except.ok.inj h
        obtain ⟨rfl, rfl, rfl⟩ := Date.ofParts?_eq_some_iff.mp hdate
        simp only [readFigures, hyear, hhyphen, hmonth, hhyphen', hday, hend, bind, Except.bind,
          if_true]
      · cases h
    · cases h
  · intro h
    obtain ⟨⟨year, afterYear⟩, hyear, h⟩ := bind_eq_ok_iff.mp h
    obtain ⟨beforeMonth, hhyphen, h⟩ := bind_eq_ok_iff.mp h
    obtain ⟨⟨month, afterMonth⟩, hmonth, h⟩ := bind_eq_ok_iff.mp h
    obtain ⟨beforeDay, hhyphen', h⟩ := bind_eq_ok_iff.mp h
    obtain ⟨⟨day, rest⟩, hday, h⟩ := bind_eq_ok_iff.mp h
    dsimp only at hhyphen hmonth hhyphen' hday h
    split at h
    · next hend =>
      obtain ⟨rfl, hparts⟩ := Prod.mk.inj (Except.ok.inj h)
      obtain ⟨rfl, rfl⟩ := Prod.mk.inj hparts
      -- The years of the calendar fit 32 bits.
      have hfits : ¬ (d.year < -0x80000000 ∨ 0x80000000 ≤ d.year) := by
        obtain ⟨hfirst, hlast, -⟩ := d.valid
        unfold firstYear at hfirst
        unfold lastYear at hlast
        omega
      simp only [Date.readIso, readDate, hyear, hfits, hhyphen, hmonth, hhyphen', hday, hend,
        d.ofParts?_self, bind, Except.bind, id, if_true, if_false]
    · cases h

end Stencil.Calendar
