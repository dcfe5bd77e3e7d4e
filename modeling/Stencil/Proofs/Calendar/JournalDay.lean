import Stencil.Graph.Document
import Stencil.View.Page
import Stencil.Proofs.Calendar.Number

/-!
# Dates of journal pages

The journal day of a date is the sum `year * 10000 + month * 100 + day` as a signed number of 32
bits. Month and day can be told from it again unless the year is negative: then the sum is negative
too, and no negative number stands for a date.

* `Date.packs_of_year`: no step of the sum leaves the 32 bits in the years -214748 to 214748.
* `Date.ofJournalDay?_journalDay`: in these years the date is found again from the year 0 on.
* `ofJournalDay?_eq_some_iff`: a number of 32 bits stands for a date exactly if that date, of a year
  that is not negative, is written as the number. So there is one number at most for each date, and
  none whose figures are no month or no day (`journal_days_unambiguous`).
* `journal_page_keeps_day`: so a page named by a date has that date.

Of the `DateLibrary` no more is asked than that parts make a date exactly if they are those of one,
and, for pages, that the figures of a date are read.
-/

namespace Stencil

namespace Calendar

/-- Whether a number is one of the signed numbers of 32 bits. -/
def IsWord (n : Int) : Prop := -0x80000000 ≤ n ∧ n < 0x80000000

/-- No step of the sum that makes up the journal day leaves the signed numbers of 32 bits. -/
structure Date.Packs (d : Date) : Prop where
  year : IsWord (d.year * 10000)
  month : IsWord (d.month * 100)
  yearMonth : IsWord (d.year * 10000 + d.month * 100)
  sum : IsWord (d.year * 10000 + d.month * 100 + d.day)

variable {d : Date}

theorem Date.packs_of_year (hlow : -214748 ≤ d.year) (hhigh : d.year ≤ 214748) : d.Packs := by
  obtain ⟨hmonth, hmonth', hday, hday'⟩ := d.parts_le
  constructor <;> constructor <;> omega

theorem Date.Packs.journalDay_eq (h : d.Packs) :
    d.journalDay = d.year * 10000 + d.month * 100 + d.day := by
  obtain ⟨hlow, hhigh⟩ := h.sum
  exact Int.bmod_eq_of_le hlow hhigh

/-- **A date is found again from its journal day**, if its year is not negative; a negative year has
none. -/
theorem Date.Packs.ofJournalDay?_journalDay [DateLibrary] [LawfulDateLibrary] (h : d.Packs) :
    Date.ofJournalDay? d.journalDay = if 0 ≤ d.year then some d else none := by
  obtain ⟨hmonth, hmonth', hday, hday'⟩ := d.parts_le
  rw [h.journalDay_eq, Date.ofJournalDay?]
  by_cases hsign : 0 ≤ d.year
  · have hpos : 0 < d.year * 10000 + d.month * 100 + d.day := by omega
    have hyear : (d.year * 10000 + d.month * 100 + d.day) / 10000 = d.year := by omega
    have hmonth : ((d.year * 10000 + d.month * 100 + d.day) / 100 % 100).toNat = d.month := by omega
    have hday : ((d.year * 10000 + d.month * 100 + d.day) % 100).toNat = d.day := by omega
    rw [if_pos hpos, if_pos hsign, hyear, hmonth, hday,
      LawfulDateLibrary.ofParts?_eq_some_iff.mpr ⟨rfl, rfl, rfl⟩]
  · have hneg : ¬ 0 < d.year * 10000 + d.month * 100 + d.day := by omega
    rw [if_neg hneg, if_neg hsign]

/-! ## Numbers of 32 bits -/

variable {n : Int}

section Lawful

variable [DateLibrary]

theorem ofJournalDay?_of_pos (h : 0 < n) : Date.ofJournalDay? n =
    DateLibrary.ofParts? (n / 10000) (n / 100 % 100).toNat (n % 100).toNat := if_pos h

theorem pos_of_ofJournalDay? (h : Date.ofJournalDay? n = some d) : 0 < n := by
  by_contra hneg
  rw [Date.ofJournalDay?, if_neg hneg] at h
  cases h

variable [LawfulDateLibrary]

/-- The figures of a number that stands for a date make up the number. -/
theorem sum_of_ofJournalDay? (h : Date.ofJournalDay? n = some d) :
    0 ≤ d.year ∧ d.year * 10000 + d.month * 100 + d.day = n := by
  have hpos := pos_of_ofJournalDay? h
  rw [ofJournalDay?_of_pos hpos] at h
  obtain ⟨hyear, hmonth, hday⟩ := LawfulDateLibrary.ofParts?_eq_some_iff.mp h
  omega

/-- A number of 32 bits stands for a date exactly if it is the journal day of the date, which is
computed without leaving the 32 bits, and the year is not negative. -/
theorem ofJournalDay?_eq_some_iff (hn : IsWord n) :
    Date.ofJournalDay? n = some d ↔ 0 ≤ d.year ∧ d.Packs ∧ d.journalDay = n := by
  constructor
  · intro h
    obtain ⟨hsign, hsum⟩ := sum_of_ofJournalDay? h
    obtain ⟨hlow, hhigh⟩ := hn
    -- The bound on the number is one on the year.
    have hpacks : d.Packs := Date.packs_of_year (by omega) (by omega)
    exact ⟨hsign, hpacks, hpacks.journalDay_eq.trans hsum⟩
  · rintro ⟨hsign, hpacks, rfl⟩
    rw [hpacks.ofJournalDay?_journalDay, if_pos hsign]

/-- A number of 32 bits stands for a date exactly if it is positive and its figures are those of a
month and of a day in it. The year is always in the range. -/
theorem isSome_ofJournalDay?_iff (hn : IsWord n) : (Date.ofJournalDay? n).isSome ↔
    0 < n ∧ 1 ≤ n / 100 % 100 ∧ n / 100 % 100 ≤ 12 ∧ 1 ≤ n % 100 ∧
      n % 100 ≤ monthLength (n / 10000) (n / 100 % 100).toNat := by
  by_cases hpos : 0 < n
  · have hdate : (Date.ofJournalDay? n).isSome ↔
        IsDate (n / 10000) (n / 100 % 100).toNat (n % 100).toNat := by
      rw [ofJournalDay?_of_pos hpos, LawfulDateLibrary.ofParts?_eq, Date.ofParts?]
      split
      · next h => exact iff_of_true rfl h
      · next h => exact iff_of_false Bool.false_ne_true h
    obtain ⟨hlow, hhigh⟩ := hn
    rw [hdate, IsDate, firstYear, lastYear]
    omega
  · refine iff_of_false (fun h => ?_) fun h => hpos h.1
    obtain ⟨d, hd⟩ := Option.isSome_iff_exists.mp h
    exact hpos (pos_of_ofJournalDay? hd)

end Lawful

/-- **Journal days are not ambiguous.** A number of 32 bits stands for a date exactly if that date,
of a year that is not negative, is written as the number, and no step of that leaves the 32 bits. No
other number stands for the same date, and none stands for any whose figures are no month or no day
of it. -/
theorem journal_days_unambiguous (hn : IsWord n) :
    (∀ d, Date.ofJournalDay? n = some d ↔ 0 ≤ d.year ∧ d.Packs ∧ d.journalDay = n) ∧
      (∀ d m, IsWord m → Date.ofJournalDay? n = some d → Date.ofJournalDay? m = some d → m = n) ∧
      ((Date.ofJournalDay? n).isSome ↔
        0 < n ∧ 1 ≤ n / 100 % 100 ∧ n / 100 % 100 ≤ 12 ∧ 1 ≤ n % 100 ∧
          n % 100 ≤ monthLength (n / 10000) (n / 100 % 100).toNat) := by
  refine ⟨fun d => ofJournalDay?_eq_some_iff hn, fun d m hm hd hd' => ?_,
    isSome_ofJournalDay?_iff hn⟩
  obtain ⟨-, -, hday⟩ := (ofJournalDay?_eq_some_iff hn).mp hd
  obtain ⟨-, -, hday'⟩ := (ofJournalDay?_eq_some_iff hm).mp hd'
  exact hday'.symm.trans hday

/-- The leap day of the year 2024 is written as one number of 32 bits, and the number that would be
the leap day of 2023 stands for no date. -/
theorem journal_days_unambiguous_leap_day :
    (IsWord 20240229 ∧ IsWord 20230229) ∧
      Date.ofJournalDay? 20240229 = some ⟨2024, 2, 29, by decide⟩ ∧
      (∀ m, IsWord m → Date.ofJournalDay? m = some ⟨2024, 2, 29, by decide⟩ → m = 20240229) ∧
      ¬ (Date.ofJournalDay? 20230229).isSome := by
  have hleap : IsWord 20240229 := ⟨by decide, by decide⟩
  have hplain : IsWord 20230229 := ⟨by decide, by decide⟩
  have hdate : Date.ofJournalDay? 20240229 = some ⟨2024, 2, 29, by decide⟩ := by
    refine ((journal_days_unambiguous hleap).1 _).mpr ⟨by decide, ?_, by decide⟩
    exact Date.packs_of_year (by decide) (by decide)
  refine ⟨⟨hleap, hplain⟩, hdate, fun m hm hsame => ?_, fun hsome => ?_⟩
  · exact (journal_days_unambiguous hleap).2.1 _ m hm hdate hsame
  · obtain ⟨-, -, -, -, hday⟩ := (journal_days_unambiguous hplain).2.2.mp hsome
    exact absurd hday (by decide)

end Calendar

open Calendar

/-! ## Pages -/

namespace Graph

/-- A page is made from its draft, whatever its number. -/
theorem exists_pageOf_of_mem_numberPages [UuidSource] [DateLibrary] {tree : PageTree} :
    ∀ {raws : List DraftPage} {id : Int}, tree ∈ numberPages id raws →
      ∃ id raw, tree.page = pageOf id raw
  | raw :: raws, id, h => by
    obtain rfl | h := List.mem_cons.mp h
    · exact ⟨id, raw, rfl⟩
    · exact exists_pageOf_of_mem_numberPages h

/-- The journal day of a page is that of the date it is named by. -/
theorem journalDay_of_ofSource [MarkupReader] [UuidSource] [DateLibrary] [LawfulDateLibrary]
    {source : String} {file : Nat} {g : Graph} (h : Graph.ofSource source file = .ok g)
    {tree : PageTree} (htree : tree ∈ g) {d : Date} (hname : tree.page.title = d.iso) :
    tree.page.journalDay = some d.journalDay := by
  obtain ⟨raws, -, h⟩ := bind_eq_ok_iff.mp h
  obtain rfl := Except.ok.inj h
  obtain ⟨id, raw, hpage⟩ := exists_pageOf_of_mem_numberPages htree
  rw [hpage] at hname ⊢
  show (DateLibrary.readIso? raw.name.toList).map _ = _
  rw [show raw.name = d.iso from hname, LawfulDateLibrary.readIso?_iso, Option.map_some]

end Graph

/-- **Journal pages keep their date.** In the years -214748 to 214748 the journal day of a date is
computed without leaving the 32 bits, and both the journal day and the page of a graph that is named
by the date give the date back from the year 0 on. Before it they give none. -/
theorem journal_page_keeps_day [MarkupReader] [UuidSource] {d : Date} (hlow : -214748 ≤ d.year)
    (hhigh : d.year ≤ 214748) :
    d.Packs ∧ d.journalDay = d.year * 10000 + d.month * 100 + d.day ∧
      Date.ofJournalDay? d.journalDay = (if 0 ≤ d.year then some d else none) ∧
      ∀ (source : String) (file : Nat) (g : Graph), Graph.ofSource source file = .ok g →
        ∀ tree ∈ g, tree.page.title = d.iso →
          tree.page.journalDay = some (d.year * 10000 + d.month * 100 + d.day) ∧
            (PageView.ofPage tree.page).day = if 0 ≤ d.year then some d else none := by
  have hpacks : d.Packs := Date.packs_of_year hlow hhigh
  refine ⟨hpacks, hpacks.journalDay_eq, hpacks.ofJournalDay?_journalDay,
    fun source file g h tree htree hname => ?_⟩
  have hday : tree.page.journalDay = some d.journalDay :=
    Graph.journalDay_of_ofSource h htree hname
  refine ⟨by rw [hday, hpacks.journalDay_eq], ?_⟩
  show tree.page.journalDay.bind Date.ofJournalDay? = _
  rw [hday]
  exact hpacks.ofJournalDay?_journalDay

/-- A date of the year 2024. -/
def leapDay : Date := ⟨2024, 2, 29, by decide⟩

/-- A document with one page, the journal page of a date. -/
def leapDaySource : String := "# 2024-02-29\n\n- a note\n"

/-- The page of the document. -/
def leapDayPages : List Graph.DraftPage := [⟨"2024-02-29", .empty, [⟨"a note".toList, []⟩]⟩]

theorem ofSource_leapDaySource :
    Graph.ofSource leapDaySource 0 = .ok (Graph.numberPages 1 leapDayPages) := by cbv

/-- The journal page of a leap day has that day. -/
theorem journal_page_keeps_leap_day :
    (-214748 ≤ leapDay.year ∧ leapDay.year ≤ 214748) ∧ leapDay.journalDay = 20240229 ∧
      ∀ tree ∈ Graph.numberPages 1 leapDayPages,
        tree.page.journalDay = some 20240229 ∧ (PageView.ofPage tree.page).day = some leapDay := by
  have hkept := journal_page_keeps_day (d := leapDay) (by decide) (by decide)
  refine ⟨by decide, hkept.2.1, fun tree htree => ?_⟩
  have hname : tree.page.title = leapDay.iso := by
    rw [List.mem_singleton.mp htree]
    decide
  exact hkept.2.2.2 _ _ _ ofSource_leapDaySource tree htree hname

/-- The day of the Ides of March in the year 44 before the year 1. -/
def ides : Date := ⟨-43, 3, 15, by decide⟩

/-- A date before the year 0 is lost: the page that is named by it has no date. -/
theorem journal_page_before_year_zero :
    ¬ ∀ (d : Date) (source : String) (file : Nat) (g : Graph), Graph.ofSource source file = .ok g →
      ∀ tree ∈ g, tree.page.title = d.iso → (PageView.ofPage tree.page).day = some d := by
  intro h
  have hgraph : Graph.ofSource "# -0043-03-15\n" 0 =
      .ok (Graph.numberPages 1 [⟨"-0043-03-15", .empty, []⟩]) := by cbv
  have hkept := h ides _ _ _ hgraph _ List.mem_cons_self (by decide)
  exact absurd hkept (by decide)

end Stencil
