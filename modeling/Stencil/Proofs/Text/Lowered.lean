import Stencil.Proofs.Text.Case

/-!
# Texts in lower case

Lower case is final: what it gives it leaves as it is. It changes nothing about the blanks around a
text.

* `IsLowerCase`: the characters that lower case leaves as they are. `lower_of_isLowerCase` and
  `isLowerCase_of_mem_lower`: a text of them stays as it is, and every lower case is one.
* `exists_lowerAfter_cons`: all that a character becomes.
* `trim_lower_of_trim`: the lower case of a trimmed text is trimmed.
* `lower_eq_lower_trim_iff`: only a trimmed text has the lower case of its trimmed form.
-/

namespace Stencil.Text

variable {c d : Char} {cs context : List Char}

/-! ## Lower case is final -/

/-- Whether lower case leaves a character as it is. -/
def IsLowerCase (c : Char) : Prop := lowerChar c = [c] ∧ c.toNat ≠ 0x3A3

instance (c : Char) : Decidable (IsLowerCase c) := instDecidableAnd

theorem lowerAfter_of_isLowerCase (h : ∀ c ∈ cs, IsLowerCase c) (context : List Char) :
    lowerAfter context cs = cs := by
  induction cs generalizing context with
  | nil => rfl
  | cons c cs ih =>
    obtain ⟨hc, hcs⟩ := List.forall_mem_cons.mp h
    rw [lowerAfter, if_neg hc.2, hc.1, ih hcs]
    rfl

theorem lower_of_isLowerCase (h : ∀ c ∈ cs, IsLowerCase c) : lower cs = cs :=
  lowerAfter_of_isLowerCase h []

/-- Whether a run, once shifted, has nothing in common with another one: it ends before that one or
begins behind it, or lies between the code points of a run that takes every second one. -/
def isApart (run other : Nat × Nat × Nat × Int) : Bool :=
  let first := ((run.1 : Int) + run.2.2.2).toNat
  let last := ((run.2.1 : Int) + run.2.2.2).toNat
  last.blt other.1 || other.2.1.blt first ||
    (other.2.2.1.beq 2 && (run.2.2.1.beq 2 || run.1.beq run.2.1) &&
      !(first % 2).beq (other.1 % 2))

theorem isApart_of_mem {run other : Nat × Nat × Nat × Int} (hrun : run ∈ lowerRuns)
    (hother : other ∈ lowerRuns) : isApart run other = true := by
  have hall : (lowerRuns.all fun run => lowerRuns.all (isApart run)) = true := by decide +kernel
  exact List.all_eq_true.mp (List.all_eq_true.mp hall run hrun) other hother

/-- A code point that another one becomes stands in no run. -/
theorem shiftByRuns_eq_none {n m : Nat} (h : shiftByRuns lowerRuns n = some m) :
    shiftByRuns lowerRuns m = none := by
  have hpos : ∀ run ∈ lowerRuns, 0 ≤ (run.1 : Int) + run.2.2.2 := by decide +kernel
  obtain ⟨⟨first, last, step, shift⟩, hrun, hshift⟩ := Option.map_eq_some_iff.mp h
  have hmem := List.mem_of_find?_eq_some hrun
  have hfirst := hpos _ hmem
  have hbounds := List.find?_some hrun
  refine Option.map_eq_none_iff.mpr (List.find?_eq_none.mpr fun other hother hin => ?_)
  have hapart := isApart_of_mem hmem hother
  obtain ⟨first', last', step', shift'⟩ := other
  simp only [isApart, Nat.blt_eq, Nat.beq_eq, Bool.or_eq_true, Bool.and_eq_true,
    Bool.not_eq_true', decide_eq_true_eq, beq_iff_eq] at hapart hbounds hin hshift hfirst
  rcases hapart with (hbelow | habove) | ⟨⟨hstep', hstep⟩, hparity⟩
  · omega
  · omega
  · have hparity := Nat.ne_of_beq_eq_false hparity
    subst hstep'
    rcases hstep with rfl | rfl <;> omega

theorem isLowerCase_of_shiftByRuns (h : shiftByRuns lowerRuns c.toNat = none)
    (hdot : c.toNat ≠ 0x130) : IsLowerCase c := by
  have hsigma : c.toNat ≠ 0x3A3 := by
    intro heq
    rw [heq] at h
    exact absurd h (by decide +kernel)
  refine ⟨?_, hsigma⟩
  unfold lowerChar
  split
  · next hascii =>
    have hall : shiftByRuns lowerRuns c.toNat = none → c.toLower = c :=
      of_ascii (P := fun c => shiftByRuns lowerRuns c.toNat = none → c.toLower = c) hascii
        (by decide +kernel)
    rw [hall h]
  · rw [h]
    rfl

theorem isLowerCase_ofNat {n m : Nat} (h : shiftByRuns lowerRuns n = some m) :
    IsLowerCase (Char.ofNat m) := by
  have hnodot : ∀ run ∈ lowerRuns,
      (run.2.1 : Int) + run.2.2.2 < 0x130 ∨ 0x130 < (run.1 : Int) + run.2.2.2 := by decide +kernel
  have hdot : m ≠ 0x130 := by
    obtain ⟨⟨first, last, step, shift⟩, hrun, hshift⟩ := Option.map_eq_some_iff.mp h
    have hbounds := List.find?_some hrun
    have hapart := hnodot _ (List.mem_of_find?_eq_some hrun)
    simp only [Bool.and_eq_true, decide_eq_true_eq] at hbounds hapart hshift
    omega
  obtain hvalid | hzero := toNat_ofNat_eq_or m
  · exact isLowerCase_of_shiftByRuns (by rw [hvalid, shiftByRuns_eq_none h]) (by rwa [hvalid])
  · refine isLowerCase_of_shiftByRuns ?_ (by rw [hzero]; decide)
    rw [hzero]
    decide +kernel

theorem isLowerCase_of_mem_lowerChar (hd : d ∈ lowerChar c) : IsLowerCase d := by
  unfold lowerChar at hd
  split at hd
  · next hascii =>
    rw [List.mem_singleton.mp hd]
    exact of_ascii (P := fun c => IsLowerCase c.toLower) hascii (by decide +kernel)
  · split at hd
    · have hdotted : ∀ d ∈ ['i', Char.ofNat 0x307], IsLowerCase d :=
        List.forall_mem_cons.mpr ⟨isLowerCase_of_shiftByRuns (by decide +kernel) (by decide),
          List.forall_mem_singleton.mpr
            (isLowerCase_of_shiftByRuns (by decide +kernel) (by decide))⟩
      exact hdotted d hd
    · next hdot =>
      rw [List.mem_singleton.mp hd]
      cases hshift : shiftByRuns lowerRuns c.toNat with
      | none => exact isLowerCase_of_shiftByRuns hshift hdot
      | some m => exact isLowerCase_ofNat hshift

/-- All that a character becomes, whatever stands around it. -/
theorem exists_lowerAfter_cons (context : List Char) (c : Char) (cs : List Char) :
    ∃ image, lowerAfter context (c :: cs) = image ++ lowerAfter (c :: context) cs ∧ image ≠ [] ∧
      ∀ d ∈ image, IsLowerCase d ∧ (isBlank d = true → isBlank c = true) := by
  rw [lowerAfter]
  refine ⟨_, rfl, ?_, fun d hd => ?_⟩
  · split
    · exact List.cons_ne_nil _ _
    · exact lowerChar_ne_nil c
  · split at hd
    · have hsigma : ∀ final : Bool,
          IsLowerCase (Char.ofNat (if final = true then 0x3C2 else 0x3C3)) ∧
            isBlank (Char.ofNat (if final = true then 0x3C2 else 0x3C3)) = false := by
        decide +kernel
      obtain ⟨hlower, hblank⟩ := hsigma (meetsCased context && !meetsCased cs)
      rw [List.mem_singleton.mp hd, hblank]
      exact ⟨hlower, Bool.noConfusion⟩
    · exact ⟨isLowerCase_of_mem_lowerChar hd, isBlank_of_mem_lowerChar hd⟩

theorem isLowerCase_of_mem_lowerAfter (hd : d ∈ lowerAfter context cs) : IsLowerCase d := by
  induction cs generalizing context with
  | nil => cases hd
  | cons c cs ih =>
    obtain ⟨image, heq, -, himage⟩ := exists_lowerAfter_cons context c cs
    rw [heq] at hd
    obtain hd | hd := List.mem_append.mp hd
    · exact (himage d hd).1
    · exact ih hd

/-- **Lower case is final.** -/
theorem isLowerCase_of_mem_lower (hd : d ∈ lower cs) : IsLowerCase d :=
  isLowerCase_of_mem_lowerAfter hd

/-! ## Blanks around a text -/

theorem isBlank_of_head_lower (hd : d ∈ (lower cs).head?) (hblank : isBlank d = true) :
    ∃ c ∈ cs.head?, isBlank c = true := by
  cases cs with
  | nil => cases hd
  | cons c cs =>
    obtain ⟨image, heq, hne, himage⟩ := exists_lowerAfter_cons [] c cs
    rw [lower, heq, List.head?_append_of_ne_nil _ hne] at hd
    exact ⟨c, rfl, (himage d (List.mem_of_mem_head? hd)).2 hblank⟩

theorem isBlank_of_getLast_lowerAfter (hd : d ∈ (lowerAfter context cs).getLast?)
    (hblank : isBlank d = true) : ∃ c ∈ cs.getLast?, isBlank c = true := by
  induction cs generalizing context with
  | nil => cases hd
  | cons c cs ih =>
    obtain ⟨image, heq, hne, himage⟩ := exists_lowerAfter_cons context c cs
    rw [heq] at hd
    cases cs with
    | nil =>
      rw [lowerAfter, List.append_nil] at hd
      exact ⟨c, rfl, (himage d (List.mem_of_mem_getLast? hd)).2 hblank⟩
    | cons e cs =>
      rw [List.getLast?_append_of_ne_nil _ (by simp [lowerAfter_eq_nil_iff])] at hd
      obtain ⟨f, hf, hfblank⟩ := ih hd
      exact ⟨f, by rwa [List.getLast?_cons_cons], hfblank⟩

/-- The lower case of a trimmed text is trimmed. -/
theorem trim_lower_of_trim (h : trim cs = cs) : trim (lower cs) = lower cs := by
  obtain ⟨hhead, hlast⟩ := trim_eq_self_iff.mp h
  refine trim_of_head_getLast (fun d hd => ?_) fun d hd => ?_
  · refine Bool.eq_false_iff.mpr fun hblank => ?_
    obtain ⟨c, hc, hcblank⟩ := isBlank_of_head_lower hd hblank
    rw [hhead c hc] at hcblank
    cases hcblank
  · refine Bool.eq_false_iff.mpr fun hblank => ?_
    obtain ⟨c, hc, hcblank⟩ := isBlank_of_getLast_lowerAfter hd hblank
    rw [hlast c hc] at hcblank
    cases hcblank

theorem lower_blank_append {blanks : List Char} (h : ∀ c ∈ blanks, isBlank c = true)
    (cs : List Char) : lower (blanks ++ cs) = blanks ++ lower cs := by
  induction blanks with
  | nil => rfl
  | cons c blanks ih =>
    obtain ⟨hc, hblanks⟩ := List.forall_mem_cons.mp h
    have hfirst := lower_append_cons hc [] (blanks ++ cs)
    rw [ih hblanks] at hfirst
    exact hfirst

theorem lower_append_blank {blanks : List Char} (h : ∀ c ∈ blanks, isBlank c = true)
    (cs : List Char) : lower (cs ++ blanks) = lower cs ++ blanks := by
  cases blanks with
  | nil => rw [List.append_nil, List.append_nil]
  | cons c blanks =>
    obtain ⟨hc, hblanks⟩ := List.forall_mem_cons.mp h
    have hrest := lower_blank_append hblanks []
    rw [List.append_nil] at hrest
    rw [lower_append_cons hc, hrest]
    exact congrArg (lower cs ++ c :: ·) (List.append_nil blanks)

/-- Lower case keeps the blanks around a text, so it is that of the trimmed text only if there are
none. -/
theorem lower_eq_lower_trim_iff : lower cs = lower (trim cs) ↔ trim cs = cs := by
  refine ⟨fun h => ?_, fun h => by rw [h]⟩
  obtain ⟨before, after, heq, hbefore, hafter⟩ := exists_eq_trim cs
  have hlower : lower cs = before ++ (lower (trim cs) ++ after) := by
    rw [← lower_append_blank hafter, ← lower_blank_append hbefore, ← heq]
  have hlength := congrArg List.length (hlower.symm.trans h)
  simp only [List.length_append] at hlength
  obtain rfl : before = [] := List.length_eq_zero_iff.mp (by omega)
  obtain rfl : after = [] := List.length_eq_zero_iff.mp (by omega)
  rw [List.nil_append, List.append_nil] at heq
  exact heq.symm

end Stencil.Text
