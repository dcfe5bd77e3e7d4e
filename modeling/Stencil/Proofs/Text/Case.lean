import Stencil.Proofs.Text.Trim
import Stencil.Text.Case

/-!
# Lower case word by word

The lower case of a character depends on the word it stands in, but not on the rest of the text.

* `of_ascii`: a property of ASCII characters is checked on their codes.
* `lower_of_ascii`: a text of ASCII characters is put in lower case letter by letter.
* `lower_append_cons`: a text is put in lower case before and behind a blank on its own.
* `isBlank_of_mem_lowerAfter`: no blank comes from another character.
* `words_lower`: the words of the lower case are the lower cases of the words.
-/

namespace Stencil.Text

variable {c d : Char} {cs before after context : List Char}

/-! ## ASCII -/

/-- What holds of the first 128 characters holds of every character in ASCII. -/
theorem of_ascii {P : Char → Prop} (h : c.toNat < 128) (hall : ∀ n < 128, P (Char.ofNat n)) :
    P c := by
  have hc := hall c.toNat h
  rwa [Char.ofNat_toNat] at hc

theorem lowerAfter_of_ascii (h : ∀ c ∈ cs, c.toNat < 128) (context : List Char) :
    lowerAfter context cs = cs.map Char.toLower := by
  induction cs generalizing context with
  | nil => rfl
  | cons c cs ih =>
    obtain ⟨hc, hcs⟩ := List.forall_mem_cons.mp h
    have hsigma : c.toNat ≠ 0x3A3 := by omega
    rw [lowerAfter, ih hcs]
    simp only [hsigma, if_false, lowerChar, hc, if_true]
    rfl

theorem lower_of_ascii (h : ∀ c ∈ cs, c.toNat < 128) : lower cs = cs.map Char.toLower :=
  lowerAfter_of_ascii h []

/-! ## Words do not touch -/

theorem lowerChar_of_isBlank (h : isBlank c = true) : lowerChar c = [c] :=
  of_isBlank (P := fun c => lowerChar c = [c]) h (by decide +kernel)

/-- What stands behind a blank is out of sight. -/
theorem meetsCased_append_cons (h : isBlank c = true) (before after : List Char) :
    meetsCased (before ++ c :: after) = meetsCased before := by
  have hclasses : inRanges caseIgnorableRanges c.toNat = false ∧
      inRanges casedRanges c.toNat = false :=
    of_isBlank (P := fun c => inRanges caseIgnorableRanges c.toNat = false ∧
      inRanges casedRanges c.toNat = false) h (by decide +kernel)
  unfold meetsCased
  induction before with
  | nil =>
    rw [List.nil_append, List.dropWhile_cons_of_neg (by rw [hclasses.1]; decide)]
    exact hclasses.2
  | cons d before ih =>
    by_cases hd : inRanges caseIgnorableRanges d.toNat = true
    · simp only [List.cons_append, List.dropWhile_cons, hd, if_true]
      exact ih
    · simp only [List.cons_append, List.dropWhile_cons, hd, if_false, Bool.false_eq_true]

theorem lowerAfter_context (h : isBlank c = true) (context before cs : List Char) :
    lowerAfter (before ++ c :: context) cs = lowerAfter before cs := by
  induction cs generalizing before with
  | nil => rfl
  | cons d cs ih =>
    have hrest := ih (d :: before)
    rw [List.cons_append] at hrest
    rw [lowerAfter, lowerAfter, meetsCased_append_cons h, hrest]

theorem lowerAfter_append_cons (h : isBlank c = true) (context before after : List Char) :
    lowerAfter context (before ++ c :: after) = lowerAfter context before ++ c :: lower after := by
  have hsigma : c.toNat ≠ 0x3A3 :=
    of_isBlank (P := fun c => c.toNat ≠ 0x3A3) h (by decide +kernel)
  induction before generalizing context with
  | nil =>
    have hafter : lowerAfter (c :: context) after = lower after :=
      lowerAfter_context h context [] after
    have hnil : lowerAfter context [] = [] := rfl
    rw [List.nil_append, hnil, lowerAfter]
    simp only [hsigma, if_false, lowerChar_of_isBlank h, hafter]
    rfl
  | cons d before ih =>
    rw [List.cons_append, lowerAfter, lowerAfter, meetsCased_append_cons h, ih]
    exact (List.append_assoc _ _ _).symm

/-- **A text is put in lower case before and behind a blank on its own.** -/
theorem lower_append_cons (h : isBlank c = true) (before after : List Char) :
    lower (before ++ c :: after) = lower before ++ c :: lower after :=
  lowerAfter_append_cons h [] before after

/-! ## Words stay words -/

theorem toNat_ofNat_eq_or (n : Nat) : (Char.ofNat n).toNat = n ∨ (Char.ofNat n).toNat = 0 := by
  by_cases h : n.isValidChar
  · left
    rw [Char.ofNat, dif_pos h]
    rfl
  · right
    rw [Char.ofNat, dif_neg h]
    rfl

/-- The code points of the lower cases are no blanks. -/
theorem isBlank_shiftByRuns {n m : Nat} (h : shiftByRuns lowerRuns n = some m) :
    isBlank (Char.ofNat m) = false := by
  -- Every run, once shifted, ends before a range of blanks or begins behind it.
  have hapart : ∀ run ∈ lowerRuns, ∀ r ∈ blankRanges,
      (run.2.1 : Int) + run.2.2.2 < r.1 ∨ (r.2 : Int) < run.1 + run.2.2.2 := by decide +kernel
  obtain ⟨⟨first, last, step, shift⟩, hrun, rfl⟩ := Option.map_eq_some_iff.mp h
  have hbounds := List.find?_some hrun
  simp only [Bool.and_eq_true, decide_eq_true_eq] at hbounds
  refine Bool.eq_false_iff.mpr fun hblank => ?_
  obtain ⟨r, hr, hlow, hhigh⟩ := inRanges_iff.mp hblank
  have hpos : ∀ r ∈ blankRanges, 0 < r.1 := by decide
  have hrpos := hpos r hr
  obtain hn | hzero := toNat_ofNat_eq_or ((n : Int) + shift).toNat
  · rw [hn] at hlow hhigh
    obtain hless | hless := hapart _ (List.mem_of_find?_eq_some hrun) r hr
    all_goals
      dsimp only at hless
      omega
  · rw [hzero] at hlow
    omega

theorem isBlank_of_mem_lowerChar (hd : d ∈ lowerChar c) (hblank : isBlank d = true) :
    isBlank c = true := by
  unfold lowerChar at hd
  split at hd
  · next hascii =>
    have hc : isBlank c.toLower = true → isBlank c = true :=
      of_ascii (P := fun c => isBlank c.toLower = true → isBlank c = true) hascii
        (by decide +kernel)
    exact hc (List.mem_singleton.mp hd ▸ hblank)
  · split at hd
    · have hdot : ∀ d ∈ ['i', Char.ofNat 0x307], isBlank d = false :=
        List.forall_mem_cons.mpr ⟨by decide, List.forall_mem_singleton.mpr (by decide)⟩
      rw [hdot d hd] at hblank
      cases hblank
    · obtain rfl := List.mem_singleton.mp hd
      cases hshift : shiftByRuns lowerRuns c.toNat with
      | none =>
        rw [hshift] at hblank
        exact hblank
      | some m =>
        rw [hshift, Option.map_some, Option.getD_some, isBlank_shiftByRuns hshift] at hblank
        cases hblank

/-- No blank comes from another character. -/
theorem isBlank_of_mem_lowerAfter (hd : d ∈ lowerAfter context cs) (hblank : isBlank d = true) :
    ∃ c ∈ cs, isBlank c = true := by
  induction cs generalizing context with
  | nil => cases hd
  | cons c cs ih =>
    rw [lowerAfter] at hd
    obtain hd | hd := List.mem_append.mp hd
    · split at hd
      · have hsigma : ∀ final : Bool,
            isBlank (Char.ofNat (if final = true then 0x3C2 else 0x3C3)) = false := by decide
        rw [List.mem_singleton.mp hd, hsigma] at hblank
        cases hblank
      · exact ⟨c, List.mem_cons_self, isBlank_of_mem_lowerChar hd hblank⟩
    · obtain ⟨e, he, heblank⟩ := ih hd
      exact ⟨e, List.mem_cons_of_mem c he, heblank⟩

theorem lowerChar_ne_nil (c : Char) : lowerChar c ≠ [] := by
  unfold lowerChar
  split
  · exact List.cons_ne_nil _ _
  · split <;> exact List.cons_ne_nil _ _

theorem lowerAfter_eq_nil_iff : lowerAfter context cs = [] ↔ cs = [] := by
  cases cs with
  | nil => simp [lowerAfter]
  | cons c cs =>
    rw [lowerAfter]
    split <;> simp [lowerChar_ne_nil c]

@[simp]
theorem lower_eq_nil_iff : lower cs = [] ↔ cs = [] := lowerAfter_eq_nil_iff

/-- A text without blanks is one word, or none if it is empty. -/
theorem words_of_no_blank (h : ∀ c ∈ cs, isBlank c = false) :
    words cs = if cs = [] then [] else [cs] := by
  rw [words, splitWhere_eq_singleton h]
  cases cs <;> rfl

/-- **The words of the lower case are the lower cases of the words.** -/
theorem words_lower (cs : List Char) : words (lower cs) = (words cs).map lower := by
  -- A blank parts the text into two shorter ones; without blanks it is one word.
  by_cases h : ∃ c ∈ cs, isBlank c = true
  · obtain ⟨c, hc, hblank⟩ := h
    obtain ⟨before, after, heq⟩ := List.append_of_mem hc
    have hlength : before.length + (after.length + 1) = cs.length := by
      rw [heq, List.length_append, List.length_cons]
    rw [heq, lower_append_cons hblank, words_append_cons hblank, words_append_cons hblank,
      words_lower before, words_lower after, List.map_append]
  · have hno : ∀ c ∈ cs, isBlank c = false := fun c hc =>
      Bool.eq_false_iff.mpr fun hblank => h ⟨c, hc, hblank⟩
    have hlower : ∀ d ∈ lower cs, isBlank d = false := fun d hd =>
      Bool.eq_false_iff.mpr fun hblank => h (isBlank_of_mem_lowerAfter hd hblank)
    rw [words_of_no_blank hno, words_of_no_blank hlower]
    by_cases hnil : cs = [] <;> simp [hnil]
termination_by cs.length

end Stencil.Text
