import Mathlib.Data.List.DropRight
import Stencil.Text.Blank
import Stencil.Text.Letter

/-!
# Blanks, trimmed texts and words

* `isBlank_of_isDigit`: no digit is blank.
* `of_isBlank`: a property of blanks is checked on the table of them. `isWordChar_of_isBlank`: no
  blank is a letter or numeric.
* `trim_trim`: trimming is done after one time.
* `trim_of_head_getLast`: a text without blanks at its ends is trimmed; `trim_eq_self_iff`: no other
  text is.
* `trim_eq_nil_iff`: nothing is left exactly of a blank text.
* `trim_blank_append` and `trim_append_blank`: blanks around a text do not count.
* `splitWhere_eq`: the pieces of a text are those of `List.splitOnP`; `splitWhere_append_cons` and
  `splitWhere_eq_singleton` cut a text by one separator, or not at all.
* `mem_of_mem_splitWhere`: a piece has no characters of its own.
* `words_trim`: trimming a text leaves its words.
-/

namespace Stencil.Text

/-- No blank is a digit. -/
theorem isBlank_of_isDigit {c : Char} (h : c.isDigit = true) : isBlank c = false := by
  obtain ⟨hlow, hhigh⟩ := Bool.and_eq_true_iff.mp h
  have hlow : 48 ≤ c.toNat := UInt32.le_iff_toNat_le.mp (of_decide_eq_true hlow)
  have hhigh : c.toNat ≤ 57 := UInt32.le_iff_toNat_le.mp (of_decide_eq_true hhigh)
  unfold isBlank
  refine Bool.eq_false_iff.mpr fun hblank => ?_
  obtain ⟨r, hr, hbounds⟩ := inRanges_iff.mp hblank
  simp only [blankRanges, List.mem_cons, List.not_mem_nil, or_false] at hr
  rcases hr with rfl | rfl | rfl | rfl | rfl | rfl | rfl | rfl | rfl | rfl <;>
    (dsimp only at hbounds; omega)

/-- What holds of the characters in the table holds of every blank. -/
theorem of_isBlank {P : Char → Prop} {c : Char} (h : isBlank c = true)
    (hall : ∀ r ∈ blankRanges, ∀ n ∈ List.range' r.1 (r.2 + 1 - r.1), P (Char.ofNat n)) : P c := by
  obtain ⟨r, hr, hlow, hhigh⟩ := inRanges_iff.mp h
  have hc := hall r hr c.toNat (List.mem_range'_1.mpr ⟨hlow, by omega⟩)
  rwa [Char.ofNat_toNat] at hc

/-- No blank is a letter or numeric. -/
theorem isWordChar_of_isBlank {c : Char} (h : isBlank c = true) : isWordChar c = false :=
  of_isBlank (P := fun c => isWordChar c = false) h (by decide +kernel)

theorem trimEnd_eq_rdropWhile (cs : List Char) : trimEnd cs = cs.rdropWhile isBlank := rfl

theorem trimEnd_trimEnd (cs : List Char) : trimEnd (trimEnd cs) = trimEnd cs :=
  List.rdropWhile_idempotent isBlank cs

/-- A text that does not begin with a blank still does not when its end is trimmed. -/
theorem trimStart_trimEnd_trimStart (cs : List Char) :
    trimStart (trimEnd (trimStart cs)) = trimEnd (trimStart cs) := by
  obtain ⟨rest, hrest⟩ := List.rdropWhile_prefix isBlank (trimStart cs)
  have hhead := List.head?_dropWhile_not isBlank cs
  rw [trimEnd_eq_rdropWhile]
  cases hfirst : (trimStart cs).rdropWhile isBlank with
  | nil => rfl
  | cons c ds =>
    have hstart : cs.dropWhile isBlank = c :: (ds ++ rest) := by
      rw [← List.cons_append, ← hfirst]
      exact hrest.symm
    rw [hstart] at hhead
    exact List.dropWhile_cons_of_neg (by simpa using hhead)

@[simp]
theorem trim_trim (cs : List Char) : trim (trim cs) = trim cs := by
  rw [trim, trim, trimStart_trimEnd_trimStart, trimEnd_trimEnd]

theorem dropWhile_isBlank {cs : List Char} (h : ∀ c ∈ cs.head?, isBlank c = false) :
    cs.dropWhile isBlank = cs := by
  cases cs with
  | nil => rfl
  | cons c cs =>
    refine List.dropWhile_cons_of_neg ?_
    rw [h c rfl]
    exact Bool.false_ne_true

/-- Nothing is trimmed off a text with no blank at its ends. -/
theorem trim_of_head_getLast {cs : List Char} (hhead : ∀ c ∈ cs.head?, isBlank c = false)
    (hlast : ∀ c ∈ cs.getLast?, isBlank c = false) : trim cs = cs := by
  have hstart : trimStart cs = cs := dropWhile_isBlank hhead
  have hend : cs.reverse.dropWhile isBlank = cs.reverse :=
    dropWhile_isBlank (by rwa [List.head?_reverse])
  rw [trim, hstart, trimEnd, hend, List.reverse_reverse]

/-- A text is trimmed exactly if it has no blank at its ends. -/
theorem trim_eq_self_iff {cs : List Char} : trim cs = cs ↔
    (∀ c ∈ cs.head?, isBlank c = false) ∧ ∀ c ∈ cs.getLast?, isBlank c = false := by
  refine ⟨fun h => ?_, fun h => trim_of_head_getLast h.1 h.2⟩
  have hstart : cs.dropWhile isBlank = cs := by
    have hagain := trimStart_trimEnd_trimStart cs
    rwa [← trim, h] at hagain
  have hend : cs.reverse.dropWhile isBlank = cs.reverse := by
    have hagain := trimEnd_trimEnd (trimStart cs)
    rw [← trim, h] at hagain
    exact List.reverse_eq_iff.mp hagain
  refine ⟨fun c hc => ?_, fun c hc => ?_⟩
  · have hhead := List.head?_dropWhile_not isBlank cs
    rw [hstart, Option.mem_def.mp hc] at hhead
    simpa using hhead
  · have hhead := List.head?_dropWhile_not isBlank cs.reverse
    rw [hend, List.head?_reverse, Option.mem_def.mp hc] at hhead
    simpa using hhead

theorem trim_of_no_blank {cs : List Char} (h : ∀ c ∈ cs, isBlank c = false) : trim cs = cs :=
  trim_of_head_getLast (fun c hc => h c (List.mem_of_mem_head? hc))
    fun c hc => h c (List.mem_of_mem_getLast? hc)

theorem trim_of_ends {c d : Char} (hc : isBlank c = false) (hd : isBlank d = false)
    (cs : List Char) : trim (c :: (cs ++ [d])) = c :: (cs ++ [d]) := by
  refine trim_of_head_getLast (fun e he => Option.some.inj he ▸ hc) fun e he => ?_
  rw [← List.cons_append, List.getLast?_concat] at he
  exact Option.some.inj he ▸ hd

theorem trim_eq_nil_iff {cs : List Char} : trim cs = [] ↔ allBlank cs = true := by
  rw [trim, trimEnd_eq_rdropWhile, List.rdropWhile_eq_nil_iff, allBlank, List.all_eq_true]
  constructor
  · intro h c hc
    rw [← List.takeWhile_append_dropWhile (p := isBlank) (l := cs)] at hc
    rcases List.mem_append.mp hc with hc | hc
    · exact List.all_eq_true.mp List.all_takeWhile c hc
    · exact h c hc
  · intro h c hc
    exact h c ((List.dropWhile_sublist isBlank).mem hc)

/-! ## Blanks around a text -/

section Ends

variable {blanks : List Char} {c : Char}

theorem trim_blank_append (h : ∀ c ∈ blanks, isBlank c = true) (cs : List Char) :
    trim (blanks ++ cs) = trim cs := by
  rw [trim, trimStart, List.dropWhile_append_of_pos h]
  rfl

/-- Only what follows a character that is not blank is trimmed at its end. -/
theorem trimEnd_append_cons (hc : isBlank c = false) (cs ds : List Char) :
    trimEnd (cs ++ c :: ds) = cs ++ c :: trimEnd ds := by
  have hkeep : ¬ isBlank c = true := by rw [hc]; exact Bool.false_ne_true
  simp only [trimEnd_eq_rdropWhile]
  induction ds using List.reverseRecOn with
  | nil => exact List.rdropWhile_concat_neg isBlank cs c hkeep
  | append_singleton ds d ih =>
    rw [← List.cons_append, ← List.append_assoc]
    by_cases hd : isBlank d = true
    · rw [List.rdropWhile_concat_pos _ _ _ hd, List.rdropWhile_concat_pos _ _ _ hd, ih]
    · rw [List.rdropWhile_concat_neg _ _ _ hd, List.rdropWhile_concat_neg _ _ _ hd,
        List.append_assoc]
      rfl

theorem trimEnd_append_blank (h : ∀ c ∈ blanks, isBlank c = true) (cs : List Char) :
    trimEnd (cs ++ blanks) = trimEnd cs := by
  rw [trimEnd, List.reverse_append,
    List.dropWhile_append_of_pos fun c hc => h c (List.mem_reverse.mp hc)]
  rfl

theorem trim_append_blank (h : ∀ c ∈ blanks, isBlank c = true) (cs : List Char) :
    trim (cs ++ blanks) = trim cs := by
  rw [trim, trim, trimStart, trimStart, List.dropWhile_append]
  split
  · next hnil =>
    rw [List.isEmpty_iff] at hnil
    rw [hnil, List.dropWhile_eq_nil_iff.mpr h]
  · exact trimEnd_append_blank h _

/-- What is trimmed off the end of a text stands behind the rest. -/
theorem trimEnd_append_takeWhile (cs : List Char) :
    trimEnd cs ++ (cs.reverse.takeWhile isBlank).reverse = cs := by
  rw [trimEnd, ← List.reverse_append, List.takeWhile_append_dropWhile, List.reverse_reverse]

theorem trim_trimEnd (cs : List Char) : trim (trimEnd cs) = trim cs := by
  have hblank : ∀ c ∈ (cs.reverse.takeWhile isBlank).reverse, isBlank c = true := fun c hc =>
    List.all_eq_true.mp List.all_takeWhile c (List.mem_reverse.mp hc)
  rw [← trim_append_blank hblank, trimEnd_append_takeWhile]

end Ends

/-! ## Pieces -/

section Pieces

variable {p : Char → Bool} {c : Char} {cs piece : List Char}

theorem splitWhere_eq (p : Char → Bool) (cs : List Char) : splitWhere p cs = cs.splitOnP p := by
  induction cs with
  | nil => rfl
  | cons c cs ih =>
    obtain ⟨first, rest, heq⟩ := List.exists_cons_of_ne_nil (List.splitOnP_ne_nil p cs)
    rw [splitWhere, List.splitOnP_cons_eq_if_modifyHead, ih, heq]
    rfl

/-- A text is split at each separator on its own. -/
theorem splitWhere_append_cons (hc : p c = true) (before after : List Char) :
    splitWhere p (before ++ c :: after) = splitWhere p before ++ splitWhere p after := by
  simp only [splitWhere_eq, List.splitOnP_append_cons before after hc]

theorem splitWhere_eq_singleton (h : ∀ c ∈ cs, p c = false) : splitWhere p cs = [cs] := by
  rw [splitWhere_eq, List.splitOnP_eq_singleton h]

/-- What is in a piece is in the text. -/
theorem mem_of_mem_splitWhere (hpiece : piece ∈ splitWhere p cs) (hc : c ∈ piece) : c ∈ cs := by
  induction cs generalizing piece with
  | nil => exact List.mem_singleton.mp hpiece ▸ hc
  | cons d cs ih =>
    rw [splitWhere] at hpiece
    split at hpiece
    · obtain rfl | hpiece := List.mem_cons.mp hpiece
      · cases hc
      · exact List.mem_cons_of_mem d (ih hpiece hc)
    · split at hpiece
      · next hnil => exact absurd hnil (by rw [splitWhere_eq]; exact List.splitOnP_ne_nil p cs)
      · next first rest heq =>
        rw [heq] at ih
        obtain rfl | hpiece := List.mem_cons.mp hpiece
        · obtain rfl | hc := List.mem_cons.mp hc
          · exact List.mem_cons_self
          · exact List.mem_cons_of_mem d (ih List.mem_cons_self hc)
        · exact List.mem_cons_of_mem d (ih (List.mem_cons_of_mem first hpiece) hc)

/-! ## Words -/

/-- The words before a blank and the words behind it. -/
theorem words_append_cons (hc : isBlank c = true) (before after : List Char) :
    words (before ++ c :: after) = words before ++ words after := by
  rw [words, splitWhere_append_cons hc, List.filter_append]
  rfl

theorem words_blank_append {blanks : List Char} (h : ∀ c ∈ blanks, isBlank c = true)
    (cs : List Char) : words (blanks ++ cs) = words cs := by
  induction blanks with
  | nil => rfl
  | cons c blanks ih =>
    have hfirst := words_append_cons (h c List.mem_cons_self) [] (blanks ++ cs)
    rw [List.cons_append]
    exact hfirst.trans (ih fun d hd => h d (List.mem_cons_of_mem c hd))

theorem words_append_blank {blanks : List Char} (h : ∀ c ∈ blanks, isBlank c = true)
    (cs : List Char) : words (cs ++ blanks) = words cs := by
  cases blanks with
  | nil => rw [List.append_nil]
  | cons c blanks =>
    have hblanks := words_blank_append (fun d hd => h d (List.mem_cons_of_mem c hd)) []
    rw [List.append_nil] at hblanks
    rw [words_append_cons (h c List.mem_cons_self), hblanks]
    exact List.append_nil _

/-- A text has blanks around the trimmed one. -/
theorem exists_eq_trim (cs : List Char) : ∃ before after, cs = before ++ (trim cs ++ after) ∧
    (∀ c ∈ before, isBlank c = true) ∧ ∀ c ∈ after, isBlank c = true := by
  refine ⟨cs.takeWhile isBlank, ((trimStart cs).reverse.takeWhile isBlank).reverse, ?_, ?_, ?_⟩
  · rw [trim, trimEnd_append_takeWhile]
    exact List.takeWhile_append_dropWhile.symm
  · exact List.all_eq_true.mp List.all_takeWhile
  · intro c hc
    exact List.all_eq_true.mp List.all_takeWhile c (List.mem_reverse.mp hc)

/-- Trimming a text leaves its words. -/
theorem words_trim (cs : List Char) : words (trim cs) = words cs := by
  obtain ⟨before, after, heq, hbefore, hafter⟩ := exists_eq_trim cs
  calc words (trim cs)
    _ = words (trim cs ++ after) := (words_append_blank hafter _).symm
    _ = words (before ++ (trim cs ++ after)) := (words_blank_append hbefore _).symm
    _ = words cs := by rw [← heq]

end Pieces

end Stencil.Text
