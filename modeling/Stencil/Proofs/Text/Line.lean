import Stencil.Proofs.Text.Trim
import Stencil.Text.Line

/-!
# Lines of joined texts

* `joinWith_splitWhere` and `splitWhere_joinWith`: pieces without a separator are joined by it and
  split again.
* `lines_append_cons`: what stands before a line feed is a line. `lines_joinWith`: the lines of
  joined lines.
* `exists_lines_eq_concat`: a text that does not end in a blank is its lines joined.
* `visible`: what of a text is not blank.
* `trimEnd_append`: the end of a text is trimmed in its last part that is not blank.
* `exists_lines_trimEnd`: trimming a text leaves its first line, but for blanks at its end.
-/

namespace Stencil.Text

variable {s c : Char} {p : Char → Bool} {cs line piece before text more : List Char}
  {pieces : List (List Char)}

/-! ## Joined pieces -/

theorem joinWith_cons (sep piece : List Char) (h : pieces ≠ []) :
    joinWith sep (piece :: pieces) = piece ++ sep ++ joinWith sep pieces := by
  obtain ⟨next, rest, rfl⟩ := List.exists_cons_of_ne_nil h
  rfl

theorem joinWith_concat (sep : List Char) (h : pieces ≠ []) (last : List Char) :
    joinWith sep (pieces ++ [last]) = joinWith sep pieces ++ sep ++ last := by
  induction pieces with
  | nil => exact absurd rfl h
  | cons piece pieces ih =>
    by_cases hpieces : pieces = []
    · subst hpieces
      rfl
    · rw [List.cons_append, joinWith_cons sep piece (List.append_ne_nil_of_left_ne_nil hpieces _),
        joinWith_cons sep piece hpieces, ih hpieces]
      simp only [List.append_assoc]

/-- Joined pieces begin with the first one, with the separator behind it. -/
theorem exists_joinWith_cons (s : Char) (piece : List Char) (pieces : List (List Char)) :
    ∃ more, joinWith [s] (piece :: pieces) = piece ++ more ∧ ∀ c ∈ more.head?, c = s := by
  by_cases h : pieces = []
  · exact ⟨[], by rw [h, joinWith, List.append_nil], nofun⟩
  · refine ⟨s :: joinWith [s] pieces, ?_, fun c hc => (Option.some.inj hc).symm⟩
    rw [joinWith_cons [s] piece h, List.append_assoc]
    rfl

theorem joinWith_append_cons (sep before piece : List Char) (pieces : List (List Char)) :
    joinWith sep ((before ++ piece) :: pieces) = before ++ joinWith sep (piece :: pieces) := by
  cases pieces with
  | nil => rfl
  | cons next rest =>
    rw [joinWith_cons _ _ (List.cons_ne_nil next rest),
      joinWith_cons _ _ (List.cons_ne_nil next rest)]
    simp only [List.append_assoc]

/-- Joined pieces end as the last one, if something stands in it. -/
theorem getLast?_joinWith (sep : List Char) (before : List (List Char)) {last : List Char}
    (h : last ≠ []) : (joinWith sep (before ++ [last])).getLast? = last.getLast? := by
  by_cases hbefore : before = []
  · rw [hbefore]
    rfl
  · rw [joinWith_concat sep hbefore, List.getLast?_append_of_ne_nil _ h]

/-- Pieces with the separator behind each of them. -/
theorem flatMap_append_eq (sep : List Char) (h : pieces ≠ []) :
    (pieces.flatMap fun piece => piece ++ sep) = joinWith sep pieces ++ sep := by
  induction pieces with
  | nil => exact absurd rfl h
  | cons piece pieces ih =>
    by_cases hpieces : pieces = []
    · rw [hpieces, List.flatMap_singleton]
      rfl
    · rw [List.flatMap_cons, ih hpieces, joinWith_cons sep piece hpieces, List.append_assoc _ _ sep]

theorem joinWith_eq_intercalate (sep : List Char) (pieces : List (List Char)) :
    joinWith sep pieces = sep.intercalate pieces := by
  induction pieces with
  | nil => rfl
  | cons piece pieces ih =>
    cases pieces with
    | nil => exact (List.append_nil piece).symm
    | cons next rest =>
      rw [joinWith_cons sep piece (List.cons_ne_nil next rest), ih, List.intercalate_cons_cons]

theorem splitWhere_eq_splitOn (s : Char) (cs : List Char) :
    splitWhere (· = s) cs = cs.splitOn s := splitWhere_eq _ cs

/-- A text is made of its pieces. -/
theorem joinWith_splitWhere (s : Char) (cs : List Char) :
    joinWith [s] (splitWhere (· = s) cs) = cs := by
  rw [joinWith_eq_intercalate, splitWhere_eq_splitOn, List.intercalate_splitOn]

/-- Pieces that do not contain the separator come back. -/
theorem splitWhere_joinWith (hne : pieces ≠ []) (h : ∀ piece ∈ pieces, s ∉ piece) :
    splitWhere (· = s) (joinWith [s] pieces) = pieces := by
  rw [joinWith_eq_intercalate, splitWhere_eq_splitOn, List.splitOn_intercalate s h hne]

theorem splitWhere_ne_nil (p : Char → Bool) (cs : List Char) : splitWhere p cs ≠ [] := by
  rw [splitWhere_eq]
  exact List.splitOnP_ne_nil p cs

/-- No separator is in a piece. -/
theorem of_mem_splitWhere (hpiece : piece ∈ splitWhere p cs) (hc : c ∈ piece) : p c = false := by
  induction cs generalizing piece with
  | nil =>
    obtain rfl := List.mem_singleton.mp hpiece
    cases hc
  | cons d cs ih =>
    rw [splitWhere] at hpiece
    split at hpiece
    · obtain rfl | hpiece := List.mem_cons.mp hpiece
      · cases hc
      · exact ih hpiece hc
    · next hd =>
      obtain ⟨first, rest, heq⟩ := List.exists_cons_of_ne_nil (splitWhere_ne_nil p cs)
      rw [heq] at hpiece ih
      obtain rfl | hpiece := List.mem_cons.mp hpiece
      · obtain rfl | hc := List.mem_cons.mp hc
        · exact Bool.eq_false_iff.mpr hd
        · exact ih List.mem_cons_self hc
      · exact ih (List.mem_cons_of_mem first hpiece) hc

/-! ## Lines -/

theorem splitWhere_of_notMem (h : s ∉ cs) : splitWhere (· = s) cs = [cs] :=
  splitWhere_eq_singleton fun _ hc => decide_eq_false fun heq => h (heq ▸ hc)

theorem lines_of_notMem (h : '\n' ∉ line) (hne : line ≠ []) : lines line = [line] := by
  rw [lines, splitWhere_of_notMem h, linesOfPieces, if_neg (by simpa using hne)]

/-- What stands before a line feed is a line. -/
theorem lines_append_cons (h : '\n' ∉ line) (rest : List Char) :
    lines (line ++ '\n' :: rest) = dropReturn line :: lines rest := by
  obtain ⟨piece, pieces, heq⟩ := List.exists_cons_of_ne_nil (splitWhere_ne_nil (· = '\n') rest)
  rw [lines, splitWhere_append_cons (decide_eq_true rfl), splitWhere_of_notMem h, lines, heq]
  rfl

theorem headD_lines_eq_nil (h : ∀ c ∈ cs.head?, c = '\n') : (lines cs).headD [] = [] := by
  cases cs with
  | nil => rfl
  | cons c rest =>
    obtain rfl := h c rfl
    have hlines : lines ([] ++ '\n' :: rest) = dropReturn [] :: lines rest :=
      lines_append_cons List.not_mem_nil rest
    rw [List.nil_append] at hlines
    rw [hlines]
    rfl

theorem dropReturn_of_notMem (h : '\r' ∉ line) : dropReturn line = line :=
  if_neg fun hlast => h (List.mem_of_getLast? hlast)

theorem dropReturn_prefix_self (cs : List Char) : dropReturn cs <+: cs := by
  unfold dropReturn
  split
  · exact List.dropLast_prefix cs
  · exact List.prefix_rfl

theorem of_mem_linesOfPieces (h : line ∈ linesOfPieces pieces) :
    ∃ piece ∈ pieces, line = piece ∨ line = dropReturn piece := by
  induction pieces with
  | nil => cases h
  | cons piece pieces ih =>
    cases pieces with
    | nil =>
      rw [linesOfPieces] at h
      split at h
      · cases h
      · exact ⟨piece, List.mem_cons_self, .inl (List.mem_singleton.mp h)⟩
    | cons next rest =>
      rcases List.mem_cons.mp h with rfl | h
      · exact ⟨piece, List.mem_cons_self, .inr rfl⟩
      · obtain ⟨other, hother, hline⟩ := ih h
        exact ⟨other, List.mem_cons_of_mem piece hother, hline⟩

theorem notMem_of_mem_lines (h : line ∈ lines cs) : '\n' ∉ line := by
  obtain ⟨piece, hpiece, hline⟩ := of_mem_linesOfPieces h
  have hbreak : '\n' ∉ piece := fun hc => of_decide_eq_false (of_mem_splitWhere hpiece hc) rfl
  rcases hline with rfl | rfl
  · exact hbreak
  · exact fun hc => hbreak ((dropReturn_prefix_self piece).subset hc)

/-- Whatever is read from lines, and does not depend on carriage returns at their ends, is read from
the pieces between line feeds. -/
theorem filterMap_linesOfPieces {β : Type} {f : List Char → Option β} (hnil : f [] = none)
    (hreturn : ∀ line, f (dropReturn line) = f line) (pieces : List (List Char)) :
    (linesOfPieces pieces).filterMap f = pieces.filterMap f := by
  induction pieces with
  | nil => rfl
  | cons piece pieces ih =>
    cases pieces with
    | nil =>
      rw [linesOfPieces]
      split
      · next hempty =>
        obtain rfl : piece = [] := List.isEmpty_iff.mp hempty
        rw [List.filterMap_cons_none hnil]
      · rfl
    | cons next rest =>
      rw [linesOfPieces, List.filterMap_cons, List.filterMap_cons, hreturn, ih]
      exact List.cons_ne_nil next rest

/-- **The lines of joined lines.** The last one is a line if something stands in it. -/
theorem lines_joinWith (hline : ∀ line ∈ pieces, '\n' ∉ line ∧ '\r' ∉ line)
    (hlast : ∀ line ∈ pieces.getLast?, line ≠ []) : lines (joinWith ['\n'] pieces) = pieces := by
  induction pieces with
  | nil => rfl
  | cons line pieces ih =>
    obtain ⟨⟨hbreak, hreturn⟩, hlines⟩ := List.forall_mem_cons.mp hline
    cases pieces with
    | nil => exact lines_of_notMem hbreak (hlast line rfl)
    | cons next rest =>
      rw [List.getLast?_cons_cons] at hlast
      rw [joinWith_cons _ line (List.cons_ne_nil next rest), List.append_assoc,
        List.singleton_append, lines_append_cons hbreak, dropReturn_of_notMem hreturn,
        ih hlines hlast]

/-! ## Trimmed ends -/

theorem trimStart_cons (h : isBlank c = false) (cs : List Char) : trimStart (c :: cs) = c :: cs :=
  List.dropWhile_cons_of_neg (Bool.eq_false_iff.mp h)

theorem trimEnd_eq_self_iff : trimEnd cs = cs ↔ ∀ c ∈ cs.getLast?, isBlank c = false := by
  rw [trimEnd_eq_rdropWhile, List.rdropWhile_eq_self_iff]
  constructor
  · intro h c hc
    obtain ⟨hne, rfl⟩ := List.mem_getLast?_eq_getLast hc
    exact Bool.eq_false_iff.mpr (h hne)
  · intro h hne
    exact Bool.eq_false_iff.mp (h _ (List.getLast_mem_getLast? hne))

/-- A text that does not end in a blank is made of its lines. -/
theorem exists_lines_eq_concat (hreturn : '\r' ∉ cs) (hne : cs ≠ []) (hend : trimEnd cs = cs) :
    joinWith ['\n'] (lines cs) = cs ∧ (∀ line ∈ lines cs, '\n' ∉ line ∧ '\r' ∉ line) ∧
      ∃ before last, lines cs = before ++ [last] ∧ last ≠ [] := by
  have hjoin := joinWith_splitWhere '\n' cs
  have hpieces : ∀ piece ∈ splitWhere (· = '\n') cs, '\n' ∉ piece ∧ '\r' ∉ piece :=
    fun piece hpiece => ⟨fun hc => of_decide_eq_false (of_mem_splitWhere hpiece hc) rfl,
      fun hc => hreturn (mem_of_mem_splitWhere hpiece hc)⟩
  obtain heq | ⟨before, last, heq⟩ := List.eq_nil_or_concat' (splitWhere (· = '\n') cs)
  · exact absurd heq (splitWhere_ne_nil _ cs)
  · have hlast : last ≠ [] := by
      -- Else the text would be empty or end in a line feed.
      rintro rfl
      rw [heq] at hjoin
      by_cases hbefore : before = []
      · rw [hbefore] at hjoin
        exact hne hjoin.symm
      · rw [joinWith_concat _ hbefore, List.append_nil] at hjoin
        have hbreak := trimEnd_eq_self_iff.mp hend '\n' (by rw [← hjoin, List.getLast?_concat]; rfl)
        exact absurd hbreak (by decide)
    have hlines : lines cs = splitWhere (· = '\n') cs := by
      have hjoined := lines_joinWith hpieces fun line hline => by
        rw [heq, List.getLast?_concat] at hline
        exact Option.some.inj hline ▸ hlast
      rwa [hjoin] at hjoined
    rw [hlines]
    exact ⟨hjoin, hpieces, before, last, heq, hlast⟩

/-! ## What is visible -/

/-- What of a text is not blank. -/
def visible (cs : List Char) : List Char := cs.filter fun c => !isBlank c

theorem allBlank_iff : allBlank cs = true ↔ ∀ c ∈ cs, isBlank c = true := List.all_eq_true

theorem allBlank_eq_false (hc : c ∈ cs) (h : isBlank c = false) : allBlank cs = false := by
  refine Bool.eq_false_iff.mpr fun hblank => ?_
  rw [allBlank_iff.mp hblank c hc] at h
  cases h

theorem visible_eq_nil_iff : visible cs = [] ↔ allBlank cs = true := by
  simp [visible, allBlank_iff]

theorem visible_append (before after : List Char) :
    visible (before ++ after) = visible before ++ visible after := List.filter_append _ _

theorem trimEnd_append_of_blank (h : allBlank more = true) (cs : List Char) :
    trimEnd (cs ++ more) = trimEnd cs := by
  have hblank : ∀ c ∈ more.reverse, isBlank c = true := fun c hc =>
    allBlank_iff.mp h c (List.mem_reverse.mp hc)
  rw [trimEnd, List.reverse_append, List.dropWhile_append_of_pos hblank, trimEnd]

theorem trim_append_of_blank (h : allBlank more = true) (cs : List Char) :
    trim (cs ++ more) = trim cs := by
  rw [trim, trimStart, List.dropWhile_append]
  split
  · next hempty =>
    have hcs : trimStart cs = [] := List.isEmpty_iff.mp hempty
    rw [trim, hcs]
    exact congrArg trimEnd (List.dropWhile_eq_nil_iff.mpr (allBlank_iff.mp h))
  · exact trimEnd_append_of_blank h (trimStart cs)

/-- The end of a text is trimmed in its last part that is not blank. -/
theorem trimEnd_append (h : allBlank more = false) (cs : List Char) :
    trimEnd (cs ++ more) = cs ++ trimEnd more := by
  have hrest : (more.reverse.dropWhile isBlank).isEmpty = false := by
    rw [← Bool.not_eq_true, List.isEmpty_iff, List.dropWhile_eq_nil_iff]
    exact fun hblank => absurd (allBlank_iff.mpr fun c hc => hblank c (List.mem_reverse.mpr hc))
      (by rw [h]; exact Bool.false_ne_true)
  rw [trimEnd, List.reverse_append, List.dropWhile_append, hrest, if_neg Bool.false_ne_true,
    List.reverse_append, List.reverse_reverse, trimEnd]

theorem visible_trimEnd (cs : List Char) : visible (trimEnd cs) = visible cs := by
  have hend : visible (cs.rtakeWhile isBlank) = [] :=
    visible_eq_nil_iff.mpr (allBlank_iff.mpr fun _ hc => List.mem_rtakeWhile_imp hc)
  calc visible (trimEnd cs)
    _ = visible (cs.rdropWhile isBlank ++ cs.rtakeWhile isBlank) := by
      rw [visible_append, hend, List.append_nil, trimEnd_eq_rdropWhile]
    _ = visible cs := by rw [List.rdropWhile_append_rtakeWhile]

theorem allBlank_trimEnd (cs : List Char) : allBlank (trimEnd cs) = allBlank cs := by
  rw [Bool.eq_iff_iff, ← visible_eq_nil_iff, ← visible_eq_nil_iff, visible_trimEnd]

theorem ne_nil_of_allBlank (h : allBlank cs = false) : cs ≠ [] := by
  rintro rfl
  exact nomatch h

theorem trimEnd_prefix_self (cs : List Char) : trimEnd cs <+: cs :=
  List.rdropWhile_prefix isBlank cs

theorem mem_head?_of_trimEnd (h : c ∈ (trimEnd cs).head?) : c ∈ cs.head? := by
  obtain ⟨rest, hrest⟩ := List.head?_eq_some_iff.mp h
  obtain ⟨after, hafter⟩ := trimEnd_prefix_self cs
  rw [← hafter, hrest]
  rfl

theorem visible_dropReturn (cs : List Char) : visible (dropReturn cs) = visible cs := by
  unfold dropReturn
  split
  · next h =>
    have hreturn : visible ['\r'] = [] := by decide
    calc visible cs.dropLast
      _ = visible (cs.dropLast ++ ['\r']) := by rw [visible_append, hreturn, List.append_nil]
      _ = visible cs := by rw [List.dropLast_append_getLast? _ h]
  · rfl

/-- Trimming does not depend on a carriage return at the end. -/
theorem trim_dropReturn (cs : List Char) : trim (dropReturn cs) = trim cs := by
  unfold dropReturn
  split
  · next h =>
    obtain ⟨before, rfl⟩ := List.getLast?_eq_some_iff.mp h
    rw [List.dropLast_concat, trim_append_of_blank (by decide)]
  · rfl

theorem dropReturn_append (before : List Char) (h : text ≠ []) :
    dropReturn (before ++ text) = before ++ dropReturn text := by
  unfold dropReturn
  rw [List.getLast?_append_of_ne_nil before h, List.dropLast_append_of_ne_nil h]
  split <;> rfl

/-- **Trimming a text leaves its first line,** but for blanks at its end. -/
theorem exists_lines_trimEnd (hbreak : '\n' ∉ before ++ text) (htext : allBlank text = false)
    (hmore : ∀ c ∈ more.head?, c = '\n') :
    ∃ kept rest, lines (trimEnd (before ++ text ++ more)) = (before ++ kept) :: rest ∧
      kept <+: text ∧ visible kept = visible text := by
  cases hblank : allBlank more with
  | true =>
    refine ⟨trimEnd text, [], ?_, trimEnd_prefix_self text, visible_trimEnd text⟩
    have hkept : trimEnd text ≠ [] := ne_nil_of_allBlank ((allBlank_trimEnd text).trans htext)
    have hkeeps : before ++ trimEnd text <+: before ++ text :=
      (List.prefix_append_right_inj before).mpr (trimEnd_prefix_self text)
    rw [trimEnd_append_of_blank hblank, trimEnd_append htext]
    exact lines_of_notMem (fun hmem => hbreak (hkeeps.subset hmem))
      (List.append_ne_nil_of_right_ne_nil before hkept)
  | false =>
    obtain ⟨c, rest, hrest⟩ := List.exists_cons_of_ne_nil
      (ne_nil_of_allBlank ((allBlank_trimEnd more).trans hblank))
    have hc : c = '\n' := hmore c (mem_head?_of_trimEnd (by rw [hrest]; rfl))
    refine ⟨dropReturn text, lines rest, ?_, dropReturn_prefix_self text, visible_dropReturn text⟩
    rw [trimEnd_append hblank, hrest, hc, lines_append_cons hbreak,
      dropReturn_append before (ne_nil_of_allBlank htext)]

end Stencil.Text
