import Mathlib.Data.Prod.Lex
import Mathlib.Order.Bounds.Basic
import Mathlib.Order.Monotone.Basic
import Stencil.Proofs.Text.Line
import Stencil.Proofs.Text.Search
import Stencil.SyntaxError

/-!
# Lines and columns of a source

The line and column of an offset tell where the offset is. What stands in front of it is cut behind
its last line feed: the line is the number of line feeds up to there, the column the number of
characters behind it, both from one.

* `exists_lastLine`: every text is cut like that, and `positionBehind_append` counts it.
* `positionBehind_lt`: with more text in front a position comes later, line before column.
  `strictMonoOn_position`: so positions are in the order of the boundaries.
* `isGreatest_takeBytes` and `position_boundary`: an offset has the position of the last boundary up
  to it.
* `offsetOf?` reads an offset off a line and a column. `offsetOf?_eq_some_iff`: it finds exactly the
  boundary with that position.
* `positions_faithful`: all of this together.
-/

namespace Stencil.Text

variable {source before line after : List Char} {c : Char} {a b offset : Nat}

/-! ## The last line in front of an offset -/

/-- The line and column right behind a text. -/
def positionBehind (before : List Char) : Nat × Nat :=
  (before.count '\n' + 1, (before.reverse.takeWhile (· ≠ '\n')).length + 1)

theorem position_eq (source : List Char) (offset : Nat) :
    position source offset = positionBehind (takeBytes source offset) := rfl

theorem position_byteLength_append (before after : List Char) :
    position (before ++ after) (byteLength before) = positionBehind before := by
  rw [position_eq, takeBytes_byteLength_append]

/-- Whether a text is made of whole lines, each with its line feed. -/
def EndsLine (before : List Char) : Prop := ∀ c ∈ before.getLast?, c = '\n'

/-- A text is cut behind its last line feed. -/
theorem exists_lastLine (cs : List Char) :
    ∃ before line, cs = before ++ line ∧ EndsLine before ∧ '\n' ∉ line := by
  -- From the right end: a line feed there starts a new last line, all else belongs to the old one.
  induction cs using List.reverseRecOn with
  | nil => exact ⟨[], [], rfl, nofun, List.not_mem_nil⟩
  | append_singleton cs c ih =>
    by_cases hc : c = '\n'
    · refine ⟨cs ++ [c], [], by simp, fun d hd => ?_, List.not_mem_nil⟩
      rw [List.getLast?_concat, Option.mem_some_iff] at hd
      rw [← hd, hc]
    · obtain ⟨before, line, rfl, hbefore, hline⟩ := ih
      refine ⟨before, line ++ [c], by simp, hbefore, ?_⟩
      simp [hline, Ne.symm hc]

/-- The line feeds make the line, and what stands behind the last one makes the column. -/
theorem positionBehind_append (hbefore : EndsLine before) (hline : '\n' ∉ line) :
    positionBehind (before ++ line) = (before.count '\n' + 1, line.length + 1) := by
  have hpass : ∀ c ∈ line.reverse, decide (c ≠ '\n') = true := fun c hc =>
    decide_eq_true fun heq => hline (heq ▸ List.mem_reverse.mp hc)
  have hstop : before.reverse.takeWhile (· ≠ '\n') = [] := by
    cases hreverse : before.reverse with
    | nil => rfl
    | cons c rest =>
      have hc : c = '\n' := hbefore c (by rw [← List.head?_reverse, hreverse]; rfl)
      simp [hc]
  rw [positionBehind, List.count_append, List.count_eq_zero_of_not_mem hline,
    List.reverse_append, List.takeWhile_append_of_pos hpass, hstop, List.append_nil,
    List.length_reverse, Nat.add_zero]

/-! ## The order of positions -/

theorem positionBehind_concat_lt (before : List Char) (c : Char) :
    toLex (positionBehind before) < toLex (positionBehind (before ++ [c])) := by
  obtain ⟨lines, line, rfl, hlines, hline⟩ := exists_lastLine before
  rw [Prod.Lex.toLex_lt_toLex, positionBehind_append hlines hline]
  by_cases hc : c = '\n'
  · left
    simp only [positionBehind, List.count_append, hc, List.count_singleton_self]
    omega
  · right
    have hmore : '\n' ∉ line ++ [c] := by simp [hline, Ne.symm hc]
    rw [List.append_assoc, positionBehind_append hlines hmore]
    simp

/-- With more text in front a position comes later. -/
theorem positionBehind_lt (before : List Char) (h : after ≠ []) :
    toLex (positionBehind before) < toLex (positionBehind (before ++ after)) := by
  induction after using List.reverseRecOn with
  | nil => exact absurd rfl h
  | append_singleton after c ih =>
    have hlast := positionBehind_concat_lt (before ++ after) c
    rw [List.append_assoc] at hlast
    by_cases hafter : after = []
    · subst hafter
      rwa [List.append_nil] at hlast
    · exact (ih hafter).trans hlast

/-- The text in front of a boundary is that in front of an earlier one, and more. -/
theorem exists_append_of_lt (ha : IsBoundary source a) (hb : IsBoundary source b) (hlt : a < b) :
    ∃ before more after, source = before ++ (more ++ after) ∧ more ≠ [] ∧ a = byteLength before ∧
      b = byteLength (before ++ more) := by
  obtain ⟨before, behind, rfl, rfl⟩ := ha
  obtain ⟨front, after, heq, rfl⟩ := hb
  obtain ⟨more, rfl, rfl⟩ | ⟨more, rfl, -⟩ := List.append_eq_append_iff.mp heq
  · refine ⟨before, more, after, rfl, ?_, rfl, rfl⟩
    rintro rfl
    simp at hlt
  · rw [byteLength_append] at hlt
    omega

/-- Positions are in the order of the boundaries. -/
theorem strictMonoOn_position (source : List Char) :
    StrictMonoOn (fun offset => toLex (position source offset))
      {offset | IsBoundary source offset} := by
  intro a ha b hb hlt
  obtain ⟨before, more, after, rfl, hmore, rfl, rfl⟩ := exists_append_of_lt ha hb hlt
  have hlater := position_byteLength_append (before ++ more) after
  rw [List.append_assoc] at hlater
  simp only [position_byteLength_append, hlater]
  exact positionBehind_lt before hmore

/-! ## Offsets between boundaries -/

theorem takeBytes_append (h : byteLength before ≤ offset) (after : List Char) :
    takeBytes (before ++ after) offset =
      before ++ takeBytes after (offset - byteLength before) := by
  induction before generalizing offset with
  | nil => rfl
  | cons c before ih =>
    rw [byteLength_cons] at h
    have hc : c.utf8Size ≤ offset := by omega
    have hrest : byteLength before ≤ offset - c.utf8Size := by omega
    simp only [List.cons_append, takeBytes, hc, if_true, ih hrest, byteLength_cons, Nat.sub_sub]

theorem byteLength_takeBytes_le (source : List Char) (offset : Nat) :
    byteLength (takeBytes source offset) ≤ offset := by
  induction source generalizing offset with
  | nil => simp [takeBytes]
  | cons c source ih =>
    rw [takeBytes]
    split
    · have hrest := ih (offset - c.utf8Size)
      rw [byteLength_cons]
      omega
    · simp

/-- What an offset cuts off ends at the last boundary up to it. -/
theorem isGreatest_takeBytes (source : List Char) (offset : Nat) :
    IsGreatest {b | IsBoundary source b ∧ b ≤ offset} (byteLength (takeBytes source offset)) := by
  refine ⟨⟨⟨_, _, (takeBytes_append_dropBytes source offset).symm, rfl⟩,
    byteLength_takeBytes_le source offset⟩, ?_⟩
  rintro b ⟨⟨before, after, rfl, rfl⟩, hle⟩
  rw [takeBytes_append hle, byteLength_append]
  exact Nat.le_add_right _ _

/-- An offset has the position of the last boundary up to it. -/
theorem position_boundary (source : List Char) (offset : Nat) :
    position source (byteLength (takeBytes source offset)) = position source offset := by
  have hcut := position_byteLength_append (takeBytes source offset) (dropBytes source offset)
  rwa [takeBytes_append_dropBytes] at hcut

/-- An offset inside a character stands for the boundary in front of it. -/
theorem position_inside (hlow : byteLength before ≤ offset)
    (hhigh : offset < byteLength before + c.utf8Size) (after : List Char) :
    position (before ++ c :: after) offset =
      position (before ++ c :: after) (byteLength before) := by
  have hsize : ¬ c.utf8Size ≤ offset - byteLength before := by omega
  rw [position_byteLength_append, position_eq, takeBytes_append hlow, takeBytes, if_neg hsize,
    List.append_nil]

/-- An offset past the end stands for the end. -/
theorem position_past (h : byteLength source ≤ offset) :
    position source offset = position source (byteLength source) := by
  have hall := takeBytes_append h []
  have hend := takeBytes_byteLength_append source []
  rw [List.append_nil] at hall hend
  rw [position_eq, position_eq, hall, hend, takeBytes, List.append_nil]

/-! ## Reading a position back -/

/-- Cuts a text behind its first `n` line feeds. -/
def cutLines? : Nat → List Char → Option (List Char × List Char)
  | 0, cs => some ([], cs)
  | _ + 1, [] => none
  | n + 1, c :: cs =>
    (cutLines? (if c = '\n' then n else n + 1) cs).map fun (before, after) => (c :: before, after)

/-- The byte offset of a line and a column, both from one: past the line feeds of the lines above,
and past the characters in front of it in its own line. -/
def offsetOf? (source : List Char) : Nat × Nat → Option Nat
  | (line + 1, column + 1) =>
    (cutLines? line source).bind fun (before, after) =>
      let front := after.take column
      if front.length = column ∧ '\n' ∉ front then some (byteLength (before ++ front)) else none
  | _ => none

theorem endsLine_cons_iff :
    EndsLine (c :: before) ↔ (before = [] → c = '\n') ∧ EndsLine before := by
  cases before with
  | nil => simp [EndsLine]
  | cons d before => simp [EndsLine, List.getLast?_cons_cons]

theorem EndsLine.lineFeed_mem (h : EndsLine before) (hne : before ≠ []) : '\n' ∈ before := by
  rw [← h _ (List.getLast?_eq_some_getLast hne)]
  exact List.getLast_mem hne

/-- What is cut off is made of so many whole lines. -/
theorem of_cutLines? {n : Nat} (h : cutLines? n source = some (before, after)) :
    source = before ++ after ∧ before.count '\n' = n ∧ EndsLine before := by
  fun_induction cutLines? n source generalizing before with
  | case1 cs =>
    cases h
    exact ⟨rfl, rfl, nofun⟩
  | case2 => cases h
  | case3 n c cs ih =>
    obtain ⟨⟨front, rest⟩, hrest, heq⟩ := Option.map_eq_some_iff.mp h
    cases heq
    obtain ⟨rfl, hcount, hfront⟩ := ih hrest
    refine ⟨rfl, ?_, endsLine_cons_iff.mpr ⟨?_, hfront⟩⟩
    · rw [List.count_cons, hcount]
      by_cases hc : c = '\n' <;> simp [hc]
    · -- With nothing cut off behind `c`, the line feed that is still to be counted is `c`.
      rintro rfl
      by_contra hc
      simp [hc] at hcount

/-- Whole lines are cut off by their number. -/
theorem cutLines?_append (hbefore : EndsLine before) (after : List Char) :
    cutLines? (before.count '\n') (before ++ after) = some (before, after) := by
  induction before with
  | nil => cases after <;> rfl
  | cons c before ih =>
    obtain ⟨hlast, hrest⟩ := endsLine_cons_iff.mp hbefore
    by_cases hc : c = '\n'
    · subst hc
      rw [List.count_cons_self, List.cons_append, cutLines?, if_pos rfl, ih hrest]
      rfl
    · have hmem : '\n' ∈ before := hrest.lineFeed_mem fun hnil => hc (hlast hnil)
      obtain ⟨n, hn⟩ := Nat.exists_eq_add_one_of_ne_zero (List.count_pos_iff.mpr hmem).ne'
      rw [List.count_cons_of_ne hc, List.cons_append, hn, cutLines?, if_neg hc, ← hn, ih hrest]
      rfl

/-- **A position is read back** as the boundary that has it, and as no other. -/
theorem offsetOf?_eq_some_iff {place : Nat × Nat} : offsetOf? source place = some offset ↔
    IsBoundary source offset ∧ position source offset = place := by
  constructor
  · intro h
    match place, h with
    | (line + 1, column + 1), h =>
      obtain ⟨⟨before, after⟩, hcut, hfront⟩ := Option.bind_eq_some_iff.mp h
      obtain ⟨⟨hlength, hline⟩, heq⟩ := Option.ite_none_right_eq_some.mp hfront
      obtain ⟨rfl, hcount, hbefore⟩ := of_cutLines? hcut
      obtain rfl := Option.some.inj heq
      have hsplit : before ++ after = before ++ after.take column ++ after.drop column := by
        rw [List.append_assoc, List.take_append_drop]
      refine ⟨⟨_, _, hsplit, rfl⟩, ?_⟩
      rw [hsplit, position_byteLength_append, positionBehind_append hbefore hline, hcount, hlength]
  · rintro ⟨⟨front, after, rfl, rfl⟩, rfl⟩
    obtain ⟨before, line, rfl, hbefore, hline⟩ := exists_lastLine front
    rw [position_byteLength_append, positionBehind_append hbefore hline, offsetOf?,
      List.append_assoc, cutLines?_append hbefore]
    simp [hline]

/-- **Positions tell where offsets are.** On the boundaries of a source they are in the order of
line and column, so no two boundaries share one. An offset inside a character has the position of
the character, and one past the end that of the end. Counting line feeds and then characters leads
from a position back to the boundary that has it, and from a pair that is no position nowhere; for
any offset it leads to the last boundary up to it. So every located error tells where its span
starts. -/
theorem positions_faithful (source : List Char) :
    StrictMonoOn (fun offset => toLex (position source offset))
        {offset | IsBoundary source offset} ∧
      Set.InjOn (position source) {offset | IsBoundary source offset} ∧
      (∀ before c after offset, source = before ++ c :: after → byteLength before ≤ offset →
        offset < byteLength before + c.utf8Size →
          position source offset = position source (byteLength before)) ∧
      (∀ offset, byteLength source ≤ offset →
        position source offset = position source (byteLength source)) ∧
      (∀ place offset, offsetOf? source place = some offset ↔
        IsBoundary source offset ∧ position source offset = place) ∧
      (∀ offset, ∃ boundary, IsGreatest {b | IsBoundary source b ∧ b ≤ offset} boundary ∧
        offsetOf? source (position source offset) = some boundary) ∧
      ∀ e : SyntaxError, IsBoundary source e.span.start →
        offsetOf? source ((e.locate source).line, (e.locate source).column) =
          some e.span.start := by
  have hmono := strictMonoOn_position source
  refine ⟨hmono, ?_, ?_, fun offset => position_past, ?_, ?_, ?_⟩
  · intro a ha b hb heq
    exact hmono.injOn ha hb (congrArg toLex heq)
  · rintro before c after offset rfl hlow hhigh
    exact position_inside hlow hhigh after
  · intro place offset
    exact offsetOf?_eq_some_iff
  · intro offset
    have hgreatest := isGreatest_takeBytes source offset
    have hback := offsetOf?_eq_some_iff.mpr ⟨hgreatest.1.1, position_boundary source offset⟩
    exact ⟨_, hgreatest, hback⟩
  · intro e hstart
    exact offsetOf?_eq_some_iff.mpr ⟨hstart, rfl⟩

/-- A source with an empty line, and with characters of two and of three bytes. -/
theorem positions_faithful_arrow :
    let source := "ä\n\n→x".toList
    (IsBoundary source 3 ∧ IsBoundary source 7 ∧ byteLength source = 8) ∧
      toLex (position source 3) < toLex (position source 7) ∧
      position source 5 = (3, 1) ∧ position source 99 = (3, 3) ∧
      offsetOf? source (3, 2) = some 7 ∧ offsetOf? source (2, 2) = none := by
  intro source
  have hempty : IsBoundary source 3 := ⟨"ä\n".toList, "\n→x".toList, by decide, by decide⟩
  have harrow : IsBoundary source 7 := ⟨"ä\n\n→".toList, "x".toList, by decide, by decide⟩
  obtain ⟨hmono, -, hinside, hpast, hback, -, -⟩ := positions_faithful source
  refine ⟨⟨hempty, harrow, by decide⟩, hmono hempty harrow (by decide), ?_, ?_, ?_, by decide⟩
  · rw [hinside "ä\n\n".toList '→' "x".toList 5 (by decide) (by decide) (by decide)]
    decide
  · rw [hpast 99 (by decide)]
    decide
  · exact (hback (3, 2) 7).mpr ⟨harrow, by decide⟩

end Stencil.Text
