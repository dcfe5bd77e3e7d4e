import Mathlib
import Stencil.Graph.Document
import Stencil.Outline.Node
import Stencil.Proofs.Graph.Items
import Stencil.Proofs.Text.Search
import Stencil.Proofs.Text.Line

/-!
# Contents behind bullets

A node is printed as a bullet: its first line stands behind a hyphen and a space, and the further
lines behind a margin of the same width. The reader of items takes bullet and margin away again. It
measures the margin by the line that is indented least, so it can only tell the margin from the
indentation of a line if one of the further lines begins right behind the margin.

* `afterBullet_space`: what stands behind a bullet.
* `map_dedent_margin`: a margin is taken away from all lines.
* `printedLines` are the lines of a bullet, and `bulletContent_printedLines` is their content.
* `bulletContent_bullet`: the content of a printed bullet is the content of the node.

Items of a document may be marked by bullets or by numbers, and spaces or tabs may follow the
marker. Only behind a bullet and a space the text of the first line becomes content; any other item
loses it.

* `ItemSource`: the source of an item with text behind its marker.
* `keepsText_iff`: whether the text is kept in the content.
* `item_text_kept_iff`: the same for all items of a document.
-/

namespace Stencil.Graph

open Text
open Markup (Event)

variable {c : Char} {line : List Char}

/-! ## The first line -/

theorem isBlank_of_isBullet (h : isBullet c = true) : isBlank c = false := by
  simp only [isBullet, Bool.or_eq_true, decide_eq_true_eq] at h
  rcases h with (rfl | rfl) | rfl <;> decide

/-- What stands behind a bullet and a space. -/
theorem afterBullet_space (h : isBullet c = true) (rest : List Char) :
    afterBullet (c :: ' ' :: rest) = rest := by
  rw [afterBullet, trimStart_cons (isBlank_of_isBullet h), List.dropWhile_cons_of_pos h]
  rfl

section Printing

variable {margin : List Char} {lines : List (List Char)}

/-! ## Further lines -/

theorem dedent_append (margin line : List Char) :
    dedent (byteLength margin) (margin ++ line) = line := by
  rw [dedent, takeBytes_byteLength_append, if_pos rfl, dropBytes_byteLength_append]

theorem byteLength_trimStart_le (line : List Char) :
    byteLength (trimStart line) ≤ byteLength line := by
  calc byteLength (trimStart line)
    _ ≤ byteLength (line.takeWhile isBlank) + byteLength (trimStart line) := Nat.le_add_left _ _
    _ = byteLength line := by
      rw [← byteLength_append, trimStart, List.takeWhile_append_dropWhile]

/-- A margin of blanks indents a line further. -/
theorem indentOf_append (h : allBlank margin = true) (line : List Char) :
    indentOf (margin ++ line) = byteLength margin + indentOf line := by
  have hstart : trimStart (margin ++ line) = trimStart line :=
    List.dropWhile_append_of_pos (allBlank_iff.mp h)
  have hle := byteLength_trimStart_le line
  rw [indentOf, indentOf, hstart, byteLength_append]
  omega

/-- The least indentation is the one of a line that is not blank. -/
theorem commonIndent_eq (hline : line ∈ lines) (hvisible : allBlank line = false)
    (hleast : ∀ other ∈ lines, allBlank other = false → indentOf line ≤ indentOf other) :
    commonIndent lines = indentOf line := by
  have hmin : ((lines.filter fun line => !allBlank line).map indentOf).min? =
      some (indentOf line) := by
    refine List.min?_eq_some_iff.mpr ⟨?_, fun indent hindent => ?_⟩
    · exact List.mem_map_of_mem (List.mem_filter.mpr ⟨hline, by rw [hvisible]; rfl⟩)
    · obtain ⟨other, hother, rfl⟩ := List.mem_map.mp hindent
      obtain ⟨hmem, hblank⟩ := List.mem_filter.mp hother
      exact hleast other hmem (by simpa using hblank)
  rw [commonIndent, hmin]
  rfl

/-- Lines with a common margin get it taken away, if one of them begins behind it. -/
theorem map_dedent_margin (hmargin : allBlank margin = true)
    (h : ∃ line ∈ lines, ∃ c ∈ line.head?, isBlank c = false) :
    (lines.map (margin ++ ·)).map (dedent (commonIndent (lines.map (margin ++ ·)))) = lines := by
  obtain ⟨line, hline, c, hc, hvisible⟩ := h
  obtain ⟨line, rfl⟩ := List.head?_eq_some_iff.mp hc
  have hflush : indentOf (margin ++ c :: line) = byteLength margin := by
    rw [indentOf_append hmargin, indentOf, trimStart_cons hvisible, Nat.sub_self, Nat.add_zero]
  have hblank : allBlank (margin ++ c :: line) = false :=
    allBlank_eq_false (List.mem_append_right margin List.mem_cons_self) hvisible
  have hcommon : commonIndent (lines.map (margin ++ ·)) = byteLength margin := by
    rw [← hflush]
    refine commonIndent_eq (List.mem_map_of_mem hline) hblank fun other hother _ => ?_
    obtain ⟨other, -, rfl⟩ := List.mem_map.mp hother
    rw [hflush, indentOf_append hmargin]
    exact Nat.le_add_right _ _
  rw [hcommon, List.map_map]
  exact (List.map_congr_left fun line _ => dedent_append margin line).trans lines.map_id

/-! ## Printed bullets -/

/-- The lines of a bullet, from the bullet on. -/
def printedLines (margin : List Char) : List (List Char) → List (List Char)
  | [] => [['-', ' ']]
  | first :: rest => ('-' :: ' ' :: first) :: rest.map (margin ++ ·)

theorem exists_printedLines_concat (margin : List Char) (before : List (List Char))
    (last : List Char) : ∃ before' lead, printedLines margin (before ++ [last]) =
      before' ++ [lead ++ last] := by
  cases before with
  | nil => exact ⟨[], ['-', ' '], rfl⟩
  | cons first before =>
    refine ⟨('-' :: ' ' :: first) :: before.map (margin ++ ·), margin, ?_⟩
    rw [List.cons_append, printedLines, List.map_append]
    rfl

/-- Printing adds only hyphens and spaces. -/
theorem notMem_printedLines (hmargin : ∀ d ∈ margin, d = ' ') (hbullet : c ≠ '-') (hspace : c ≠ ' ')
    (h : ∀ line ∈ lines, c ∉ line) : ∀ line ∈ printedLines margin lines, c ∉ line := by
  intro line hline hc
  cases lines with
  | nil =>
    rw [List.mem_singleton.mp hline] at hc
    simp [hbullet, hspace] at hc
  | cons first rest =>
    obtain ⟨hfirst, hrest⟩ := List.forall_mem_cons.mp h
    rcases List.mem_cons.mp hline with rfl | hline
    · simp [hbullet, hspace, hfirst] at hc
    · obtain ⟨line, hmem, rfl⟩ := List.mem_map.mp hline
      rcases List.mem_append.mp hc with hc | hc
      · exact hspace (hmargin c hc)
      · exact hrest line hmem hc

theorem contentLines_eq (level : Nat) (content : String) : ∃ first rest,
    printedLines (List.replicate (2 * level + 2) ' ') (Text.lines content.toList) = first :: rest ∧
      Node.contentLines level content = (List.replicate (2 * level) ' ' ++ first) :: rest := by
  rw [Node.contentLines]
  cases Text.lines content.toList with
  | nil => exact ⟨_, _, rfl, rfl⟩
  | cons first rest =>
    refine ⟨_, _, rfl, ?_⟩
    have hmargin (line : List Char) : List.replicate (2 * level + 2) ' ' ++ line =
        List.replicate (2 * level) ' ' ++ ' ' :: ' ' :: line := by
      rw [List.replicate_add, List.append_assoc]
      rfl
    simp only [hmargin]
    rfl

/-- The bullet of a node without children, from its marker on. -/
theorem drop_bulletLines {node : Node} (h : node.children = []) (level : Nat) :
    (Node.ofLines (node.bulletLines level)).toList.drop (2 * level) =
      joinWith ['\n'] (printedLines (List.replicate (2 * level + 2) ' ')
        (Text.lines node.content.toList)) ++ ['\n'] := by
  obtain ⟨content, children, origin, uuid, cursor⟩ := node
  obtain rfl : children = [] := h
  obtain ⟨first, rest, hprinted, hlines⟩ := contentLines_eq level content
  have hindent : (List.replicate (2 * level) ' ').length = 2 * level := List.length_replicate
  rw [Node.bulletLines, Node.forestLines, List.append_nil, hlines, Node.ofLines,
    String.toList_ofList, flatMap_append_eq _ (List.cons_ne_nil _ rest), joinWith_append_cons,
    List.append_assoc, List.drop_left' hindent, hprinted]

/-- Printed lines end as they did before. -/
theorem trimEnd_printedLines {before : List (List Char)} {last : List Char}
    (hlines : lines = before ++ [last]) (hlast : last ≠ [])
    (hend : trimEnd (joinWith ['\n'] lines) = joinWith ['\n'] lines) :
    trimEnd (joinWith ['\n'] (printedLines margin lines)) =
      joinWith ['\n'] (printedLines margin lines) := by
  obtain ⟨before', lead, hprinted⟩ := exists_printedLines_concat margin before last
  have hlead : lead ++ last ≠ [] := List.append_ne_nil_of_right_ne_nil lead hlast
  rw [trimEnd_eq_self_iff, hlines, getLast?_joinWith _ _ hlast] at hend
  rw [trimEnd_eq_self_iff, hlines, hprinted, getLast?_joinWith _ _ hlead,
    List.getLast?_append_of_ne_nil lead hlast]
  exact hend

theorem lines_printedLines {before : List (List Char)} {last : List Char}
    (hmargin : ∀ c ∈ margin, c = ' ') (hlines : lines = before ++ [last]) (hlast : last ≠ [])
    (hbreaks : ∀ line ∈ lines, '\n' ∉ line ∧ '\r' ∉ line) :
    Text.lines (joinWith ['\n'] (printedLines margin lines)) = printedLines margin lines := by
  have hbreak := notMem_printedLines hmargin (c := '\n') (by decide) (by decide)
    fun line hline => (hbreaks line hline).1
  have hreturn := notMem_printedLines hmargin (c := '\r') (by decide) (by decide)
    fun line hline => (hbreaks line hline).2
  obtain ⟨before', lead, hprinted⟩ := exists_printedLines_concat margin before last
  refine lines_joinWith (fun line hline => ⟨hbreak line hline, hreturn line hline⟩) ?_
  rw [hlines, hprinted, List.getLast?_concat]
  exact fun line hline => Option.some.inj hline ▸ List.append_ne_nil_of_right_ne_nil lead hlast

/-- The content of printed lines. -/
theorem bulletContent_printedLines {before : List (List Char)} {last : List Char}
    (hmargin : ∀ c ∈ margin, c = ' ') (hlines : lines = before ++ [last])
    (hbreaks : ∀ line ∈ lines, '\n' ∉ line ∧ '\r' ∉ line) (hlast : last ≠ [])
    (hend : trimEnd (joinWith ['\n'] lines) = joinWith ['\n'] lines)
    (hflush : lines.tail = [] ∨ ∃ line ∈ lines.tail, ∃ c ∈ line.head?, isBlank c = false) :
    bulletContent (joinWith ['\n'] (printedLines margin lines) ++ ['\n']) =
      joinWith ['\n'] lines := by
  have hblank : allBlank margin = true := allBlank_iff.mpr fun c hc => by
    rw [hmargin c hc]
    decide
  rw [bulletContent, trimEnd_append_of_blank (by decide), trimEnd_printedLines hlines hlast hend,
    lines_printedLines hmargin hlines hlast hbreaks]
  cases lines with
  | nil =>
    exact absurd hlines.symm (List.append_ne_nil_of_right_ne_nil before (List.cons_ne_nil last []))
  | cons first rest =>
    have hrest : (rest.map (margin ++ ·)).map (dedent (commonIndent (rest.map (margin ++ ·)))) =
        rest := by
      rcases hflush with hnil | hflush
      · obtain rfl : rest = [] := hnil
        rfl
      · exact map_dedent_margin hblank hflush
    show trimEnd (joinWith ['\n'] (afterBullet ('-' :: ' ' :: first) :: _)) = _
    rw [afterBullet_space (by decide), hrest, hend]

/-- **Printed bullets are read back.** A content without carriage returns and without blanks at its
end is what stands behind its bullet at any level, if it is one line or one of its further lines
begins with what is not blank. -/
theorem bulletContent_bullet {node : Node} (hchildren : node.children = [])
    (hreturn : '\r' ∉ node.content.toList)
    (hend : trimEnd node.content.toList = node.content.toList)
    (hflush : '\n' ∉ node.content.toList ∨
      ∃ line ∈ (Text.lines node.content.toList).tail, ∃ c ∈ line.head?, isBlank c = false)
    (level : Nat) :
    bulletContent ((Node.ofLines (node.bulletLines level)).toList.drop (2 * level)) =
      node.content.toList := by
  rw [drop_bulletLines hchildren]
  by_cases hempty : node.content.toList = []
  · rw [hempty]
    show bulletContent ['-', ' ', '\n'] = []
    decide
  · obtain ⟨hjoin, hbreaks, before, last, hlines, hlast⟩ :=
      exists_lines_eq_concat hreturn hempty hend
    have hmargin : ∀ c ∈ List.replicate (2 * level + 2) ' ', c = ' ' := fun c hc =>
      List.eq_of_mem_replicate hc
    have hone : '\n' ∉ node.content.toList → (Text.lines node.content.toList).tail = [] := by
      intro hbreak
      rw [lines_of_notMem hbreak hempty]
      rfl
    rw [bulletContent_printedLines hmargin hlines hbreaks hlast (by rw [hjoin, hend])
      (hflush.imp_left hone), hjoin]

/-- A node with an indented line, which begins with a wide blank, and with a blank line. -/
def indentedNode : Node := { content := "one\n \u3000two\n\nthree" }

/-- The indented line and the blank line come back from the second level. -/
theorem bulletContent_bullet_indented :
    indentedNode.children = [] ∧ '\r' ∉ indentedNode.content.toList ∧
    trimEnd indentedNode.content.toList = indentedNode.content.toList ∧
    (∃ line ∈ (Text.lines indentedNode.content.toList).tail, ∃ c ∈ line.head?, isBlank c = false) ∧
    (Node.ofLines (indentedNode.bulletLines 2)).toList =
      "    - one\n       \u3000two\n      \n      three\n".toList ∧
    bulletContent "- one\n       \u3000two\n      \n      three\n".toList =
      indentedNode.content.toList := by
  have hreturn : '\r' ∉ indentedNode.content.toList := by decide +kernel
  have hend : trimEnd indentedNode.content.toList = indentedNode.content.toList := by
    decide +kernel
  have hflush : ∃ line ∈ (Text.lines indentedNode.content.toList).tail,
      ∃ c ∈ line.head?, isBlank c = false :=
    ⟨"three".toList, by decide +kernel, 't', by decide +kernel, by decide⟩
  have hprinted : (Node.ofLines (indentedNode.bulletLines 2)).toList =
      "    - one\n       \u3000two\n      \n      three\n".toList := by cbv
  have hmarker : "    - one\n       \u3000two\n      \n      three\n".toList.drop (2 * 2) =
      "- one\n       \u3000two\n      \n      three\n".toList := by decide +kernel
  have hread := bulletContent_bullet rfl hreturn hend (.inr hflush) 2
  rw [hprinted, hmarker] at hread
  exact ⟨rfl, hreturn, hend, hflush, hprinted, hread⟩

end Printing

/-! ## Items in a source -/

/-- Whether a text is the marker of a list item. -/
inductive IsListMarker : List Char → Prop where
  | bullet {c : Char} : isBullet c = true → IsListMarker [c]
  | number {digits : List Char} {c : Char} : digits ≠ [] → (∀ d ∈ digits, d.isDigit = true) →
      c = '.' ∨ c = ')' → IsListMarker (digits ++ [c])

theorem IsListMarker.isBlank_eq_false {marker : List Char} (h : IsListMarker marker) :
    ∀ c ∈ marker, isBlank c = false := by
  cases h with
  | bullet hc => exact List.forall_mem_singleton.mpr (isBlank_of_isBullet hc)
  | number hne hdigits hc =>
    intro c' hc'
    rcases List.mem_append.mp hc' with hc' | hc'
    · exact isBlank_of_isDigit (hdigits c' hc')
    · rw [List.mem_singleton.mp hc']
      rcases hc with rfl | rfl <;> decide

/-- The source of an item with text in its first line. -/
structure ItemSource where
  marker : List Char
  /-- The blanks behind the marker. -/
  gap : List Char
  /-- The rest of the first line. -/
  text : List Char
  /-- The further lines, with the line feed before them. -/
  more : List Char
  isListMarker : IsListMarker marker
  gap_ne_nil : gap ≠ []
  isGap : ∀ c ∈ gap, c = ' ' ∨ c = '\t'
  isLine : '\n' ∉ text
  isVisible : allBlank text = false
  isMore : ∀ c ∈ more.head?, c = '\n'

namespace ItemSource

/-- The item as it is written. -/
def written (i : ItemSource) : List Char := i.marker ++ i.gap ++ i.text ++ i.more

/-- Whether the marker is a bullet with a space behind it. -/
def IsBulleted (i : ItemSource) : Prop :=
  (∃ c, i.marker = [c] ∧ isBullet c = true) ∧ i.gap.head? = some ' '

theorem notMem_line (i : ItemSource) : '\n' ∉ i.marker ++ i.gap ++ i.text := by
  simp only [List.mem_append, not_or]
  refine ⟨⟨fun hmarker => ?_, fun hgap => ?_⟩, i.isLine⟩
  · exact absurd (i.isListMarker.isBlank_eq_false _ hmarker) (by decide)
  · exact absurd (i.isGap _ hgap) (by decide)

end ItemSource

/-- Whether all that is visible of a text stands in the first line of a content, in order. -/
def KeepsText (text content : List Char) : Prop :=
  (visible text).Sublist ((lines content).headD [])

/-! ## The first line of a content -/

theorem afterBullet_eq_nil (h : ∀ c ∈ ((trimStart line).dropWhile isBullet).head?, c ≠ ' ') :
    afterBullet line = [] := by
  unfold afterBullet
  split
  · next heq => exact absurd rfl (h ' ' (by rw [heq]; rfl))
  · rfl

theorem isBullet_of_isDigit (h : c.isDigit = true) : isBullet c = false := by
  refine Bool.eq_false_iff.mpr fun hc => ?_
  simp only [isBullet, Bool.or_eq_true, decide_eq_true_eq] at hc
  rcases hc with (rfl | rfl) | rfl <;> exact absurd h (by decide)

/-- Nothing is left of a line unless a bullet and a space stand at its start. -/
theorem afterBullet_of_not_isBulleted {i : ItemSource} (h : ¬ i.IsBulleted) (rest : List Char) :
    afterBullet (i.marker ++ i.gap ++ rest) = [] := by
  have hmarker := i.isListMarker
  have hisGap := i.isGap
  have hnot : ∀ c, i.marker = [c] → isBullet c = true → i.gap.head? ≠ some ' ' :=
    fun c hc hbullet hspace => h ⟨⟨c, hc, hbullet⟩, hspace⟩
  obtain ⟨g, gap, hgap⟩ := List.exists_cons_of_ne_nil i.gap_ne_nil
  rw [hgap] at hisGap hnot ⊢
  generalize i.marker = marker at hmarker hnot ⊢
  cases hmarker with
  | @bullet c hc =>
    obtain rfl : g = '\t' := (hisGap g List.mem_cons_self).resolve_left fun hg =>
      hnot c rfl hc (by rw [hg]; rfl)
    refine afterBullet_eq_nil fun c' hc' => ?_
    rw [List.append_assoc, List.singleton_append, trimStart_cons (isBlank_of_isBullet hc),
      List.dropWhile_cons_of_pos hc] at hc'
    have htab : '\t' = c' := Option.some.inj hc'
    rw [← htab]
    decide
  | @number digits c hne hdigits _ =>
    obtain ⟨d, digits, rfl⟩ := List.exists_cons_of_ne_nil hne
    have hd := hdigits d List.mem_cons_self
    refine afterBullet_eq_nil fun c' hc' => ?_
    rw [List.cons_append, List.cons_append, List.cons_append,
      trimStart_cons (isBlank_of_isDigit hd),
      List.dropWhile_cons_of_neg (Bool.eq_false_iff.mp (isBullet_of_isDigit hd))] at hc'
    obtain rfl := Option.some.inj hc'
    rintro rfl
    exact absurd hd (by decide)

/-- A content begins with what stands behind the bullet, and goes on with further lines. -/
theorem exists_bulletContent_eq {source first : List Char} {rest : List (List Char)}
    (h : lines (trimEnd source) = first :: rest) :
    ∃ more, bulletContent source = trimEnd (afterBullet first ++ more) ∧
      ∀ c ∈ more.head?, c = '\n' := by
  obtain ⟨more, hjoin, hmore⟩ := exists_joinWith_cons '\n' (afterBullet first)
    (rest.map (dedent (commonIndent rest)))
  refine ⟨more, ?_, hmore⟩
  rw [bulletContent, h]
  dsimp only
  rw [hjoin]

/-- **The text of an item is kept exactly behind a bullet and a space.** -/
theorem keepsText_iff (i : ItemSource) :
    KeepsText i.text (bulletContent i.written) ↔ i.IsBulleted := by
  obtain ⟨kept, rest, hlines, hstart, hvisible⟩ :=
    exists_lines_trimEnd i.notMem_line i.isVisible i.isMore
  obtain ⟨more, hcontent, hmore⟩ := exists_bulletContent_eq hlines
  rw [KeepsText, ItemSource.written, hcontent]
  constructor
  · intro hkeeps
    by_contra hnot
    rw [afterBullet_of_not_isBulleted hnot, List.nil_append, headD_lines_eq_nil, List.sublist_nil,
      visible_eq_nil_iff, i.isVisible] at hkeeps
    · cases hkeeps
    · exact fun c hc => hmore c (mem_head?_of_trimEnd hc)
  · rintro ⟨⟨c, hmarker, hc⟩, hgap⟩
    obtain ⟨gap, hgap⟩ := List.head?_eq_some_iff.mp hgap
    have hafter : afterBullet (i.marker ++ i.gap ++ kept) = gap ++ kept := by
      rw [hmarker, hgap]
      exact afterBullet_space hc (gap ++ kept)
    have hbreak : '\n' ∉ gap ++ kept := fun hmem => by
      refine i.notMem_line ?_
      rw [hmarker, hgap]
      rcases List.mem_append.mp hmem with hmem | hmem
      · exact List.mem_append_left _ (by simp [hmem])
      · exact List.mem_append_right _ (hstart.subset hmem)
    have hkept : allBlank kept = false := by
      rw [← i.isVisible, Bool.eq_iff_iff, ← visible_eq_nil_iff, ← visible_eq_nil_iff, hvisible]
    obtain ⟨kept', rest', hlines', -, hvisible'⟩ := exists_lines_trimEnd hbreak hkept hmore
    rw [hafter, hlines', List.headD_cons, ← hvisible, ← hvisible']
    exact List.filter_sublist.trans (List.sublist_append_right gap kept')

/-- **An item keeps its text exactly behind a bullet and a space,** and so does every item that is
read from a document: it has the content of the part of the source where it starts. -/
theorem item_text_kept_iff (i : ItemSource) :
    (KeepsText i.text (bulletContent i.written) ↔ i.IsBulleted) ∧
    ∀ (source : List Char) (events : List Event) (pages : List DraftPage),
      DraftPage.ofEvents source events = .ok pages →
        ∀ page ∈ pages, ∀ item ∈ DraftItem.flatten page.items,
          ∃ span stop, .itemStart span ∈ events ∧ stop ≤ span.stop ∧
            item.content = bulletContent (slice source span.start stop) ∧
            (slice source span.start stop = i.written →
              (KeepsText i.text item.content ↔ i.IsBulleted)) := by
  refine ⟨keepsText_iff i, fun source events pages h page hpage item hitem => ?_⟩
  obtain ⟨span, stop, hspan, hstop, hcontent⟩ := content_of_mem_flatten h hpage hitem
  refine ⟨span, stop, hspan, hstop, hcontent, fun hwritten => ?_⟩
  rw [hcontent, hwritten]
  exact keepsText_iff i

/-- An item with a space and a tab behind its bullet, and with a further line. -/
def spacedItem : ItemSource where
  marker := ['*']
  gap := [' ', '\t']
  text := ['o', 'n', 'e']
  more := ['\n', ' ', ' ', 't', 'w', 'o']
  isListMarker := .bullet (by decide)
  gap_ne_nil := by decide
  isGap := List.forall_mem_cons.mpr ⟨.inl rfl, List.forall_mem_singleton.mpr (.inr rfl)⟩
  isLine := by decide
  isVisible := by decide
  isMore := fun _ hc => (Option.some.inj hc).symm

theorem keepsText_spacedItem :
    spacedItem.IsBulleted ∧ KeepsText spacedItem.text (bulletContent spacedItem.written) := by
  have hbulleted : spacedItem.IsBulleted := ⟨⟨'*', rfl, by decide⟩, rfl⟩
  exact ⟨hbulleted, (item_text_kept_iff spacedItem).1.mpr hbulleted⟩

/-- An item with a tab behind its bullet. -/
def tabbedItem : ItemSource where
  marker := ['-']
  gap := ['\t']
  text := ['o', 'n', 'e']
  more := []
  isListMarker := .bullet (by decide)
  gap_ne_nil := by decide
  isGap := List.forall_mem_singleton.mpr (.inr rfl)
  isLine := by decide
  isVisible := by decide
  isMore := nofun

/-- An item with a number. -/
def numberedItem : ItemSource where
  marker := ['1', '.']
  gap := [' ']
  text := ['o', 'n', 'e']
  more := []
  isListMarker :=
    .number (List.cons_ne_nil '1' []) (List.forall_mem_singleton.mpr (by decide)) (.inl rfl)
  gap_ne_nil := by decide
  isGap := List.forall_mem_singleton.mpr (.inl rfl)
  isLine := by decide
  isVisible := by decide
  isMore := nofun

/-- An item with a tab behind its bullet loses its text, and so does an item with a number. Read
from a document, they are blocks without content. -/
theorem not_keepsText :
    (¬ ∀ i : ItemSource, KeepsText i.text (bulletContent i.written)) ∧
    bulletContent tabbedItem.written = [] ∧ bulletContent numberedItem.written = [] ∧
    Graph.ofSource "# A\n\n-\tone\n" 0 = .ok (numberPages 1 [⟨"A", .empty, [⟨[], []⟩]⟩]) ∧
    Graph.ofSource "# A\n\n1. one\n" 0 = .ok (numberPages 1 [⟨"A", .empty, [⟨[], []⟩]⟩]) := by
  have htabbed : bulletContent tabbedItem.written = [] := by decide
  refine ⟨fun h => ?_, htabbed, by decide, by cbv, by cbv⟩
  have hkeeps : KeepsText ['o', 'n', 'e'] (bulletContent tabbedItem.written) := h tabbedItem
  rw [htabbed] at hkeeps
  exact absurd hkeeps (by unfold KeepsText; decide)

end Stencil.Graph

