import Stencil.Proofs.Program.Image
import Stencil.Proofs.Tag.Classification

/-!
# Expressions in plain tags

The class of a plain body is told from its first characters, and whether it is an expression by the
parser. What the characters show where they are taken for statements is a token that no expression
has: `let`, `if`, or an equals sign of its own.

* `exists_foreign_of_classifyPlain`: this token, in every body that is taken for statements.
* `classifyPlain_of_expr`: no expression is taken for statements.
* `Image.emit_mem`: the value of a tag with an expression is among the steps of the program.
* `plain_tag_emits`: so the value of an expression in a plain tag is emitted.
-/

namespace Stencil

open Script Text

variable {body : List Char} {value : Expr}

/-- A body that is taken for statements has a token that is none of an expression, and no separator
either. -/
theorem exists_foreign_of_classifyPlain {ts : List Token} (h : Scans body ts)
    (hclass : Tag.classifyPlain body = .statements) :
    ∃ t ∈ ts, (t.inExpr || t.isSeparator) = false := by
  rw [← List.takeWhile_append_dropWhile (p := isBlank) (l := body)] at h
  obtain ⟨others, rfl, hscans⟩ := h.blanks (List.all_eq_true.mp List.all_takeWhile)
  suffices hforeign : ∃ t ∈ others, (t.inExpr || t.isSeparator) = false by
    obtain ⟨t, ht, hnot⟩ := hforeign
    exact ⟨t, List.mem_append_right _ ht, hnot⟩
  rw [Tag.classifyPlain_eq_statements_iff] at hclass
  rcases hclass with hdeclare | hbranch | hassign
  · obtain ⟨d, rest, hscript, hd⟩ := Tag.startsWithWord_iff.mp hdeclare
    rw [trimStart] at hscript
    rw [hscript] at hscans
    obtain ⟨ts, rfl, -⟩ := Scans.keyword .declare hscans (continuesName_of_isBlank_or hd)
    exact ⟨.keyword .declare, List.mem_cons_self, rfl⟩
  · obtain ⟨d, rest, hscript, hd⟩ := Tag.startsWithWord_iff.mp hbranch
    rw [trimStart] at hscript
    rw [hscript] at hscans
    obtain ⟨ts, rfl, -⟩ := Scans.keyword .branch hscans (continuesName_of_isBlank_or hd)
    exact ⟨.keyword .branch, List.mem_cons_self, rfl⟩
  · obtain ⟨name, gap, rest, -, hname, hgap, hrest, hscript⟩ :=
      Tag.startsWithAssignment_iff.mp hassign
    rw [trimStart] at hscript
    rw [hscript] at hscans
    obtain ⟨words, ts, rfl, hrun, -⟩ := hscans.run (Tag.not_continues_gap hgap) hname
    obtain ⟨ts, rfl, hsign⟩ := hrun.blanks hgap
    obtain ⟨ts, rfl, -⟩ := hsign.assign hrest
    exact ⟨.symbol .assign, by simp, rfl⟩

/-- **No expression is taken for statements.** -/
theorem classifyPlain_of_expr {offset : Nat} (h : Expr.ofScript offset body = .ok value) :
    Tag.classifyPlain body = .expression := by
  obtain ⟨lexemes, hlexemes, hall⟩ := readWhole_tokens h
  refine Tag.classifyPlain_eq_expression fun hclass => ?_
  obtain ⟨t, ht, hforeign⟩ := exists_foreign_of_classifyPlain (scans_of_lexemes hlexemes) hclass
  exact nomatch hforeign.symm.trans (hall t ht)

/-- The steps of a program hold the value of each tag whose script is an expression and is not taken
for statements. -/
theorem Image.emit_mem {before : Option FoundTag} {segments : List Segment}
    {steps : List Instruction} {found : FoundTag} (h : Image before segments steps)
    (hfound : .tag found ∈ segments) (hclass : (found.tag.classOf found.body).statement = false)
    (hvalue : Expr.ofScript found.bodyStart (found.tag.scriptOf found.body) = .ok value) :
    .emit value found.tag.filter found.span ∈ steps := by
  induction h with
  | nil => exact absurd hfound List.not_mem_nil
  | swallowed _ _ ih => exact ih ((List.mem_cons.mp hfound).resolve_left nofun)
  | literal _ _ _ ih =>
    exact List.mem_cons_of_mem _ (ih ((List.mem_cons.mp hfound).resolve_left nofun))
  | emit _ hother _ ih =>
    obtain heq | hfound := List.mem_cons.mp hfound
    · obtain rfl := Segment.tag.inj heq
      obtain rfl := Except.ok.inj (hvalue.symm.trans hother)
      exact List.mem_cons_self
    · exact List.mem_cons_of_mem _ (ih hfound)
  | execute hother _ _ ih =>
    obtain heq | hfound := List.mem_cons.mp hfound
    · obtain rfl := Segment.tag.inj heq
      exact nomatch hclass.symm.trans hother
    · exact List.mem_cons_of_mem _ (ih hfound)

/-- **The value of an expression in a plain tag is emitted.** The body of the tag is not taken for
statements; the tag is compiled to the emission of its value, and where it stands in a source that
can be compiled this is a step of the program. -/
theorem plain_tag_emits (h : Expr.ofScript 0 body = .ok value) :
    Tag.classifyPlain body = .expression ∧
      ∀ start, Instruction.ofTag ⟨plainTag, start, body⟩ = .ok (.emit (shift (start + 2) value) true
          (⟨plainTag, start, body⟩ : FoundTag).span) ∧
        ∀ tags source file program segments, Program.compile tags source file = .ok program →
          Segment.ofSource tags source.toList = .ok segments →
          .tag ⟨plainTag, start, body⟩ ∈ segments →
          .emit (shift (start + 2) value) true (⟨plainTag, start, body⟩ : FoundTag).span ∈
            program.steps := by
  have hclass := classifyPlain_of_expr h
  refine ⟨hclass, fun start => ?_⟩
  have hmoved : Expr.ofScript (start + 2) body = .ok (shift (start + 2) value) := by
    rw [← Nat.add_zero (start + 2), expr_shift, h]
    rfl
  refine ⟨?_, fun tags source file program segments hcompile hsegments hfound => ?_⟩
  · rw [ofTag_plainTag, hclass, hmoved, if_neg (by decide)]
    rfl
  · obtain ⟨-, found, hfinds, hsteps⟩ := exists_segments_of_compile hcompile
    obtain rfl := Except.ok.inj (hsegments.symm.trans hfinds)
    have himage : Image none segments program.steps := image_compileSegments hsteps
    have hstart := @bodyStart_plainTag body start
    rw [← hstart] at hmoved ⊢
    exact himage.emit_mem hfound (congrArg BodyClass.statement hclass) hmoved

/-- A comparison of a name that starts like a declaration. -/
theorem plain_tag_emits_comparison : ∃ value program,
    Expr.ofScript 0 "letter == x".toList = .ok value ∧
    Tag.classifyPlain "letter == x".toList = .expression ∧
    Program.compile .standard "a``letter == x``" 0 = .ok program ∧
    .emit (shift 3 value) true ⟨1, 16⟩ ∈ program.steps := by
  let value : Expr := .binary .equal (.identifier "letter" ⟨0, 6⟩) (.identifier "x" ⟨10, 11⟩)
  have hvalue : Expr.ofScript 0 "letter == x".toList = .ok value := by cbv
  have hsegments : Segment.ofSource .standard "a``letter == x``".toList =
      .ok [.text ['a'], .tag ⟨plainTag, 1, "letter == x".toList⟩] := by cbv
  have hcompile : Program.compile .standard "a``letter == x``" 0 =
      .ok ⟨[.literal "a", .emit (shift 3 value) true ⟨1, 16⟩], 0⟩ := by cbv
  obtain ⟨hclass, htag⟩ := plain_tag_emits hvalue
  exact ⟨value, _, hvalue, hclass, hcompile, (htag 1).2 _ _ _ _ _ hcompile hsegments
    (List.mem_cons_of_mem _ List.mem_cons_self)⟩

end Stencil
