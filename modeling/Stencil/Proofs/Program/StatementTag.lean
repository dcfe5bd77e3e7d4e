import Stencil.Proofs.Script.Relocation
import Stencil.Proofs.Tag.Agreement
import Stencil.Proofs.Tag.Standard

/-!
# Statements in a tag

A script between the markers of the statement tag is compiled to one instruction, with the
statements that the script has by itself.

* `foundAt?_standard_statements`: the marker is the one of the tag, unless an underscore follows.
* `segments_statementTag` and `ofTag_statementTag`: the tag is found whole and its script is read.
* `compile_statementTag`: both together, for legible scripts.
* `not_compile_apostrophe`: a script that is not legible, and cannot be compiled.
-/

namespace Stencil

open Script Text

/-- The standard tag for statements that drops one line break after it. -/
def statementTag : Tag :=
  { openMark := "``\x7b", closeMark := "\x7d``", trim := .newline,
    classify := some TagSet.alwaysStatements }

theorem foundAt?_standard_statements {rest : List Char} (h : rest.head? ≠ some '_') :
    TagSet.standard.foundAt? ('`' :: '`' :: '\x7b' :: rest) = some (statementTag, rest) := by
  have hlong : "``\x7b_".toList.isPrefixOf? ('`' :: '`' :: '\x7b' :: rest) = none := by
    cases rest with
    | nil => rfl
    | cons c cs =>
      have hc : '_' ≠ c := fun heq => h (heq ▸ rfl)
      show List.isPrefixOf? ['_'] (c :: cs) = none
      exact isPrefixOf?_cons_ne hc [] cs
  have hplain : "``".toList.isPrefixOf? ('`' :: '`' :: '\x7b' :: rest) = some ('\x7b' :: rest) :=
    isPrefixOf?_append ['`', '`'] ('\x7b' :: rest)
  have htag : statementTag ∈ TagSet.standard.tags := by simp [TagSet.tags_standard, statementTag]
  refine TagSet.foundAt?_of_longest htag fun other hother => ?_
  rw [TagSet.tags_standard] at hother
  simp only [List.mem_cons, List.not_mem_nil, or_false] at hother
  rcases hother with rfl | rfl | rfl | rfl | rfl | rfl
  · exact .inr fun after hafter => nomatch hlong.symm.trans hafter
  · exact .inl rfl
  · exact .inr nofun
  · exact .inr nofun
  · exact .inr nofun
  · exact .inr fun after hafter => Option.some.inj (hplain.symm.trans hafter) ▸ Nat.lt_succ_self _

/-- The marker does not start inside of a text in which it does not occur. -/
theorem noMarker_statementTag {cs : List Char} (h : ¬ ['\x7d', '`', '`'] <:+: cs) :
    NoMarker ['\x7d', '`', '`'] cs := by
  intro suffix hsuffix hne
  cases hprefix : List.isPrefixOf? ['\x7d', '`', '`'] (suffix ++ ['\x7d', '`', '`']) with
  | none => rfl
  | some rest =>
    have heq := append_eq_of_isPrefixOf? hprefix
    match suffix, hne with
    | [_], _ => simp at heq
    | [_, _], _ => simp at heq
    | c :: d :: e :: ds, _ =>
      simp only [List.cons_append, List.nil_append, List.cons.injEq] at heq
      obtain ⟨rfl, rfl, rfl, -⟩ := heq
      exact absurd (.trans ⟨[], ds, rfl⟩ hsuffix.isInfix) h

section StatementTag

variable {body : List Char}

theorem bodyStart_statementTag (body : List Char) :
    (⟨statementTag, 0, body⟩ : FoundTag).bodyStart = 3 := by
  have hopen : byteLength statementTag.openMark.toList = 3 := by decide
  rw [FoundTag.bodyStart, hopen]

theorem span_statementTag (body : List Char) :
    (⟨statementTag, 0, body⟩ : FoundTag).span = ⟨0, 6 + byteLength body⟩ := by
  have hclose : byteLength statementTag.closeMark.toList = 3 := by decide
  unfold FoundTag.span
  rw [bodyStart_statementTag, hclose, Nat.add_right_comm]

/-- A legible script between the markers is found as one tag. -/
theorem segments_statementTag (hstart : body.head? ≠ some '_')
    (hmarker : ¬ ['\x7d', '`', '`'] <:+: body) (hlegible : Legible .script body) :
    Segment.ofSource .standard ('`' :: '`' :: '\x7b' :: (body ++ ['\x7d', '`', '`'])) =
      .ok [.tag ⟨statementTag, 0, body⟩] := by
  have hhead : (body ++ ['\x7d', '`', '`']).head? ≠ some '_' := head?_append_ne hstart (by decide)
  have hbody : ∀ opening offset,
      bodyOf statementTag opening offset (body ++ ['\x7d', '`', '`']) = .ok (body, []) :=
    hlegible.agrees (rfl : statementTag.holdsScript = true) nofun nofun
      (noMarker_statementTag hmarker)
  have hopen : statementTag.openMark.toList = ['`', '`', '\x7b'] := by decide
  have hfound := foundAt?_standard_statements hhead
  have hsegments := @segments_of_tag .standard statementTag body (body ++ ['\x7d', '`', '`'])
  rw [hopen] at hsegments
  exact hsegments (List.cons_ne_nil _ _) (TagSet.foundAt?_standard_eq_none nofun) hfound hbody
    (Bool.and_false _)

theorem ofTag_statementTag {statements : List Statement}
    (hread : Statement.ofScript 0 body = .ok statements) :
    Instruction.ofTag ⟨statementTag, 0, body⟩ =
      .ok (.execute (shift 3 statements) ⟨0, 6 + byteLength body⟩) := by
  have hscript : Statement.ofScript 3 body = .ok (shift 3 statements) := by
    rw [statements_shift 3 0 body, hread]
    rfl
  rw [← span_statementTag body, Instruction.ofTag, Instruction.ofScript]
  show ((Statement.ofScript (⟨statementTag, 0, body⟩ : FoundTag).bodyStart body).map _).mapError _ =
    _
  rw [bodyStart_statementTag, hscript]
  rfl

/-- A legible script between the markers of the statement tag. -/
theorem compile_statementTag {body : String} {statements : List Statement}
    (hread : Statement.ofScript 0 body.toList = .ok statements)
    (hstart : body.toList.head? ≠ some '_') (hmarker : ¬ "\x7d``".toList <:+: body.toList)
    (hlegible : Legible .script body.toList) (file : Nat) :
    Program.compile .standard ("``\x7b" ++ body ++ "\x7d``") file =
      .ok ⟨[.execute (shift 3 statements) ⟨0, 6 + byteLength body.toList⟩], file⟩ := by
  have hsource : ("``\x7b" ++ body ++ "\x7d``").toList =
      '`' :: '`' :: '\x7b' :: (body.toList ++ ['\x7d', '`', '`']) := by
    rw [String.toList_append, String.toList_append]
    rfl
  refine compile_of_tag TagSet.refusal?_standard ?_ (ofTag_statementTag hread) file
  rw [hsource]
  exact segments_statementTag hstart hmarker hlegible

/-- A script with a template literal and a line comment. -/
def commented : String := "`$\x7by\x7d` // done"

theorem legible_commented : Legible .script commented.toList := by
  have hspelling : commented.toList = '`' :: ("$\x7by\x7d`".toList ++ " // done".toList) := by
    decide +kernel
  have hread : readToken 0 '`' ("$\x7by\x7d`".toList ++ " // done".toList) =
      .ok (some (.template "$\x7by\x7d".toList 1), " // done".toList) := rfl
  have hhole : Legible .hole ['y'] :=
    @Legible.token .hole 'y' [] [] (.name "y") (by decide) rfl (fun _ => rfl) nofun .nil
  have htemplate : Legible .template "$\x7by\x7d".toList := .hole rfl hhole .nil
  have hcomment : Legible .script " // done".toList :=
    @Legible.pass .script ' ' [] "// done".toList (by decide) rfl (by decide)
      (@Legible.pass .script '/' "/ done".toList [] (by decide) rfl (by decide) .nil)
  rw [hspelling]
  refine .token (by decide) hread nofun (fun body offset heq => ?_) hcomment
  rw [← (Token.template.inj heq).1]
  exact htemplate

theorem compile_commented : ∃ statements, Statement.ofScript 0 commented.toList = .ok statements ∧
    commented.toList.head? ≠ some '_' ∧ ¬ "\x7d``".toList <:+: commented.toList ∧
    Legible .script commented.toList ∧
    Program.compile .standard ("``\x7b" ++ commented ++ "\x7d``") 0 =
      .ok ⟨[.execute (shift 3 statements) ⟨0, 6 + byteLength commented.toList⟩], 0⟩ := by
  have hok : (Statement.ofScript 0 commented.toList).isOk = true := by decide +kernel
  have hstart : commented.toList.head? ≠ some '_' := by decide +kernel
  have hmarker : ¬ "\x7d``".toList <:+: commented.toList := by decide +kernel
  cases hread : Statement.ofScript 0 commented.toList with
  | error fault =>
    rw [hread] at hok
    exact nomatch hok
  | ok statements =>
    exact ⟨statements, rfl, hstart, hmarker, legible_commented,
      compile_statementTag hread hstart hmarker legible_commented 0⟩

/-- An apostrophe in a line comment is taken for the start of a quoted text. -/
theorem not_compile_apostrophe : (Statement.ofScript 0 "// it's".toList).isOk = true ∧
    "// it's".toList.head? ≠ some '_' ∧ ¬ "\x7d``".toList <:+: "// it's".toList ∧
    (Program.compile .standard ("``\x7b" ++ "// it's" ++ "\x7d``") 0).isOk = false := by
  refine ⟨by decide +kernel, by decide +kernel, by decide +kernel, ?_⟩
  have hsource : ("``\x7b" ++ "// it's" ++ "\x7d``").toList =
      '`' :: '`' :: '\x7b' :: "// it's\x7d``".toList := by
    decide +kernel
  have hfound := @foundAt?_standard_statements "// it's\x7d``".toList (by decide)
  have hbody : bodyOf statementTag ⟨0, 3⟩ 3 "// it's\x7d``".toList =
      .error ⟨.unterminatedText, ⟨8, 13⟩⟩ := by
    decide +kernel
  have hsegments : Segment.ofSource .standard ('`' :: '`' :: '\x7b' :: "// it's\x7d``".toList) =
      .error ⟨.unterminatedText, ⟨8, 13⟩⟩ := by
    rw [Segment.ofSource, segmentsFrom.eq_def, hfound]
    exact congrArg (· >>= _) hbody
  rw [Program.compile_of_builds TagSet.refusal?_standard, Program.compileSource, hsource,
    hsegments]
  rfl

end StatementTag

end Stencil
