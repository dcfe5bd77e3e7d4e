import Stencil.Proofs.Program.Spans
import Stencil.Proofs.Script.Depth

/-!
# Where sources are at fault

Every error of a source lies in it, between two characters, and carries the line and column of its
start. An error in the body of a tag lies between the markers of the tag, whatever the body is read
as, and carries the line of the tag.

* `bodyOf_outcome` and `segmentsFrom_outcome`: the faults of the search for tags.
* `ofTag_outcome`: the faults of a tag. The bytes of an expanded script are not bytes of the source;
  there the whole tag is at fault.
* `compile_located`: the errors of a source, and the one error that concerns no source: that the
  pattern of the tags is refused (`not_located_of_refused`).
* `compile_cause_ne_tooDeep`: the depth that the parser is allowed never runs out.
-/

namespace Stencil

open Script Text Window

section Search

variable {w : Window} {tags : TagSet} {tag : Tag} {opening : Span} {offset : Nat} {cs : List Char}

/-- The search for a closing marker is at fault in the text that it goes over, or in the opening
marker. -/
theorem bodyOf_outcome (hopening : w.Shows opening) (h : w.Holds offset cs) :
    w.Outcome (fun _ => True) (bodyOf tag opening offset cs) := by
  fun_induction bodyOf tag opening offset cs with
  | case1 => exact hopening
  | case2 => trivial
  | case3 offset c cs _ _ ih => exact (ih h.tail).bind fun _ _ => trivial
  | case4 => exact h.shows
  | case5 offset c cs _ shield _ after hafter passed =>
    rename_i ih
    have hsplit : c :: cs = passed ++ after := Shield.append_of_after? hafter
    rw [hsplit] at h
    exact (ih h.right).bind fun _ _ => trivial

/-- The search for tags is at fault in the text that it goes over. -/
theorem segmentsFrom_outcome {seen : List Char} (h : w.Holds offset cs) :
    w.Outcome (fun _ => True) (segmentsFrom tags offset seen cs) := by
  fun_induction segmentsFrom tags offset seen cs with
  | case1 => trivial
  | case2 offset seen c cs _ ih => exact ih h.tail
  | case3 offset seen cs tag inside hfound bodyStart ihreject =>
    rename_i ihaccept
    obtain ⟨-, hopen⟩ := TagSet.append_of_foundAt? hfound
    have hmarker : w.Holds offset (tag.openMark.toList ++ inside) := hopen ▸ h
    have hinside : w.Holds bodyStart inside := hmarker.right
    refine (bodyOf_outcome hmarker.left.shows hinside).bind_of_ok ?_
    rintro ⟨body, rest⟩ hbody
    dsimp only
    split
    · cases cs with
      | nil => trivial
      | cons c cs => exact ihreject h.tail
    · split
      · next hshorter =>
        have hrest : w.Holds (FoundTag.span ⟨tag, offset, body⟩).stop rest := by
          rw [append_of_bodyOf hbody] at hinside
          have hrest := hinside.right
          rwa [byteLength_append, ← Nat.add_assoc] at hrest
        exact (ihaccept body rest hshorter hrest).bind fun _ _ => trivial
      · exact h.marks.shows

/-- The faults of a source lie in it. -/
theorem segments_outcome (tags : TagSet) (source : List Char) :
    Outcome ⟨source, ⟨0, byteLength source⟩⟩ (fun _ => True) (Segment.ofSource tags source) := by
  have hsource := @holds_between source [] []
  rw [List.append_nil, List.nil_append, byteLength_nil, Nat.zero_add] at hsource
  exact segmentsFrom_outcome hsource

end Search

/-! ## Tags -/

/-- A tag is at fault between its markers. -/
theorem ofTag_outcome {source : List Char} {found : FoundTag} (h : found.StandsIn source) :
    Outcome ⟨source, found.span⟩ (fun _ => True) (Instruction.ofTag found) := by
  unfold Instruction.ofTag
  cases hstep : Instruction.ofScript found with
  | ok step => trivial
  | error fault =>
    show Shows _ (if found.tag.holdsScript = true then fault else _).span
    split
    · next hscript =>
      have hbody := h.holds_body
      rw [← FoundTag.scriptOf_of_holdsScript hscript] at hbody
      have hfault := script_outcome hbody
      rwa [hstep] at hfault
    · exact h.shows_span

/-- Segments fail to compile where one of their tags does. -/
theorem exists_tag_of_compileSegments {source : List Char} {file : Nat} {e : SyntaxError} :
    ∀ {segments : List Segment} {trim : TrailingTrim},
      Program.compileSegments source file trim segments = .error e →
      ∃ found fault, .tag found ∈ segments ∧ Instruction.ofTag found = .error fault ∧
        e = ((SyntaxError.ofFault fault file).locate source).addNote (found.note source)
  | [], _, h => nomatch h
  | .text value :: segments, trim, h => by
    obtain h | ⟨steps, -, h⟩ := bind_eq_error_iff.mp h
    · obtain ⟨found, fault, hfound, hfault⟩ := exists_tag_of_compileSegments h
      exact ⟨found, fault, List.mem_cons_of_mem _ hfound, hfault⟩
    · exact nomatch h
  | .tag found :: segments, trim, h => by
    obtain h | ⟨step, -, h⟩ := bind_eq_error_iff.mp h
    · obtain ⟨fault, hfault, heq⟩ := mapError_eq_error_iff.mp h
      exact ⟨found, fault, List.mem_cons_self, hfault, heq.symm⟩
    · obtain h | ⟨steps, -, h⟩ := bind_eq_error_iff.mp h
      · obtain ⟨other, fault, hother, hfault⟩ := exists_tag_of_compileSegments h
        exact ⟨other, fault, List.mem_cons_of_mem _ hother, hfault⟩
      · exact nomatch h

/-! ## Sources -/

/-- **Every error of a source is located in it, if the pattern of the tags is built.** Its span is a
part of the source, with both ends between characters, and its line and column are those of the
start. If the error does not come from the search for tags, it comes from a tag of the source: then
the span lies between the markers of the tag, and the only note names the line on which the tag
starts. If the pattern is refused, the error says so and has no place. -/
theorem compile_located {tags : TagSet} {source : String} {file : Nat} {e : SyntaxError}
    (h : Program.compile tags source file = .error e) :
    (∀ reason, tags.refusal? = some reason → e =
      { cause := .invalidTable reason, span := ⟨0, 0⟩, file, notes := [], line := 0,
        column := 0 }) ∧
    (tags.refusal? = none →
      Shows ⟨source.toList, ⟨0, byteLength source.toList⟩⟩ e.span ∧ e.file = file ∧
      (e.line, e.column) = position source.toList e.span.start ∧ 1 ≤ e.line ∧
      ((Segment.ofSource tags source.toList = .error e.toFault ∧ e.notes = []) ∨
        ∃ segments found, Segment.ofSource tags source.toList = .ok segments ∧
          .tag found ∈ segments ∧
          Instruction.ofTag found = .error e.toFault ∧
          Shows ⟨source.toList, found.span⟩ e.span ∧
          e.notes = [.inTag (position source.toList found.start).1
            (String.ofList (firstLine found.source))])) := by
  refine ⟨fun reason hrefused => ?_, fun hbuilds => ?_⟩
  · rw [Program.compile_of_refused hrefused] at h
    exact (Except.error.inj h).symm
  · rw [Program.compile_of_builds hbuilds] at h
    obtain h | ⟨segments, hsegments, h⟩ := bind_eq_error_iff.mp h
    · obtain ⟨fault, hfault, rfl⟩ := mapError_eq_error_iff.mp h
      have hshows := segments_outcome tags source.toList
      rw [hfault] at hshows
      exact ⟨hshows, rfl, rfl, Nat.le_add_left _ _, .inl ⟨hfault, rfl⟩⟩
    · have hsegments := mapError_eq_ok_iff.mp hsegments
      obtain h | ⟨steps, -, h⟩ := bind_eq_error_iff.mp h
      · obtain ⟨found, fault, hfound, hfault, rfl⟩ := exists_tag_of_compileSegments h
        have hstands := FoundTag.standsIn_of_mem hsegments hfound
        have hshows : Shows ⟨source.toList, found.span⟩ fault.span := by
          have houtcome := ofTag_outcome hstands
          rwa [hfault] at houtcome
        exact ⟨hshows.widen hstands.span_inside, rfl, rfl, Nat.le_add_left _ _,
          .inr ⟨segments, found, hsegments, hfound, hfault, hshows, rfl⟩⟩
      · exact nomatch h

/-- A parenthesis that closes nothing, in a hole of a template literal on the second line, behind a
character of two bytes. -/
theorem compile_located_hole :
    let source := "ä\n``x + `b$\x7b)\x7d` ``"
    ∃ e, Program.compile .standard source 7 = .error e ∧ e.span = ⟨13, 14⟩ ∧
      Shows ⟨source.toList, ⟨0, byteLength source.toList⟩⟩ e.span ∧
      (e.line, e.column) = (2, 11) := by
  intro source
  have hcompile : Program.compile .standard source 7 = .error
      { cause := .unexpectedToken "RParen", span := ⟨13, 14⟩, file := 7,
        notes := [.inTag 2 "``x + `b$\x7b)\x7d` ``"], line := 2, column := 11 } := by cbv
  obtain ⟨hshows, -⟩ := (compile_located hcompile).2 TagSet.refusal?_standard
  exact ⟨_, hcompile, rfl, hshows, rfl⟩

/-! ## The bound on the depth -/

theorem unclosed_ne_tooDeep (shield : Shield) : shield.unclosed ≠ .tooDeep := by
  cases shield <;> exact Cause.noConfusion

theorem bodyOf_within (tag : Tag) (opening : Span) (offset : Nat) (cs : List Char) :
    Within (fun _ => True) (bodyOf tag opening offset cs) := by
  fun_induction bodyOf tag opening offset cs with
  | case1 => exact Cause.noConfusion
  | case2 => trivial
  | case3 offset c cs _ _ ih => exact ih.bind fun _ _ => trivial
  | case4 => exact unclosed_ne_tooDeep _
  | case5 offset c cs _ shield _ after hafter passed =>
    rename_i ih
    exact ih.bind fun _ _ => trivial

theorem segmentsFrom_within (tags : TagSet) (offset : Nat) (seen cs : List Char) :
    Within (fun _ => True) (segmentsFrom tags offset seen cs) := by
  fun_induction segmentsFrom tags offset seen cs with
  | case1 => trivial
  | case2 offset seen c cs _ ih => exact ih
  | case3 offset seen cs tag inside hfound bodyStart ihreject =>
    rename_i ihaccept
    refine (bodyOf_within tag _ _ inside).bind ?_
    rintro ⟨body, rest⟩ -
    dsimp only
    split
    · cases cs with
      | nil => trivial
      | cons c cs => exact ihreject
    · split
      · next hshorter => exact (ihaccept body rest hshorter).bind fun _ _ => trivial
      · exact Cause.noConfusion

theorem ofTag_within (found : FoundTag) : Within (fun _ => True) (Instruction.ofTag found) := by
  have hscript : Within (fun _ => True) (Instruction.ofScript found) := by
    unfold Instruction.ofScript
    dsimp only
    split
    · exact (Statement.ofScript_within _ _).map fun _ _ => trivial
    · exact (Expr.ofScript_within _ _).map fun _ _ => trivial
  unfold Instruction.ofTag
  cases hstep : Instruction.ofScript found with
  | ok step => trivial
  | error fault =>
    have hcause := hscript.cause_ne hstep
    show (if found.tag.holdsScript = true then fault else _).cause ≠ .tooDeep
    split <;> exact hcause

/-- **No source is refused because its scripts are nested too deeply.** -/
theorem compile_cause_ne_tooDeep {tags : TagSet} {source : String} {file : Nat} {e : SyntaxError}
    (h : Program.compile tags source file = .error e) : e.cause ≠ .tooDeep := by
  cases hrefusal : tags.refusal? with
  | some reason =>
    rw [Program.compile_of_refused hrefusal] at h
    cases h
    exact Cause.noConfusion
  | none =>
    rw [Program.compile_of_builds hrefusal] at h
    obtain h | ⟨segments, hsegments, h⟩ := bind_eq_error_iff.mp h
    · obtain ⟨fault, hfault, rfl⟩ := mapError_eq_error_iff.mp h
      exact (segmentsFrom_within tags 0 [] source.toList).cause_ne hfault
    · obtain h | ⟨steps, -, h⟩ := bind_eq_error_iff.mp h
      · obtain ⟨found, fault, -, hfault, rfl⟩ := exists_tag_of_compileSegments h
        exact (ofTag_within found).cause_ne hfault
      · exact nomatch h

/-! ## A pattern that is refused -/

/-- A single tag is refused if its opening marker is too long. -/
theorem refusal?_push_empty {tag : Tag}
    (h : Refusal.limit < 32 * tag.openMark.utf8ByteSize + 208) :
    (TagSet.empty.push tag).refusal? =
      some "Compiled regex exceeds size limit of 10485760 bytes." := by
  have hopens : (TagSet.empty.push tag).opens = [tag.openMark] := List.mergeSort_singleton _
  rw [TagSet.refusal?, hopens]
  show Refusal.ofSize [tag.openMark] = _
  rw [Refusal.ofSize, Refusal.bytes, List.foldl_cons, List.foldl_nil, Nat.zero_add, if_pos h]
  rfl

/-- A tag whose opening marker has `n` bytes. -/
def longTag (n : Nat) : Tag :=
  { openMark := String.ofList (List.replicate n 'a'), closeMark := ">" }

theorem utf8ByteSize_longTag (n : Nat) : (longTag n).openMark.utf8ByteSize = n := by
  rw [← byteLength_toList, longTag, String.toList_ofList]
  induction n with
  | zero => rfl
  | succ n ih =>
    rw [List.replicate_succ, byteLength_cons, ih]
    exact Nat.add_comm 1 n

/-- The error of such a tag is not located, although neither of its markers is empty: it has line 0
in every source. -/
theorem not_located_of_refused :
    (longTag 400000).openMark ≠ "" ∧ (longTag 400000).closeMark ≠ "" ∧
    ∃ e, Program.compile (TagSet.empty.push (longTag 400000)) "x" 0 = .error e ∧
      (e.line, e.column) ≠ position "x".toList e.span.start ∧ ¬ 1 ≤ e.line := by
  have hsize := utf8ByteSize_longTag 400000
  have hopen : (longTag 400000).openMark ≠ "" := by
    intro hempty
    rw [hempty] at hsize
    exact absurd hsize (by decide)
  have hclose : ">" ≠ "" := by decide
  have hrefused : (TagSet.empty.push (longTag 400000)).refusal? = _ :=
    refusal?_push_empty (by rw [hsize]; decide)
  exact ⟨hopen, hclose, _, Program.compile_of_refused hrefused "x" 0, by decide, by decide⟩

end Stencil
