import Mathlib
import Stencil.Program
import Stencil.Proofs.Tag.Partition

/-!
# Programs are images of their segments

What `Program.compile` makes of the segments of a source. A tag gives one step, which carries the
span of the tag. Text gives the text itself, less what the tag directly before it swallows.

* `TrailingTrim.Drops` says what a policy takes away from the front of a text, without recourse to
  the function that does so; `TrailingTrim.drops_apply` is the agreement of the two.
* `Image` relates segments to steps in order; `image_compileSegments` holds of what is compiled.
* `lossless_compilation`: the segments of a source are a partition of it, and a program is the image
  of the segments of its source.
-/

namespace Stencil

open Script Text

/-! ## What a tag swallows -/

/-- Whether a policy parts a text into `dropped`, which is taken away, and `kept`. -/
def TrailingTrim.Drops : TrailingTrim → List Char → List Char → Prop
  | .keep, dropped, _ => dropped = []
  | .newline, dropped, kept =>
    dropped = ['\r', '\n'] ∨ dropped = ['\n'] ∨
      (dropped = [] ∧ ¬ ['\r', '\n'] <+: kept ∧ ¬ ['\n'] <+: kept)
  | .all, dropped, kept =>
    (∀ c ∈ dropped, isBlank c = true) ∧ ∀ c ∈ kept.head?, isBlank c = false

/-- What remains of a text is what its policy keeps. -/
theorem TrailingTrim.drops_apply (trim : TrailingTrim) (value : List Char) :
    ∃ dropped, value = dropped ++ trim.apply value ∧ trim.Drops dropped (trim.apply value) := by
  fun_cases TrailingTrim.apply trim value with
  | case1 => exact ⟨[], rfl, rfl⟩
  | case2 rest => exact ⟨['\r', '\n'], rfl, .inl rfl⟩
  | case3 rest => exact ⟨['\n'], rfl, .inr (.inl rfl)⟩
  | case4 value hcrlf hlf =>
    refine ⟨[], rfl, .inr (.inr ⟨rfl, ?_, ?_⟩)⟩
    · rintro ⟨rest, rfl⟩
      exact hcrlf rest rfl
    · rintro ⟨rest, rfl⟩
      exact hlf rest rfl
  | case5 value =>
    refine ⟨value.takeWhile isBlank, List.takeWhile_append_dropWhile.symm, fun c hc => ?_, ?_⟩
    · exact List.all_eq_true.mp List.all_takeWhile c hc
    · intro c hc
      have := List.head?_dropWhile_not isBlank value
      rw [trimStart] at hc
      rw [hc] at this
      exact this

/-- What the tag directly before a text swallows of it; without a tag there nothing is. -/
def trimAfter (before : Option FoundTag) : TrailingTrim :=
  match before with
  | some found => found.tag.trim
  | none => .keep

/-! ## Images -/

/-- The steps of segments that follow the tag `before` directly, or follow no tag. -/
inductive Image : Option FoundTag → List Segment → List Instruction → Prop where
  | nil {before : Option FoundTag} : Image before [] []
  /-- Text of which nothing is left. -/
  | swallowed {before : Option FoundTag} {value : List Char} {segments : List Segment}
      {steps : List Instruction} : (trimAfter before).Drops value [] →
      Image none segments steps → Image before (.text value :: segments) steps
  /-- Text of which something is left. -/
  | literal {before : Option FoundTag} {dropped kept : List Char} {segments : List Segment}
      {steps : List Instruction} : (trimAfter before).Drops dropped kept → kept ≠ [] →
      Image none segments steps →
      Image before (.text (dropped ++ kept) :: segments) (.literal (String.ofList kept) :: steps)
  /-- A tag whose body is an expression. -/
  | emit {before : Option FoundTag} {found : FoundTag} {value : Expr} {segments : List Segment}
      {steps : List Instruction} : (found.tag.classOf found.body).statement = false →
      Expr.ofScript found.bodyStart (found.tag.scriptOf found.body) = .ok value →
      Image (some found) segments steps →
      Image before (.tag found :: segments) (.emit value found.tag.filter found.span :: steps)
  /-- A tag whose body is run for its effects. -/
  | execute {before : Option FoundTag} {found : FoundTag} {body : List Statement}
      {segments : List Segment} {steps : List Instruction} :
      (found.tag.classOf found.body).statement = true →
      Statement.ofScript found.bodyStart (found.tag.scriptOf found.body) = .ok body →
      Image (some found) segments steps →
      Image before (.tag found :: segments) (.execute body found.span :: steps)

/-- The step of a tag is that of its class. -/
theorem image_tag {before : Option FoundTag} {found : FoundTag} {segments : List Segment}
    {step : Instruction} {steps : List Instruction} (hstep : Instruction.ofScript found = .ok step)
    (h : Image (some found) segments steps) :
    Image before (.tag found :: segments) (step :: steps) := by
  unfold Instruction.ofScript at hstep
  split at hstep
  · next hclass =>
    obtain ⟨body, hbody, rfl⟩ := map_eq_ok_iff.mp hstep
    exact .execute hclass hbody h
  · next hclass =>
    obtain ⟨value, hvalue, rfl⟩ := map_eq_ok_iff.mp hstep
    exact .emit (eq_false_of_ne_true hclass) hvalue h

/-- Compiled segments have their image as steps, whichever tag comes before them. -/
theorem image_compileSegments {source : List Char} {file : Nat} :
    ∀ {segments : List Segment} {before : Option FoundTag} {steps : List Instruction},
      Program.compileSegments source file (trimAfter before) segments = .ok steps →
      Image before segments steps
  | [], _, _, h => by
    rw [← Except.ok.inj h]
    exact .nil
  | .text value :: segments, before, steps, h => by
    obtain ⟨rest, hrest, heq⟩ := bind_eq_ok_iff.mp h
    have ih : Image none segments rest := image_compileSegments hrest
    obtain ⟨dropped, hvalue, hdrops⟩ := (trimAfter before).drops_apply value
    by_cases hkept : (trimAfter before).apply value = []
    · rw [hkept] at hvalue hdrops
      rw [hkept] at heq
      rw [← Except.ok.inj heq]
      rw [List.append_nil] at hvalue
      exact .swallowed (hvalue ▸ hdrops) ih
    · rw [if_neg (fun e => hkept (List.isEmpty_iff.mp e))] at heq
      rw [← Except.ok.inj heq]
      have himage := Image.literal hdrops hkept ih
      rw [← hvalue] at himage
      exact himage
  | .tag found :: segments, before, steps, h => by
    obtain ⟨step, hstep, h⟩ := bind_eq_ok_iff.mp h
    obtain ⟨rest, hrest, heq⟩ := bind_eq_ok_iff.mp h
    rw [← Except.ok.inj heq]
    exact image_tag (mapError_eq_ok_iff.mp (mapError_eq_ok_iff.mp hstep))
      (image_compileSegments hrest)

/-- The steps of a compiled source are those of its segments. -/
theorem exists_segments_of_compile {tags : TagSet} {source : String} {file : Nat}
    {program : Program} (h : Program.compile tags source file = .ok program) :
    program.file = file ∧ ∃ segments, Segment.ofSource tags source.toList = .ok segments ∧
      Program.compileSegments source.toList file .keep segments = .ok program.steps := by
  obtain ⟨segments, hsegments, h⟩ := bind_eq_ok_iff.mp (Program.compileSource_of_compile h).2
  obtain ⟨steps, hsteps, heq⟩ := bind_eq_ok_iff.mp h
  obtain rfl := Except.ok.inj heq
  exact ⟨rfl, segments, mapError_eq_ok_iff.mp hsegments, hsteps⟩

/-- **Neither cutting nor compiling loses anything.** The segments of a source are a partition of
it, and the steps of its program are the image of these segments. -/
theorem lossless_compilation (tags : TagSet) (source : String) :
    (∀ segments, Segment.ofSource tags source.toList = .ok segments →
      Partition tags source.toList segments) ∧
    ∀ file program, Program.compile tags source file = .ok program →
      program.file = file ∧ ∃ segments, Segment.ofSource tags source.toList = .ok segments ∧
        Partition tags source.toList segments ∧ Image none segments program.steps := by
  have hpartition : ∀ segments, Segment.ofSource tags source.toList = .ok segments →
      Partition tags source.toList segments :=
    fun segments h => partition_of_tiling (tiling_ofSource h)
  refine ⟨hpartition, fun file program h => ?_⟩
  obtain ⟨hfile, segments, hsegments, hsteps⟩ := exists_segments_of_compile h
  exact ⟨hfile, segments, hsegments, hpartition segments hsegments, image_compileSegments hsteps⟩

/-- A tag in the middle of a text, with a line break that it swallows. -/
theorem lossless_compilation_line_break :
    ∃ tags : TagSet, ∃ segments, ∃ program : Program,
      Segment.ofSource tags "a<x>\nb".toList = .ok segments ∧
      Partition tags "a<x>\nb".toList segments ∧ Image none segments program.steps ∧
      program = ⟨[.literal "a", .emit (.identifier "x" ⟨2, 3⟩) false ⟨1, 4⟩, .literal "b"], 0⟩ := by
  let tags : TagSet := .push .empty { openMark := "<", closeMark := ">", trim := .newline }
  have hcompile : Program.compile tags "a<x>\nb" 0 =
      .ok ⟨[.literal "a", .emit (.identifier "x" ⟨2, 3⟩) false ⟨1, 4⟩, .literal "b"], 0⟩ := by
    cbv
  obtain ⟨-, segments, hsegments, hpartition, himage⟩ :=
    (lossless_compilation tags "a<x>\nb").2 0 _ hcompile
  exact ⟨tags, segments, _, hsegments, hpartition, himage, rfl⟩

end Stencil
