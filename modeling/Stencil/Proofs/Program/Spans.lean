import Stencil.Proofs.Eval.Failures
import Stencil.Proofs.Program.Image
import Stencil.Proofs.Program.LinkTag
import Stencil.Proofs.Tag.Partition

/-!
# Spans in compiled tags

The spans in the code of a step count from the start of the body of its tag, over the script that
was read there. If the body is the script, they lie in it. If the script comes from the body by
expansion, they may lie behind the tag and even behind the source, for the script of a short form
is nearly always longer than its tag.

* `FoundTag.scriptSpan` are the bytes that spans count over; `FoundTag.Fits` says that they end
  inside of the tag.
* `script_outcome`: one tag, wherever its script stands.
* `Labels` is what can be said of the spans of a step; `labels_of_compile` is about all steps.
* `spans_of_compile`: the spans in programs, and where runs fail; for the short forms the
  condition that the script fits is necessary.
* `not_inside_pageTag`: a link whose code carries a span behind the end of the source.
-/

namespace Stencil

open Script Text Window

namespace FoundTag

/-- The bytes that the spans in the code of a tag count over: they start where the body does, and
are as many as the script has. -/
def scriptSpan (found : FoundTag) : Span :=
  ⟨found.bodyStart, found.bodyStart + byteLength (found.tag.scriptOf found.body)⟩

/-- Whether a script is not longer than its body with the closing marker. -/
def Fits (found : FoundTag) : Prop := found.scriptSpan.stop ≤ found.span.stop

variable {found : FoundTag} {source : List Char}

theorem scriptOf_of_holdsScript (h : found.tag.holdsScript = true) :
    found.tag.scriptOf found.body = found.body := by
  rw [Tag.holdsScript, Option.isNone_iff_eq_none] at h
  rw [Tag.scriptOf, h]

/-- A body that is the script fits. -/
theorem fits_of_holdsScript (h : found.tag.holdsScript = true) : found.Fits := by
  unfold Fits scriptSpan span
  rw [scriptOf_of_holdsScript h]
  exact Nat.le_add_right _ _

/-- What lies in the bytes of the script lies in the tag if the script fits. -/
theorem Fits.inside {s : Span} (h : found.Fits) (hs : s.Inside found.scriptSpan) :
    s.Inside found.span := by
  obtain ⟨hlow, hordered, hhigh⟩ := hs
  exact ⟨Nat.le_trans (Nat.le_add_right _ _) hlow, hordered, Nat.le_trans hhigh h⟩

/-- Whether a tag stands in a source where it says. -/
def StandsIn (found : FoundTag) (source : List Char) : Prop :=
  ∃ before after, source = before ++ (found.source ++ after) ∧ found.start = byteLength before

theorem standsIn_of_mem {tags : TagSet} {segments : List Segment}
    (h : Segment.ofSource tags source = .ok segments) (hfound : .tag found ∈ segments) :
    found.StandsIn source := by
  obtain ⟨before, after, hsource, hstart⟩ := (tiling_ofSource h).split_at_tag hfound
  exact ⟨before, after, hsource, by rw [hstart, byteLength_nil, Nat.zero_add]⟩

/-- The body stands in the bytes of its tag. -/
theorem StandsIn.holds_body (h : found.StandsIn source) :
    Holds ⟨source, found.span⟩ found.bodyStart found.body := by
  obtain ⟨before, after, hsource, hstart⟩ := h
  refine ⟨⟨before ++ found.tag.openMark.toList, found.tag.closeMark.toList ++ after, ?_, ?_⟩,
    Nat.le_add_right _ _, Nat.le_add_right _ _⟩
  · rw [hsource, FoundTag.source]
    simp only [List.append_assoc]
  · rw [bodyStart, hstart, byteLength_append]

/-- The span of a tag cuts no character. -/
theorem StandsIn.shows_span (h : found.StandsIn source) :
    Shows ⟨source, found.span⟩ found.span := by
  obtain ⟨before, after, hsource, hstart⟩ := h
  have hholds : Holds ⟨source, found.span⟩ found.start found.source :=
    ⟨⟨before, after, hsource, hstart⟩, Nat.le_refl _, Nat.le_of_eq (span_stop found).symm⟩
  have hshows := hholds.shows
  rw [← span_stop] at hshows
  exact hshows

theorem StandsIn.span_inside (h : found.StandsIn source) :
    found.span.Inside ⟨0, byteLength source⟩ := by
  have hordered := h.shows_span.ordered
  obtain ⟨before, after, hsource, hstart⟩ := h
  refine ⟨Nat.zero_le _, hordered, ?_⟩
  rw [span_stop, hsource, hstart, byteLength_append, byteLength_append]
  exact Nat.add_le_add_left (Nat.le_add_right _ _) _

end FoundTag

/-- The code that a tag is compiled to has its spans where its script is read. -/
theorem script_outcome {w : Window} {found : FoundTag}
    (h : w.Holds found.bodyStart (found.tag.scriptOf found.body)) :
    w.Outcome (fun step => w.Covers step.spans) (Instruction.ofScript found) := by
  unfold Instruction.ofScript
  dsimp only
  split
  · exact (statements_outcome h).map fun _ h => h
  · exact (expr_outcome h).map fun _ h => h

/-! ## Steps -/

/-- What the spans of a step say about its source. -/
structure Labels (tags : TagSet) (source : List Char) (found : FoundTag) (step : Instruction) :
    Prop where
  registered : found.tag ∈ tags.tags
  stands : found.StandsIn source
  /-- The step carries the span of the tag. -/
  span : step.span? = some found.span
  /-- The spans in its code lie in the bytes of the script. -/
  script : ∀ s ∈ step.spans, s.Inside found.scriptSpan
  /-- If the body is the script, they are parts of the tag that cut no character. -/
  body : found.tag.holdsScript = true → ∀ s ∈ step.spans, Shows ⟨source, found.span⟩ s

section Steps

variable {tags : TagSet} {source : List Char} {found : FoundTag} {step : Instruction}

theorem span?_of_ofScript (h : Instruction.ofScript found = .ok step) :
    step.span? = some found.span := by
  unfold Instruction.ofScript at h
  split at h
  · obtain ⟨body, -, rfl⟩ := map_eq_ok_iff.mp h
    rfl
  · obtain ⟨value, -, rfl⟩ := map_eq_ok_iff.mp h
    rfl

theorem labels_of_ofScript (htag : found.tag ∈ tags.tags) (hstands : found.StandsIn source)
    (h : Instruction.ofScript found = .ok step) : Labels tags source found step where
  registered := htag
  stands := hstands
  span := span?_of_ofScript h
  script := by
    obtain ⟨before, -, -, hstart⟩ := hstands
    have hbody : found.bodyStart = byteLength (before ++ found.tag.openMark.toList) := by
      rw [FoundTag.bodyStart, hstart, byteLength_append]
    -- In this source the script stands where the body does in the real one.
    have hholds := @holds_between (found.tag.scriptOf found.body)
      (before ++ found.tag.openMark.toList) []
    rw [← hbody] at hholds
    have hcovers := script_outcome hholds
    rw [h] at hcovers
    exact fun s hs => (hcovers s hs).inside
  body hscript := by
    have hholds := hstands.holds_body
    rw [← FoundTag.scriptOf_of_holdsScript hscript] at hholds
    have hcovers := script_outcome hholds
    rw [h] at hcovers
    exact hcovers

/-- The steps of a program that are not literal text are those of the tags in its source. -/
theorem exists_tag_of_mem_steps {file : Nat} : ∀ {segments : List Segment} {trim : TrailingTrim}
    {steps : List Instruction}, Program.compileSegments source file trim segments = .ok steps →
    step ∈ steps → step.isLiteral = false →
    ∃ found, .tag found ∈ segments ∧ Instruction.ofScript found = .ok step
  | [], _, _, h, hstep, _ => by
    obtain rfl := Except.ok.inj h
    exact absurd hstep List.not_mem_nil
  | .text value :: segments, trim, steps, h, hstep, hliteral => by
    obtain ⟨rest, hrest, heq⟩ := bind_eq_ok_iff.mp h
    obtain rfl := Except.ok.inj heq
    have hmem : step ∈ rest := by
      split at hstep
      · exact hstep
      · obtain rfl | hstep := List.mem_cons.mp hstep
        · exact nomatch hliteral
        · exact hstep
    obtain ⟨found, hfound, hofScript⟩ := exists_tag_of_mem_steps hrest hmem hliteral
    exact ⟨found, List.mem_cons_of_mem _ hfound, hofScript⟩
  | .tag found :: segments, trim, steps, h, hstep, hliteral => by
    obtain ⟨first, hfirst, h⟩ := bind_eq_ok_iff.mp h
    obtain ⟨rest, hrest, heq⟩ := bind_eq_ok_iff.mp h
    obtain rfl := Except.ok.inj heq
    obtain rfl | hstep := List.mem_cons.mp hstep
    · exact ⟨found, List.mem_cons_self, mapError_eq_ok_iff.mp (mapError_eq_ok_iff.mp hfirst)⟩
    · obtain ⟨other, hother, hofScript⟩ := exists_tag_of_mem_steps hrest hstep hliteral
      exact ⟨other, List.mem_cons_of_mem _ hother, hofScript⟩

/-- A step whose script fits has all its spans in its tag. -/
theorem Labels.inside (h : Labels tags source found step) (hfits : found.Fits) :
    ∀ s ∈ step.spans, s.Inside found.span := fun s hs => hfits.inside (h.script s hs)

end Steps

/-! ## Short forms -/

/-- What the short forms for links and dates expand their bodies by. -/
def Tag.shortForms : List (List Char → List Char) := [expandPage, expandBlock, expandDate]

/-- The script of a short form is a call that takes up all of it. -/
theorem ofScript_shortForm {found : FoundTag} {expand : List Char → List Char}
    (hshort : expand ∈ Tag.shortForms) (hexpand : found.tag.expand = some expand) :
    ∃ callee args, Expr.ofScript found.bodyStart (found.tag.scriptOf found.body) =
      .ok (.call callee args found.scriptSpan) := by
  have hscript : found.tag.scriptOf found.body = expand found.body := by
    rw [Tag.scriptOf, hexpand]
  rw [FoundTag.scriptSpan, hscript]
  simp only [Tag.shortForms, List.mem_cons, List.not_mem_nil, or_false] at hshort
  rcases hshort with rfl | rfl | rfl
  · exact ⟨_, _, Tag.ofScript_callRef _ _⟩
  · exact ⟨_, _, Tag.ofScript_callRef _ _⟩
  · exact ⟨_, _, Tag.ofScript_callDate _ _⟩

/-- The spans of a short form lie in its tag only if its script fits. -/
theorem fits_of_shortForm {found : FoundTag} {step : Instruction}
    {expand : List Char → List Char} (hshort : expand ∈ Tag.shortForms)
    (hexpand : found.tag.expand = some expand)
    (hclass : (found.tag.classOf found.body).statement = false)
    (h : Instruction.ofScript found = .ok step) :
    (∀ s ∈ step.spans, s.Inside found.span) → found.Fits := by
  obtain ⟨callee, args, hcall⟩ := ofScript_shortForm hshort hexpand
  unfold Instruction.ofScript at h
  dsimp only at h
  rw [if_neg (Bool.eq_false_iff.mp hclass), hcall] at h
  obtain rfl := Except.ok.inj h
  exact fun hinside => (hinside found.scriptSpan List.mem_cons_self).2.2

/-! ## Programs -/

/-- Each step of a program that is not literal text is what a tag of the source is compiled to. -/
theorem labels_of_compile {tags : TagSet} {source : String} {file : Nat} {program : Program}
    (h : Program.compile tags source file = .ok program) :
    program.file = file ∧ ∀ step ∈ program.steps, step.isLiteral = false → ∃ found,
      Labels tags source.toList found step ∧ Instruction.ofScript found = .ok step := by
  obtain ⟨hfile, segments, hsegments, hsteps⟩ := exists_segments_of_compile h
  refine ⟨hfile, fun step hstep hliteral => ?_⟩
  obtain ⟨found, hfound, hofScript⟩ := exists_tag_of_mem_steps hsteps hstep hliteral
  have hregistered := ((tiling_ofSource hsegments).registered hfound).1
  exact ⟨found, labels_of_ofScript hregistered (FoundTag.standsIn_of_mem hsegments hfound)
    hofScript, hofScript⟩

/-- **The spans in compiled code.** Each step that is not literal text is the step of a tag of the
source and carries its span. The spans in its code lie in the bytes of its script, so in the tag if
the script fits, which it does if it is the body; for the short forms this is necessary. A run fails
with the span of the step that failed or with one in its code, so in its tag if the script fits. -/
theorem spans_of_compile {tags : TagSet} {source : String} {file : Nat} {program : Program}
    (h : Program.compile tags source file = .ok program) :
    (∀ step ∈ program.steps, step.isLiteral = false → ∃ found,
      Labels tags source.toList found step ∧ found.span.Inside ⟨0, byteLength source.toList⟩ ∧
      (found.tag.holdsScript = true → found.Fits) ∧
      (found.Fits → ∀ s ∈ step.spans, s.Inside found.span) ∧
      ∀ expand ∈ Tag.shortForms, found.tag.expand = some expand →
        (found.tag.classOf found.body).statement = false →
        (∀ s ∈ step.spans, s.Inside found.span) → found.Fits) ∧
    ∀ helpers settings env failure,
      (program.execute helpers settings env).1 = .error failure →
      failure.file = file ∧ ∃ before step after text m found,
        program.steps = before ++ step :: after ∧
        runSteps ⟨helpers, settings, file⟩ before ⟨env.push, {}⟩ = (.ok text, m) ∧
        (step.run ⟨helpers, settings, file⟩ m).1 = .error failure ∧
        Labels tags source.toList found step ∧
        (failure.span = found.span ∨ failure.span ∈ step.spans) ∧
        (found.Fits → failure.span.Inside found.span) := by
  obtain ⟨hfile, htags⟩ := labels_of_compile h
  refine ⟨fun step hstep hliteral => ?_, fun helpers settings env failure hfails => ?_⟩
  · obtain ⟨found, hlabels, hofScript⟩ := htags step hstep hliteral
    exact ⟨found, hlabels, hlabels.stands.span_inside, FoundTag.fits_of_holdsScript,
      hlabels.inside, fun expand hshort hexpand hclass =>
        fits_of_shortForm hshort hexpand hclass hofScript⟩
  · obtain ⟨hfailed, before, step, after, text, m, hsplit, hbefore, hstep, hspan⟩ :=
      execute_failed hfails
    rw [hfile] at hfailed hbefore hstep
    have hmem : step ∈ program.steps := hsplit ▸ List.mem_append_right _ List.mem_cons_self
    have hliteral : step.isLiteral = false := by
      cases step with
      | literal text => exact nomatch hspan
      | emit _ _ _ => rfl
      | execute _ _ => rfl
    obtain ⟨found, hlabels, -⟩ := htags step hmem hliteral
    rw [hlabels.span] at hspan
    have hspan : failure.span = found.span ∨ failure.span ∈ step.spans := List.mem_cons.mp hspan
    refine ⟨hfailed, before, step, after, text, m, found, hsplit, hbefore, hstep, hlabels, hspan,
      fun hfits => ?_⟩
    rcases hspan with hspan | hspan
    · rw [hspan]
      exact ⟨Nat.le_refl _, hlabels.stands.span_inside.2.1, Nat.le_refl _⟩
    · exact hlabels.inside hfits _ hspan

/-- A tag with a member in it that fails at the name. -/
theorem spans_of_compile_member : ∃ (tags : TagSet) (program : Program) (failure : Failure),
    Program.compile tags "a<x.y>" 0 = .ok program ∧
    (program.execute .empty { today := Calendar.Date.epoch } .empty).1 = .error failure ∧
    failure = ⟨.unknownName "x", ⟨2, 3⟩, 0⟩ ∧ ∃ step found,
      Labels tags "a<x.y>".toList found step ∧ failure.span.Inside found.span := by
  let tags : TagSet := .push .empty { openMark := "<", closeMark := ">" }
  let program : Program :=
    ⟨[.literal "a", .emit (.member (.identifier "x" ⟨2, 3⟩) "y" ⟨2, 5⟩) false ⟨1, 6⟩], 0⟩
  have hcompile : Program.compile tags "a<x.y>" 0 = .ok program := by cbv
  have hfails : (program.execute .empty { today := Calendar.Date.epoch } .empty).1 =
      .error ⟨.unknownName "x", ⟨2, 3⟩, 0⟩ := by
    rfl
  obtain ⟨-, hruns⟩ := spans_of_compile hcompile
  obtain ⟨-, _, step, _, _, _, found, -, -, -, hlabels, -, hinside⟩ := hruns _ _ _ _ hfails
  have hscript : found.tag.holdsScript = true := by
    rw [List.mem_singleton.mp hlabels.registered]
    rfl
  exact ⟨tags, program, _, hcompile, hfails, rfl, step, found, hlabels,
    hinside (FoundTag.fits_of_holdsScript hscript)⟩

/-- The script of a short link is longer than its tag: the call carries a span that ends behind the
source, and a run that fails in it says so. -/
theorem not_inside_pageTag : ∃ (program : Program) (span : Span),
    Program.compile .standard "``[[x]]``" 0 = .ok program ∧
    (∃ step ∈ program.steps, step.span? = some ⟨0, 9⟩ ∧ span ∈ step.spans) ∧
    byteLength "``[[x]]``".toList = 9 ∧ span = ⟨4, 16⟩ ∧ ¬ span.Inside ⟨0, 9⟩ ∧
    (program.execute .empty { today := Calendar.Date.epoch } .empty).1 =
      .error ⟨.unknownFunction "ref", span, 0⟩ := by
  have hmark : NoMarker LinkForm.page.tag.closeMark.toList "x".toList := by decide
  have hcompile := LinkForm.compile_linkTag (by decide) hmark 0
  have hstep : LinkForm.page.step "x".toList = .emit (.call (.identifier "ref" ⟨4, 7⟩)
    [.text "[[x]]"] ⟨4, 16⟩) true ⟨0, 9⟩ := by rfl
  rw [hstep] at hcompile
  refine ⟨_, ⟨4, 16⟩, hcompile, ⟨_, List.mem_singleton_self _, rfl, List.mem_cons_self⟩,
    by decide, rfl, ?_, by rfl⟩
  exact fun hinside => absurd hinside.2.2 (by decide)

end Stencil
