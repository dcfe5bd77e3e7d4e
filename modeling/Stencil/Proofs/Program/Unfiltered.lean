import Stencil.Program
import Stencil.Proofs.Tag.Restart

/-!
# Programs without links

A tag may ask for the links in what it emits. Where tags are found, what is read in them and what is
wrong with them does not depend on that: only the steps that emit something say what was asked for.

* `TagSet.unfiltered`, `Program.unfiltered`: the same tags and the same program with no links asked
  for.
* `bodyOf_unfiltered`, `segmentsFrom_unfiltered`: the search for tags.
* `compile_unfiltered`: the program that is compiled with such tags.
-/

namespace Stencil

open Script Text

/-- The tag without links in what it emits. -/
def Tag.unfiltered (tag : Tag) : Tag := { tag with filter := false }

/-- The tags without links in what they emit. -/
def TagSet.unfiltered (t : TagSet) : TagSet := { t with tags := t.tags.map Tag.unfiltered }

/-- The tag as it stands in a source, without links in what it emits. -/
def FoundTag.unfiltered (found : FoundTag) : FoundTag := { found with tag := found.tag.unfiltered }

/-- The piece of a source, without links in what is emitted. -/
def Segment.unfiltered : Segment → Segment
  | .text value => .text value
  | .tag found => .tag found.unfiltered

/-- The step without links in what it emits. -/
def Instruction.unfiltered : Instruction → Instruction
  | .emit value _ span => .emit value false span
  | .literal text => .literal text
  | .execute body span => .execute body span

/-- The program without links in what it emits. -/
def Program.unfiltered (p : Program) : Program := { p with steps := p.steps.map .unfiltered }

/-! ## The search for tags -/

namespace TagSet

variable {t : TagSet} {cs : List Char}

/-- A find without links in what is emitted. -/
def unfilteredFind : Tag × List Char → Tag × List Char := fun (tag, rest) => (tag.unfiltered, rest)

theorem opens_unfiltered (t : TagSet) : t.unfiltered.opens = t.opens := by
  rw [opens, opens, unfiltered, List.map_map]
  rfl

theorem refusal?_unfiltered (t : TagSet) : t.unfiltered.refusal? = t.refusal? := by
  have hempty : t.unfiltered.isEmpty = t.isEmpty := List.isEmpty_map
  rw [refusal?, refusal?, hempty, opens_unfiltered]
  rfl

theorem get?_unfiltered (t : TagSet) (openMark : String) :
    t.unfiltered.get? openMark = (t.get? openMark).map Tag.unfiltered := List.find?_map ..

theorem foundAt?_unfiltered (t : TagSet) (cs : List Char) :
    t.unfiltered.foundAt? cs = (t.foundAt? cs).map unfilteredFind := by
  have hmarker : t.unfiltered.markerAt? cs = t.markerAt? cs := by
    rw [markerAt?, markerAt?, opens_unfiltered]
  rw [foundAt?, foundAt?, hmarker]
  cases t.markerAt? cs with
  | none => rfl
  | some found =>
    simp only [get?_unfiltered, bind, Option.bind_some]
    cases t.get? found.1 <;> rfl

end TagSet

theorem bodyOf_unfiltered (tag : Tag) (opening : Span) (offset : Nat) (cs : List Char) :
    bodyOf tag.unfiltered opening offset cs = bodyOf tag opening offset cs := by
  fun_induction bodyOf tag opening offset cs with
  | case1 => rw [bodyOf]; rfl
  | case2 offset c cs rest hmarker =>
    have hmarker' : tag.unfiltered.closeMark.toList.isPrefixOf? (c :: cs) = some rest := hmarker
    rw [bodyOf, hmarker']
  | case3 offset c cs hmarker hshield ih =>
    have hmarker' : tag.unfiltered.closeMark.toList.isPrefixOf? (c :: cs) = none := hmarker
    rw [bodyOf_pass hmarker' hshield, ih]
    cases bodyOf tag opening (offset + c.utf8Size) cs <;> rfl
  | case4 offset c cs hmarker shield hshield hafter =>
    have hmarker' : tag.unfiltered.closeMark.toList.isPrefixOf? (c :: cs) = none := hmarker
    exact bodyOf_unclosed hmarker' hshield hafter
  | case5 offset c cs hmarker shield hshield after hafter passed ih =>
    have hmarker' : tag.unfiltered.closeMark.toList.isPrefixOf? (c :: cs) = none := hmarker
    rw [bodyOf_hidden hmarker' hshield hafter (Shield.append_of_after? hafter), ih]
    cases bodyOf tag opening (offset + byteLength passed) after <;> rfl

theorem map_unfiltered_ofText (text : List Char) :
    (Segment.ofText text).map .unfiltered = Segment.ofText text := by
  unfold Segment.ofText
  split <;> rfl

/-- The same tags are found, whether links are asked for or not. -/
theorem segmentsFrom_unfiltered (tags : TagSet) (offset : Nat) (seen cs : List Char) :
    segmentsFrom tags.unfiltered offset seen cs =
      (segmentsFrom tags offset seen cs).map (List.map .unfiltered) := by
  fun_induction segmentsFrom tags offset seen cs with
  | case1 offset seen hnone =>
    have hnone' : tags.unfiltered.foundAt? [] = none := by
      rw [TagSet.foundAt?_unfiltered, hnone]
      rfl
    rw [segmentsFrom, hnone', Except.map, map_unfiltered_ofText]
  | case2 offset seen c cs hnone ih =>
    have hnone' : tags.unfiltered.foundAt? (c :: cs) = none := by
      rw [TagSet.foundAt?_unfiltered, hnone]
      rfl
    rw [segmentsFrom_unmarked hnone', ih]
  | case3 offset seen cs tag inside hfound bodyStart ihreject =>
    rename_i ihaccept
    have hfound' : tags.unfiltered.foundAt? cs = some (tag.unfiltered, inside) := by
      rw [TagSet.foundAt?_unfiltered, hfound]
      rfl
    have hbody : bodyOf tag.unfiltered ⟨offset, bodyStart⟩ bodyStart inside =
        bodyOf tag ⟨offset, bodyStart⟩ bodyStart inside := bodyOf_unfiltered _ _ _ _
    cases hfind : bodyOf tag ⟨offset, bodyStart⟩ bodyStart inside with
    | error fault =>
      rw [hfind] at hbody
      rw [segmentsFrom_unclosed hfound' hbody]
      rfl
    | ok found =>
      obtain ⟨body, rest⟩ := found
      rw [hfind] at hbody
      obtain ⟨c, cs, rfl⟩ := List.exists_cons_of_ne_nil (ne_nil_of_found hfound hfind)
      simp only [bind, Except.bind]
      split
      · next hrejects => rw [segmentsFrom_rejected hbody hfound' hrejects, ihreject]
      · next hrejects =>
        have hrejects := eq_false_of_ne_true hrejects
        split
        · next hlt =>
          have hstop : (⟨tag.unfiltered, offset, body⟩ : FoundTag).span =
              (⟨tag, offset, body⟩ : FoundTag).span := rfl
          rw [segmentsFrom_accepted hbody hfound' hrejects hlt, hstop, ihaccept body rest hlt]
          cases segmentsFrom tags (⟨tag, offset, body⟩ : FoundTag).span.stop [] rest with
          | error fault => rfl
          | ok segments =>
            dsimp only [Except.map]
            rw [List.map_append, map_unfiltered_ofText]
            rfl
        · next hlt =>
          rw [segmentsFrom_endless hbody hfound' hrejects hlt]
          rfl

/-! ## Programs -/

theorem ofTag_unfiltered (found : FoundTag) :
    Instruction.ofTag found.unfiltered = (Instruction.ofTag found).map .unfiltered := by
  have hscript : Instruction.ofScript found.unfiltered =
      (Instruction.ofScript found).map .unfiltered := by
    have hstatement : (found.unfiltered.tag.classOf found.unfiltered.body).statement =
        (found.tag.classOf found.body).statement := rfl
    unfold Instruction.ofScript
    rw [hstatement]
    dsimp only
    split
    · show (Statement.ofScript found.bodyStart (found.tag.scriptOf found.body)).map _ = _
      cases Statement.ofScript found.bodyStart (found.tag.scriptOf found.body) <;> rfl
    · show (Expr.ofScript found.bodyStart (found.tag.scriptOf found.body)).map _ = _
      cases Expr.ofScript found.bodyStart (found.tag.scriptOf found.body) <;> rfl
  rw [Instruction.ofTag, Instruction.ofTag, hscript]
  cases Instruction.ofScript found <;> rfl

theorem compileSegments_unfiltered (source : List Char) (file : Nat) :
    ∀ (segments : List Segment) (trim : TrailingTrim),
      Program.compileSegments source file trim (segments.map .unfiltered) =
        (Program.compileSegments source file trim segments).map (List.map .unfiltered)
  | [], _ => rfl
  | .text value :: segments, trim => by
    have hrest := compileSegments_unfiltered source file segments .keep
    rw [List.map_cons, Segment.unfiltered, Program.compileSegments, Program.compileSegments, hrest]
    cases Program.compileSegments source file .keep segments with
    | error e => rfl
    | ok steps =>
      dsimp only [bind, Except.bind, Except.map]
      split <;> rfl
  | .tag found :: segments, trim => by
    have hrest := compileSegments_unfiltered source file segments found.tag.trim
    have htrim : found.unfiltered.tag.trim = found.tag.trim := rfl
    rw [List.map_cons, Segment.unfiltered, Program.compileSegments, Program.compileSegments,
      ofTag_unfiltered, htrim, hrest]
    cases Instruction.ofTag found with
    | error fault => rfl
    | ok step => cases Program.compileSegments source file found.tag.trim segments <;> rfl

/-- **A program says of its tags what they are but for links**: without them, it is the program that
is compiled with the tags without them, and it is at fault where that is. -/
theorem compile_unfiltered (tags : TagSet) (source : String) (file : Nat) :
    Program.compile tags.unfiltered source file =
      (Program.compile tags source file).map .unfiltered := by
  have hsegments : Segment.ofSource tags.unfiltered source.toList =
      (Segment.ofSource tags source.toList).map (List.map .unfiltered) :=
    segmentsFrom_unfiltered tags 0 [] source.toList
  unfold Program.compile
  rw [TagSet.refusal?_unfiltered]
  cases tags.refusal? with
  | some reason => rfl
  | none =>
    dsimp only [Program.compileSource]
    rw [hsegments]
    cases Segment.ofSource tags source.toList with
    | error fault => rfl
    | ok segments =>
      have hsteps := compileSegments_unfiltered source.toList file segments .keep
      show (Program.compileSegments source.toList file .keep (segments.map .unfiltered) >>= _) =
        Except.map _ (Program.compileSegments source.toList file .keep segments >>= _)
      rw [hsteps]
      cases Program.compileSegments source.toList file .keep segments <;> rfl

end Stencil
