import Stencil.Program
import Stencil.Proofs.Result
import Stencil.Proofs.Tag.Partition
import Stencil.Proofs.Text.Search

/-!
# The tags of templates

* `foundAt?_standard_eq_none_of_not_prefix`: where there are no two backticks, there is no tag of
  the standard ones.
* `compile_of_no_tag`: a text in which no opening marker stands compiles to itself; `IsTagless` is
  such a text for the standard tags.
* `segments_of_tag` and `compile_of_tag`: a source that is one tag.
-/

namespace Stencil

open Text

namespace TagSet

theorem tags_standard : standard.tags =
    [{ openMark := "``\x7b_", closeMark := "\x7d``", trim := .all,
       classify := some alwaysStatements },
     { openMark := "``\x7b", closeMark := "\x7d``", trim := .newline,
       classify := some alwaysStatements },
     { openMark := "``[[", closeMark := "]]``", filter := true, expand := some Tag.expandPage },
     { openMark := "``((", closeMark := "))``", filter := true, expand := some Tag.expandBlock },
     { openMark := "``@", closeMark := "``", filter := true, expand := some Tag.expandDate },
     { openMark := "``", closeMark := "``", filter := true,
       classify := some Tag.classifyPlain }] := by
  simp [standard, push, empty]

/-- The pattern of the standard tags is built. -/
theorem refusal?_standard : standard.refusal? = none :=
  refusal?_of_size_le rfl (by rw [tags_standard]; decide)

/-- Every opening marker of the standard tags starts with two backticks. -/
theorem foundAt?_standard_eq_none_of_not_prefix {cs : List Char} (h : ¬ ['`', '`'] <+: cs) :
    standard.foundAt? cs = none := by
  refine foundAt?_eq_none_iff.mpr fun tag htag hstands => h ?_
  obtain ⟨rest, hrest⟩ : ∃ rest, tag.openMark.toList = ['`', '`'] ++ rest := by
    rw [tags_standard] at htag
    simp only [List.mem_cons, List.not_mem_nil, or_false] at htag
    rcases htag with rfl | rfl | rfl | rfl | rfl | rfl <;> exact ⟨_, rfl⟩
  rw [hrest] at hstands
  exact (List.prefix_append _ _).trans hstands

theorem foundAt?_standard_eq_none {cs : List Char} (h : ∀ c ∈ cs.head?, c ≠ '`') :
    standard.foundAt? cs = none := by
  refine foundAt?_standard_eq_none_of_not_prefix ?_
  rintro ⟨rest, rfl⟩
  exact h '`' rfl rfl

end TagSet

/-! ## Text without tags -/

theorem segmentsFrom_of_no_tag {tags : TagSet} : ∀ (offset : Nat) (seen cs : List Char),
    (∀ suffix, suffix <:+ cs → tags.foundAt? suffix = none) →
      segmentsFrom tags offset seen cs = .ok (Segment.ofText (seen.reverse ++ cs))
  | offset, seen, [], h => by
    rw [segmentsFrom, h [] (List.suffix_refl _)]
    simp
  | offset, seen, c :: cs, h => by
    rw [segmentsFrom, h _ (List.suffix_refl _)]
    dsimp only
    rw [segmentsFrom_of_no_tag _ _ cs fun suffix hs => h suffix (hs.trans (List.suffix_cons c cs))]
    simp

/-- A text in which no opening marker stands compiles to itself. -/
theorem compile_of_no_tag {tags : TagSet} {source : String} (file : Nat)
    (hbuilds : tags.refusal? = none)
    (h : ∀ suffix, suffix <:+ source.toList → tags.foundAt? suffix = none) :
    Program.compile tags source file =
      .ok ⟨if source.isEmpty then [] else [.literal source], file⟩ := by
  have hsegments : Segment.ofSource tags source.toList = .ok (Segment.ofText source.toList) :=
    segmentsFrom_of_no_tag 0 [] source.toList h
  rw [Program.compile_of_builds hbuilds, Program.compileSource]
  simp only [hsegments]
  by_cases hsource : source.toList = []
  · obtain rfl := String.toList_eq_nil_iff.mp hsource
    rfl
  · have hne : source ≠ "" := fun h => hsource (String.toList_eq_nil_iff.mpr h)
    have htext : source.toList.isEmpty = false := List.isEmpty_eq_false_iff.mpr hsource
    simp only [Segment.ofText, htext, Bool.false_eq_true, if_false, mapError_ok, bind,
      Except.bind, Program.compileSegments, TrailingTrim.apply, String.ofList_toList,
      String.isEmpty_iff, hne]

/-! ## A source that is one tag -/

/-- A source that is a tag and nothing else. -/
theorem segments_of_tag {tags : TagSet} {tag : Tag} {body cs : List Char}
    (hopen : tag.openMark.toList ≠ []) (hend : tags.foundAt? [] = none)
    (hfound : tags.foundAt? (tag.openMark.toList ++ cs) = some (tag, cs))
    (hbody : ∀ opening offset, bodyOf tag opening offset cs = .ok (body, []))
    (hrejects : tag.rejects body = false) :
    Segment.ofSource tags (tag.openMark.toList ++ cs) = .ok [.tag ⟨tag, 0, body⟩] := by
  have hrest : segmentsFrom tags (⟨tag, 0, body⟩ : FoundTag).span.stop [] [] = .ok [] := by
    rw [segmentsFrom, hend]
    rfl
  have hshorter : ([] : List Char).length < (tag.openMark.toList ++ cs).length := by
    rw [List.length_append]
    exact Nat.add_pos_left (List.length_pos_iff.mpr hopen) _
  rw [Segment.ofSource, segmentsFrom.eq_def, hfound]
  simp only [hbody, bind, Except.bind]
  rw [hrejects, if_neg Bool.false_ne_true, dif_pos hshorter, hrest]
  rfl

/-- The program of a source that is one tag is the step of this tag. -/
theorem compile_of_tag {tags : TagSet} {source : String} {found : FoundTag} {step : Instruction}
    (hbuilds : tags.refusal? = none)
    (hsegments : Segment.ofSource tags source.toList = .ok [.tag found])
    (hstep : Instruction.ofTag found = .ok step) (file : Nat) :
    Program.compile tags source file = .ok ⟨[step], file⟩ := by
  rw [Program.compile_of_builds hbuilds, Program.compileSource]
  simp only [hsegments, mapError_ok, bind, Except.bind, Program.compileSegments, hstep]

/-! ## Sources without standard tags -/

/-- Whether a text has no two backticks in a row, so that no standard tag starts in it. -/
def IsTagless (source : String) : Prop := ¬ ['`', '`'] <:+: source.toList

instance (source : String) : Decidable (IsTagless source) := inferInstanceAs (Decidable (¬ _))

theorem isTagless_of_isBlankText {source : String} (h : isBlankText source = true) :
    IsTagless source := by
  intro htwo
  exact absurd (List.all_eq_true.mp h '`' (htwo.subset List.mem_cons_self)) (by decide)

/-- A text without tags compiles to itself. -/
theorem compile_tagless {source : String} (file : Nat) (h : IsTagless source) :
    Program.compile .standard source file =
      .ok ⟨if source.isEmpty then [] else [.literal source], file⟩ :=
  compile_of_no_tag file TagSet.refusal?_standard fun _ hs =>
    TagSet.foundAt?_standard_eq_none_of_not_prefix fun hstart =>
      h (hstart.isInfix.trans hs.isInfix)

end Stencil
