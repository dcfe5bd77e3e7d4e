import Stencil.Proofs.Loop
import Stencil.Proofs.Tag.Partition

/-!
# The search for tags, turn by turn

The search for tags is a loop. A turn looks for the next opening marker from where the last one left
off, then for the closing marker; the tag that stands there is rejected or becomes a segment.

* `TagSearch` is where the search stands, `TagSearch.seek` moves it to the next opening marker and
  `TagSearch.turn` takes a turn. `exists_of_turnAt_goesOn` and `of_turnAt_ends` say what it can be.
* `TagSearch.result`: what `segmentsFrom` makes of the state. A turn that makes the rest shorter
  does not change it.
* `StandsAtBare`: the search stands at a tag that has no markers. Then it stays there
  (`StandsAtBare.not_endsIn`), and no other turn fails to make the rest shorter
  (`shorter_or_standsAtBare`).
* `exists_endsIn_iff`: the fault `endlessTag` stands for a search that never ends.
-/

namespace Stencil

open Text

/-! ## The search at one position -/

section Position

variable {tags : TagSet} {tag : Tag} {offset : Nat} {c : Char}
  {seen cs inside body rest : List Char}

theorem segmentsFrom_unmarked (hnone : tags.foundAt? (c :: cs) = none) :
    segmentsFrom tags offset seen (c :: cs) =
      segmentsFrom tags (offset + c.utf8Size) (c :: seen) cs := by
  rw [segmentsFrom.eq_def tags offset seen (c :: cs), hnone]

theorem segmentsFrom_unclosed (hfound : tags.foundAt? cs = some (tag, inside)) {fault : Fault}
    (hbody : bodyOf tag ⟨offset, offset + byteLength tag.openMark.toList⟩
      (offset + byteLength tag.openMark.toList) inside = .error fault) :
    segmentsFrom tags offset seen cs = .error fault := by
  rw [segmentsFrom.eq_def, hfound]
  simp only [hbody]
  rfl

variable (hbody : bodyOf tag ⟨offset, offset + byteLength tag.openMark.toList⟩
  (offset + byteLength tag.openMark.toList) inside = .ok (body, rest))
include hbody

theorem segmentsFrom_rejected (hfound : tags.foundAt? (c :: cs) = some (tag, inside))
    (hrejects : tag.rejects body = true) :
    segmentsFrom tags offset seen (c :: cs) =
      segmentsFrom tags (offset + c.utf8Size) (c :: seen) cs := by
  rw [segmentsFrom.eq_def tags offset seen (c :: cs), hfound]
  simp only [hbody, bind, Except.bind, hrejects, if_true]

theorem segmentsFrom_accepted (hfound : tags.foundAt? cs = some (tag, inside))
    (hrejects : tag.rejects body = false) (hlt : rest.length < cs.length) :
    segmentsFrom tags offset seen cs =
      (segmentsFrom tags (⟨tag, offset, body⟩ : FoundTag).span.stop [] rest).map fun segments =>
        Segment.ofText seen.reverse ++ .tag ⟨tag, offset, body⟩ :: segments := by
  rw [segmentsFrom.eq_def tags offset seen cs, hfound]
  simp only [hbody, bind, Except.bind, hrejects, Bool.false_eq_true, if_false, hlt, dite_true]
  cases segmentsFrom tags (⟨tag, offset, body⟩ : FoundTag).span.stop [] rest <;> rfl

theorem segmentsFrom_endless (hfound : tags.foundAt? cs = some (tag, inside))
    (hrejects : tag.rejects body = false) (hlt : ¬ rest.length < cs.length) :
    segmentsFrom tags offset seen cs = .error ⟨.endlessTag, ⟨offset, offset⟩⟩ := by
  rw [segmentsFrom.eq_def tags offset seen cs, hfound]
  simp only [hbody, bind, Except.bind, hrejects, Bool.false_eq_true, if_false, hlt, dite_false]

end Position

/-! ## Turns -/

/-- A pair of markers with nothing else to it. -/
def Tag.ofMarkers (openMark closeMark : String) : Tag := { openMark, closeMark }

/-- Whether a tag has neither an opening nor a closing marker. -/
def Tag.IsBare (tag : Tag) : Prop := tag.openMark = "" ∧ tag.closeMark = ""

instance (tag : Tag) : Decidable tag.IsBare := inferInstanceAs (Decidable (_ ∧ _))

/-- Where the search for tags stands in a source. -/
structure TagSearch where
  /-- The segments up to the last tag. -/
  found : List Segment
  /-- The text behind the last tag that has been passed, reversed. -/
  seen : List Char
  /-- The byte offset of the rest. -/
  offset : Nat
  rest : List Char

namespace TagSearch

/-- Nothing has been searched. -/
def start (source : List Char) : TagSearch := ⟨[], [], 0, source⟩

/-- The search behind one more character of the text. -/
def pass (s : TagSearch) : TagSearch :=
  match s.rest with
  | [] => s
  | c :: cs => ⟨s.found, c :: s.seen, s.offset + c.utf8Size, cs⟩

/-- The search behind a tag, with the text in front of it. -/
def accept (s : TagSearch) (t : FoundTag) (rest : List Char) : TagSearch :=
  ⟨s.found ++ (Segment.ofText s.seen.reverse ++ [.tag t]), [], t.span.stop, rest⟩

/-- The search for a marker in a text. -/
def seekFrom (tags : TagSet) (found : List Segment) (seen : List Char) (offset : Nat) :
    List Char → TagSearch
  | [] => ⟨found, seen, offset, []⟩
  | c :: cs =>
    if (tags.foundAt? (c :: cs)).isSome then ⟨found, seen, offset, c :: cs⟩
    else seekFrom tags found (c :: seen) (offset + c.utf8Size) cs

/-- The search at the next opening marker, or at the end of the source if there is none. -/
def seek (tags : TagSet) (s : TagSearch) : TagSearch := seekFrom tags s.found s.seen s.offset s.rest

/-- The turn of a search that has come to a marker or to the end. -/
def turnAt (tags : TagSet) (s : TagSearch) : Turn TagSearch (Except Fault (List Segment)) :=
  match tags.foundAt? s.rest with
  | none => .ends (.ok (s.found ++ Segment.ofText s.seen.reverse))
  | some (tag, inside) =>
    let bodyStart := s.offset + byteLength tag.openMark.toList
    match bodyOf tag ⟨s.offset, bodyStart⟩ bodyStart inside with
    | .error fault => .ends (.error fault)
    | .ok (body, rest) =>
      if tag.rejects body then .goesOn s.pass else .goesOn (s.accept ⟨tag, s.offset, body⟩ rest)

/-- A turn of the search. -/
def turn (tags : TagSet) (s : TagSearch) : Turn TagSearch (Except Fault (List Segment)) :=
  (s.seek tags).turnAt tags

/-- What the search comes to. -/
def result (tags : TagSet) (s : TagSearch) : Except Fault (List Segment) :=
  (segmentsFrom tags s.offset s.seen s.rest).map (s.found ++ ·)

theorem result_start (tags : TagSet) (source : List Char) :
    (start source).result tags = Segment.ofSource tags source := by
  unfold result start Segment.ofSource
  cases segmentsFrom tags 0 [] source <;> rfl

variable {tags : TagSet} {s next : TagSearch} {r : Except Fault (List Segment)}

/-! ## The next marker -/

/-- The search for a marker passes over text and finds no tag. -/
theorem exists_seek (tags : TagSet) (s : TagSearch) : ∃ passed,
    s.rest = passed ++ (s.seek tags).rest ∧
      (s.seek tags).offset = s.offset + byteLength passed ∧ (s.seek tags).found = s.found := by
  obtain ⟨found, seen, offset, rest⟩ := s
  unfold seek
  dsimp only
  induction rest generalizing seen offset with
  | nil => exact ⟨[], rfl, rfl, rfl⟩
  | cons c cs ih =>
    unfold seekFrom
    split
    · exact ⟨[], rfl, rfl, rfl⟩
    · obtain ⟨passed, hrest, hoffset, hfound⟩ := ih (c :: seen) (offset + c.utf8Size)
      refine ⟨c :: passed, congrArg (c :: ·) hrest, ?_, hfound⟩
      rw [hoffset, byteLength_cons, Nat.add_assoc]

theorem seek_rest_suffix : (s.seek tags).rest <:+ s.rest := by
  obtain ⟨passed, hrest, -⟩ := exists_seek tags s
  exact ⟨passed, hrest.symm⟩

/-- Where there is no marker after the search for one, there is no text either. -/
theorem seek_rest_eq_nil (h : tags.foundAt? (s.seek tags).rest = none) :
    (s.seek tags).rest = [] := by
  obtain ⟨found, seen, offset, rest⟩ := s
  unfold seek at h ⊢
  dsimp only at h ⊢
  induction rest generalizing seen offset with
  | nil => rfl
  | cons c cs ih =>
    unfold seekFrom at h ⊢
    split at h
    · next hsome => exact absurd (h ▸ hsome : (none : Option (Tag × List Char)).isSome) nofun
    · next hnone => rw [if_neg hnone]; exact ih _ _ h

theorem seek_of_marker {c : Char} {cs : List Char} (hrest : s.rest = c :: cs)
    (h : (tags.foundAt? (c :: cs)).isSome = true) : s.seek tags = s := by
  obtain ⟨found, seen, offset, rest⟩ := s
  obtain rfl : rest = c :: cs := hrest
  exact if_pos h

/-- The search for a marker does not change the result. -/
theorem result_seek : (s.seek tags).result tags = s.result tags := by
  obtain ⟨found, seen, offset, rest⟩ := s
  unfold seek
  dsimp only
  induction rest generalizing seen offset with
  | nil => rfl
  | cons c cs ih =>
    unfold seekFrom
    split
    · rfl
    · next hnone =>
      have hnone : tags.foundAt? (c :: cs) = none := by simpa using hnone
      rw [ih]
      unfold result
      rw [segmentsFrom_unmarked hnone]

/-! ## What a turn can be -/

theorem exists_of_turnAt_goesOn (h : s.turnAt tags = .goesOn next) :
    ∃ tag inside body rest, tags.foundAt? s.rest = some (tag, inside) ∧
      bodyOf tag ⟨s.offset, s.offset + byteLength tag.openMark.toList⟩
        (s.offset + byteLength tag.openMark.toList) inside = .ok (body, rest) ∧
      ((tag.rejects body = true ∧ next = s.pass) ∨
        (tag.rejects body = false ∧ next = s.accept ⟨tag, s.offset, body⟩ rest)) := by
  unfold turnAt at h
  split at h
  · cases h
  · next tag inside hfound =>
    dsimp only at h
    split at h
    · cases h
    · next body rest hbody =>
      refine ⟨tag, inside, body, rest, hfound, hbody, ?_⟩
      split at h
      · next hrejects => exact .inl ⟨hrejects, (Turn.goesOn.inj h).symm⟩
      · next hrejects => exact .inr ⟨eq_false_of_ne_true hrejects, (Turn.goesOn.inj h).symm⟩

theorem of_turnAt_ends (h : s.turnAt tags = .ends r) :
    (tags.foundAt? s.rest = none ∧ r = .ok (s.found ++ Segment.ofText s.seen.reverse)) ∨
      ∃ tag inside fault, tags.foundAt? s.rest = some (tag, inside) ∧
        bodyOf tag ⟨s.offset, s.offset + byteLength tag.openMark.toList⟩
          (s.offset + byteLength tag.openMark.toList) inside = .error fault ∧ r = .error fault := by
  unfold turnAt at h
  split at h
  · next hfound => exact .inl ⟨hfound, (Turn.ends.inj h).symm⟩
  · next tag inside hfound =>
    dsimp only at h
    split at h
    · next fault hfault => exact .inr ⟨tag, inside, fault, hfound, hfault, (Turn.ends.inj h).symm⟩
    · split at h <;> cases h

/-! ## What a turn does to the result -/

theorem pass_of_rest {c : Char} {cs : List Char} (h : s.rest = c :: cs) :
    s.pass = ⟨s.found, c :: s.seen, s.offset + c.utf8Size, cs⟩ := by
  unfold pass
  rw [h]

/-- The search ends with its result. -/
theorem result_of_turn_ends (h : s.turn tags = .ends r) : s.result tags = r := by
  rw [← result_seek]
  obtain ⟨hnone, rfl⟩ | ⟨tag, inside, fault, hfound, hfault, rfl⟩ := of_turnAt_ends h
  · have hrest := seek_rest_eq_nil hnone
    unfold result
    rw [hrest] at hnone ⊢
    rw [segmentsFrom, hnone]
    rfl
  · unfold result
    rw [segmentsFrom_unclosed hfound hfault]
    rfl

/-- A turn that leaves less text does not change the result. -/
theorem result_of_turnAt_goesOn (h : s.turnAt tags = .goesOn next)
    (hlt : next.rest.length < s.rest.length) : s.result tags = next.result tags := by
  obtain ⟨tag, inside, body, rest, hfound, hbody, hnext⟩ := exists_of_turnAt_goesOn h
  obtain ⟨c, cs, hcs⟩ := List.exists_cons_of_length_pos (Nat.zero_lt_of_lt hlt)
  unfold result
  obtain ⟨hrejects, rfl⟩ | ⟨hrejects, rfl⟩ := hnext
  · rw [pass_of_rest hcs, hcs, segmentsFrom_rejected hbody (hcs ▸ hfound) hrejects]
  · rw [segmentsFrom_accepted hbody hfound hrejects hlt]
    unfold accept
    dsimp only
    cases segmentsFrom tags (⟨tag, s.offset, body⟩ : FoundTag).span.stop [] rest with
    | error fault => rfl
    | ok segments => simp [Except.map]

theorem result_of_turn_goesOn (h : s.turn tags = .goesOn next)
    (hlt : next.rest.length < (s.seek tags).rest.length) : s.result tags = next.result tags :=
  result_seek.symm.trans (result_of_turnAt_goesOn h hlt)

/-! ## Turns that leave as much text -/

/-- The search stands at a tag without markers, in front of more text. -/
def StandsAtBare (tags : TagSet) (s : TagSearch) : Prop :=
  s.rest ≠ [] ∧ ∃ tag, tag.IsBare ∧ tags.foundAt? s.rest = some (tag, s.rest)

/-- The body of a tag without a closing marker is empty. -/
theorem bodyOf_of_bare {tag : Tag} {cs : List Char} {opening : Span} {offset : Nat}
    (h : tag.IsBare) (hne : cs ≠ []) : bodyOf tag opening offset cs = .ok ([], cs) := by
  obtain ⟨c, cs, rfl⟩ := List.exists_cons_of_ne_nil hne
  have hclose : tag.closeMark.toList.isPrefixOf? (c :: cs) = some (c :: cs) := by
    rw [h.2]
    rfl
  rw [bodyOf, hclose]

/-- At a tag without markers a turn leaves the search where it stands. -/
theorem StandsAtBare.turn (h : s.StandsAtBare tags) :
    ∃ next, s.turn tags = .goesOn next ∧ next.StandsAtBare tags ∧ next.rest = s.rest := by
  obtain ⟨hne, tag, hbare, hfound⟩ := h
  obtain ⟨c, cs, hcs⟩ := List.exists_cons_of_ne_nil hne
  have hseek : s.seek tags = s := seek_of_marker hcs (by rw [← hcs, hfound]; rfl)
  have hrejects : tag.rejects [] = false := rfl
  refine ⟨s.accept ⟨tag, s.offset, []⟩ s.rest, ?_, ⟨hne, tag, hbare, hfound⟩, rfl⟩
  rw [TagSearch.turn, hseek, turnAt, hfound]
  simp only [bodyOf_of_bare hbare hne, hrejects, Bool.false_eq_true, if_false]

/-- **At a tag without markers the search never ends.** -/
theorem StandsAtBare.not_endsIn (h : s.StandsAtBare tags) (n : Nat) :
    ¬ EndsIn (TagSearch.turn tags) n s r := by
  refine not_endsIn_of_invariant (P := StandsAtBare tags) (fun s hs => ?_) h
  obtain ⟨next, hturn, hnext, -⟩ := hs.turn
  exact ⟨next, hturn, hnext⟩

/-- A body stands in a text, in front of its closing marker. -/
theorem length_of_found {tag : Tag} {cs inside body rest : List Char} {opening : Span}
    {offset : Nat} (hfound : tags.foundAt? cs = some (tag, inside))
    (hbody : bodyOf tag opening offset inside = .ok (body, rest)) :
    cs.length = tag.openMark.toList.length + body.length + tag.closeMark.toList.length +
      rest.length := by
  obtain ⟨-, rfl⟩ := TagSet.append_of_foundAt? hfound
  rw [append_of_bodyOf hbody]
  simp only [List.length_append]
  omega

theorem ne_nil_of_bodyOf {tag : Tag} {cs body rest : List Char} {opening : Span} {offset : Nat}
    (h : bodyOf tag opening offset cs = .ok (body, rest)) : cs ≠ [] := by
  rintro rfl
  rw [bodyOf] at h
  cases h

/-- A body that takes up no room, with its markers, belongs to a tag without markers. -/
theorem bare_of_not_shorter {tag : Tag} {cs inside body rest : List Char} {opening : Span}
    {offset : Nat} (hfound : tags.foundAt? cs = some (tag, inside))
    (hbody : bodyOf tag opening offset inside = .ok (body, rest))
    (hnot : ¬ rest.length < cs.length) : tag.IsBare ∧ inside = cs ∧ rest = cs := by
  have hlength := length_of_found hfound hbody
  have hopen : tag.openMark.toList = [] := List.length_eq_zero_iff.mp (by omega)
  have hclose : tag.closeMark.toList = [] := List.length_eq_zero_iff.mp (by omega)
  have hempty : body = [] := List.length_eq_zero_iff.mp (by omega)
  have hinside : cs = inside := by
    rw [(TagSet.append_of_foundAt? hfound).2, hopen, List.nil_append]
  have hrest : inside = rest := by
    rw [append_of_bodyOf hbody, hempty, hclose, List.nil_append, List.nil_append]
  exact ⟨⟨String.toList_eq_nil_iff.mp hopen, String.toList_eq_nil_iff.mp hclose⟩, hinside.symm,
    (hinside.trans hrest).symm⟩

/-- **Every other turn leaves less text.** A turn that does not comes to a tag without markers, and
the result is the fault that stands for this. -/
theorem shorter_or_standsAtBare (h : s.turn tags = .goesOn next) :
    next.rest.length < (s.seek tags).rest.length ∨
      (next.StandsAtBare tags ∧ ∃ span, s.result tags = .error ⟨.endlessTag, span⟩) := by
  obtain ⟨tag, inside, body, rest, hfound, hbody, hnext⟩ := exists_of_turnAt_goesOn h
  have hinside : inside ≠ [] := ne_nil_of_bodyOf hbody
  have hne : (s.seek tags).rest ≠ [] := by
    rw [(TagSet.append_of_foundAt? hfound).2]
    exact fun hnil => hinside (List.append_eq_nil_iff.mp hnil).2
  obtain ⟨-, rfl⟩ | ⟨hrejects, rfl⟩ := hnext
  · obtain ⟨c, cs, hcs⟩ := List.exists_cons_of_ne_nil hne
    rw [pass_of_rest hcs, hcs]
    exact .inl (Nat.lt_succ_self _)
  · by_cases hlt : rest.length < (s.seek tags).rest.length
    · exact .inl hlt
    · obtain ⟨hbare, rfl, rfl⟩ := bare_of_not_shorter hfound hbody hlt
      refine .inr ⟨⟨hne, tag, hbare, hfound⟩, ⟨(s.seek tags).offset, (s.seek tags).offset⟩, ?_⟩
      rw [← result_seek, result, segmentsFrom_endless hbody hfound hrejects hlt]
      rfl

/-! ## The end of the search -/

/-- The search for a closing marker is never at fault for a tag without markers. -/
theorem cause_of_bodyOf {tag : Tag} {cs : List Char} {opening : Span} {offset : Nat} {fault : Fault}
    (h : bodyOf tag opening offset cs = .error fault) : fault.cause ≠ .endlessTag := by
  fun_induction bodyOf tag opening offset cs with
  | case1 =>
    obtain rfl := Except.error.inj h
    exact Cause.noConfusion
  | case2 => cases h
  | case3 offset c cs _ _ ih =>
    obtain h | ⟨_, -, h⟩ := bind_eq_error_iff.mp h
    · exact ih h
    · cases h
  | case4 offset c cs _ shield _ _ =>
    obtain rfl := Except.error.inj h
    cases shield <;> exact Cause.noConfusion
  | case5 offset c cs _ shield _ after hafter passed =>
    rename_i ih
    obtain h | ⟨_, -, h⟩ := bind_eq_error_iff.mp h
    · exact ih h
    · cases h

/-- If the search ends, it does so with its result, which is not that fault. -/
theorem of_endsIn {n : Nat} (h : EndsIn (turn tags) n s r) :
    s.result tags = r ∧ ∀ span, r ≠ .error ⟨.endlessTag, span⟩ := by
  induction h with
  | now hturn =>
    refine ⟨result_of_turn_ends hturn, fun span hr => ?_⟩
    obtain ⟨-, rfl⟩ | ⟨tag, inside, fault, -, hfault, rfl⟩ := of_turnAt_ends hturn
    · exact nomatch hr
    · exact cause_of_bodyOf hfault (Except.error.inj hr ▸ rfl)
  | later hturn hnext ih =>
    obtain hlt | ⟨hbare, -⟩ := shorter_or_standsAtBare hturn
    · exact ⟨(result_of_turn_goesOn hturn hlt).trans ih.1, ih.2⟩
    · exact absurd hnext (hbare.not_endsIn _)

theorem exists_endsIn (h : ∀ span, s.result tags ≠ .error ⟨.endlessTag, span⟩) :
    ∃ n r, EndsIn (turn tags) n s r := by
  induction hlength : s.rest.length using Nat.strongRecOn generalizing s with
  | ind k ih =>
    cases hturn : s.turn tags with
    | ends r => exact ⟨1, r, .now hturn⟩
    | goesOn next =>
      obtain hlt | ⟨-, span, hspan⟩ := shorter_or_standsAtBare hturn
      · have hshorter : next.rest.length < k :=
          hlength ▸ Nat.lt_of_lt_of_le hlt seek_rest_suffix.length_le
        rw [result_of_turn_goesOn hturn hlt] at h
        obtain ⟨n, r, hnext⟩ := ih _ hshorter h rfl
        exact ⟨n + 1, r, .later hturn hnext⟩
      · exact absurd hspan (h span)

/-- **The search ends, unless its result is the fault of a tag without markers.** -/
theorem exists_endsIn_iff (source : List Char) :
    (∃ n r, EndsIn (turn tags) n (start source) r) ↔
      ∀ span, Segment.ofSource tags source ≠ .error ⟨.endlessTag, span⟩ := by
  rw [← result_start]
  constructor
  · rintro ⟨n, r, h⟩
    obtain ⟨rfl, hr⟩ := of_endsIn h
    exact hr
  · exact exists_endsIn

end TagSearch

end Stencil
