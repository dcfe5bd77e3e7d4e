import Mathlib
import Stencil.Proofs.Tag.Turns

/-!
# The scans of a source end

The cutting of a source is made of four loops: the search for tags, the search for a closing marker,
and inside of scripts the scans over quoted texts and templates and over block comments.

* `TagSearch.advances_iff`: the search for tags advances unless it can come to a tag that has
  neither an opening nor a closing marker.
* `MarkerSearch` is the search for a closing marker, `Nest.turn` and `Shield.commentTurn` are turns
  of the two scans. They always advance.
* `scans_end`: without such a tag all four loops end, with what `Segment.ofSource`, `bodyOf`,
  `skipNested` and `Text.cutAt?` give, in no more turns than the text has characters and one.
-/

namespace Stencil

open Text

/-! ## The search for tags -/

namespace TagSearch

variable {tags : TagSet}

theorem not_standsAtBare (h : ∀ tag ∈ tags.tags, ¬ tag.IsBare) (s : TagSearch) :
    ¬ s.StandsAtBare tags := by
  rintro ⟨-, tag, hbare, hfound⟩
  exact h tag (TagSet.append_of_foundAt? hfound).1 hbare

/-- The search for tags advances if and only if it never stands at a tag without markers. -/
theorem advances_iff :
    Advances (turn tags) (fun s => s.rest.length) ↔ ∀ s, ¬ StandsAtBare tags s := by
  constructor
  · intro h s hs
    obtain ⟨next, hturn, -, hrest⟩ := hs.turn
    have hlt : next.rest.length < s.rest.length := h s next hturn
    rw [hrest] at hlt
    exact Nat.lt_irrefl _ hlt
  · intro h s next hturn
    obtain hlt | ⟨hbare, -⟩ := shorter_or_standsAtBare hturn
    · exact Nat.lt_of_lt_of_le hlt seek_rest_suffix.length_le
    · exact absurd hbare (h next)

/-- A search that advances ends with the segments of the source. -/
theorem endsIn_ofSource (h : Advances (turn tags) fun s => s.rest.length) (source : List Char) :
    ∃ n, n ≤ source.length + 1 ∧
      EndsIn (turn tags) n (start source) (Segment.ofSource tags source) := by
  obtain ⟨n, r, hn, hr⟩ := h.endsIn (start source)
  obtain ⟨rfl, -⟩ := of_endsIn hr
  rw [result_start] at hr
  exact ⟨n, hn, hr⟩

end TagSearch

/-! ## The search for a closing marker -/

/-- Where the search for a closing marker stands. -/
structure MarkerSearch where
  /-- The body as far as it has been passed. -/
  passed : List Char
  /-- The byte offset of the rest. -/
  offset : Nat
  rest : List Char

namespace MarkerSearch

/-- The search at the end of a part of the rest, behind which there is `after`. -/
def pass (s : MarkerSearch) (after : List Char) : MarkerSearch :=
  let part := s.rest.take (s.rest.length - after.length)
  ⟨s.passed ++ part, s.offset + byteLength part, after⟩

/-- A turn of the search: the marker, one character, or what hides a marker. -/
def turn (tag : Tag) (opening : Span) (s : MarkerSearch) :
    Turn MarkerSearch (Except Fault (List Char × List Char)) :=
  match s.rest with
  | [] => .ends (.error ⟨.unterminatedTag tag.closeMark, opening⟩)
  | c :: cs =>
    match tag.closeMark.toList.isPrefixOf? (c :: cs) with
    | some rest => .ends (.ok (s.passed, rest))
    | none =>
      match if tag.holdsScript then Shield.ofStart? (c :: cs) else none with
      | none => .goesOn (s.pass cs)
      | some shield =>
        match shield.after? (c :: cs) with
        | none => .ends (.error ⟨shield.unclosed, ⟨s.offset, s.offset + byteLength (c :: cs)⟩⟩)
        | some after => .goesOn (s.pass after)

/-- What the search comes to. -/
def result (tag : Tag) (opening : Span) (s : MarkerSearch) :
    Except Fault (List Char × List Char) :=
  (bodyOf tag opening s.offset s.rest).map fun (body, rest) => (s.passed ++ body, rest)

variable {tag : Tag} {opening : Span} {s next : MarkerSearch}
  {r : Except Fault (List Char × List Char)}

/-- The search goes on with a rest that is shorter, by a part that belongs to the body. -/
theorem exists_of_turn_goesOn (h : s.turn tag opening = .goesOn next) :
    ∃ c cs after, s.rest = c :: cs ∧ after <:+ cs ∧ next = s.pass after := by
  unfold turn at h
  split at h
  · cases h
  · next c cs hrest =>
    refine ⟨c, cs, ?_⟩
    split at h
    · cases h
    · split at h
      · exact ⟨cs, hrest, List.suffix_refl cs, (Turn.goesOn.inj h).symm⟩
      · split at h
        · cases h
        · next after hafter =>
          exact ⟨after, hrest, Shield.after?_suffix hafter, (Turn.goesOn.inj h).symm⟩

theorem result_of_turn_ends (h : s.turn tag opening = .ends r) : s.result tag opening = r := by
  obtain ⟨passed, offset, rest⟩ := s
  unfold turn at h
  unfold result
  dsimp only at h ⊢
  fun_cases bodyOf tag opening offset rest with
  | case1 => exact Turn.ends.inj h
  | case2 c cs rest hclose =>
    simp only [hclose] at h
    obtain rfl := Turn.ends.inj h
    simp [Except.map]
  | case3 c cs hclose hshield =>
    simp only [hclose, hshield] at h
    exact nomatch h
  | case4 c cs hclose shield hshield hafter =>
    simp only [hclose, hshield, hafter] at h
    exact Turn.ends.inj h
  | case5 c cs hclose shield hshield after hafter =>
    simp only [hclose, hshield, hafter] at h
    exact nomatch h

theorem result_of_turn_goesOn (h : s.turn tag opening = .goesOn next) :
    s.result tag opening = next.result tag opening := by
  obtain ⟨passed, offset, rest⟩ := s
  unfold turn at h
  unfold result
  dsimp only at h ⊢
  fun_cases bodyOf tag opening offset rest with
  | case1 => exact nomatch h
  | case2 c cs rest hclose =>
    simp only [hclose] at h
    exact nomatch h
  | case3 c cs hclose hshield =>
    simp only [hclose, hshield] at h
    obtain rfl := Turn.goesOn.inj h
    have hpart : (c :: cs).take ((c :: cs).length - cs.length) = [c] := by simp
    simp only [pass, hpart, byteLength_cons, byteLength_nil, Nat.add_zero]
    cases bodyOf tag opening (offset + c.utf8Size) cs with
    | error fault => rfl
    | ok found => simp [bind, Except.bind, Except.map]
  | case4 c cs hclose shield hshield hafter =>
    simp only [hclose, hshield, hafter] at h
    exact nomatch h
  | case5 c cs hclose shield hshield after hafter part =>
    simp only [hclose, hshield, hafter] at h
    obtain rfl := Turn.goesOn.inj h
    dsimp only [pass, part]
    generalize (c :: cs).take ((c :: cs).length - after.length) = part
    cases bodyOf tag opening (offset + byteLength part) after with
    | error fault => rfl
    | ok found => simp [bind, Except.bind, Except.map]

/-- The search advances to the body that `bodyOf` gives, behind what has been passed. -/
theorem computes (tag : Tag) (opening : Span) :
    Computes (turn tag opening) (fun s => s.rest.length) (result tag opening) where
  of_ends _ _ := result_of_turn_ends
  of_goesOn s next h := by
    refine ⟨?_, result_of_turn_goesOn h⟩
    obtain ⟨c, cs, after, hrest, hafter, rfl⟩ := exists_of_turn_goesOn h
    dsimp only [pass]
    rw [hrest]
    exact Nat.lt_succ_of_le hafter.length_le

theorem result_start (tag : Tag) (opening : Span) (offset : Nat) (cs : List Char) :
    (⟨[], offset, cs⟩ : MarkerSearch).result tag opening = bodyOf tag opening offset cs := by
  unfold result
  cases bodyOf tag opening offset cs <;> rfl

end MarkerSearch

/-! ## What hides a closing marker -/

/-- A turn of the scan over nested constructs, which passes over a character, with the one behind it
if it is a backslash or opens a hole. -/
def Nest.turn : List Nest × List Char → Turn (List Nest × List Char) (Option (List Char))
  | ([], cs) => .ends (some cs)
  | (_ :: _, []) => .ends none
  | (.quoted mark :: outer, c :: cs) =>
    match c, cs with
    | '\\', [] => .ends none
    | '\\', _ :: cs => .goesOn (.quoted mark :: outer, cs)
    | c, cs => .goesOn (if c = mark then outer else .quoted mark :: outer, cs)
  | (.template :: outer, c :: cs) =>
    match c, cs with
    | '\\', [] => .ends none
    | '\\', _ :: cs => .goesOn (.template :: outer, cs)
    | '$', '\x7b' :: cs => .goesOn (.hole 1 :: .template :: outer, cs)
    | c, cs => .goesOn (if c = '`' then outer else .template :: outer, cs)
  | (.hole braces :: outer, c :: cs) =>
    .goesOn
      (if c = '"' || c = '\'' then .quoted c :: .hole braces :: outer
      else if c = '`' then .template :: .hole braces :: outer
      else if c = '\x7b' then .hole (braces + 1) :: outer
      else if c = '\x7d' then if braces ≤ 1 then outer else .hole (braces - 1) :: outer
      else .hole braces :: outer, cs)

/-- The scan advances to what `skipNested` gives. -/
theorem Nest.computes :
    Computes Nest.turn (fun s => s.2.length) (fun s => skipNested s.1 s.2) where
  of_ends := by
    rintro ⟨nests, cs⟩ r h
    unfold turn at h
    dsimp only at h ⊢
    fun_cases skipNested nests cs with
    | case1 | case2 | case3 | case6 => exact Turn.ends.inj h
    | case4 | case5 | case7 | case8 | case9 | case10 => simp_all
  of_goesOn := by
    rintro ⟨nests, cs⟩ next h
    unfold turn at h
    dsimp only at h ⊢
    fun_cases skipNested nests cs with
    | case1 | case2 | case3 | case6 => cases h
    | case4 | case7 | case8 =>
      obtain rfl := Turn.goesOn.inj h
      exact ⟨Nat.lt_succ_of_lt (Nat.lt_succ_self _), rfl⟩
    | case5 | case9 =>
      simp_all only [Turn.goesOn.injEq]
      subst h
      exact ⟨Nat.lt_succ_self _, rfl⟩
    | case10 =>
      obtain rfl := Turn.goesOn.inj h
      exact ⟨Nat.lt_succ_self _, rfl⟩

/-- A turn of the scan for the end of a block comment. -/
def Shield.commentTurn : List Char → Turn (List Char) (Option (List Char))
  | [] => .ends none
  | c :: cs =>
    match ['*', '/'].isPrefixOf? (c :: cs) with
    | some rest => .ends (some rest)
    | none => .goesOn cs

/-- The scan advances to the rest behind the comment. -/
theorem Shield.commentTurn_computes :
    Computes commentTurn List.length fun cs => (cutAt? ['*', '/'] cs).map (·.2) where
  of_ends cs r h := by
    cases cs with
    | nil => exact Turn.ends.inj h
    | cons c cs =>
      cases hend : ['*', '/'].isPrefixOf? (c :: cs) with
      | none =>
        simp only [commentTurn, hend] at h
        cases h
      | some rest =>
        simp only [commentTurn, hend] at h
        simpa only [cutAt?, hend, Option.map_some] using Turn.ends.inj h
  of_goesOn cs next h := by
    cases cs with
    | nil => cases h
    | cons c cs =>
      cases hend : ['*', '/'].isPrefixOf? (c :: cs) with
      | none =>
        simp only [commentTurn, hend] at h
        obtain rfl := Turn.goesOn.inj h
        refine ⟨Nat.lt_succ_self _, ?_⟩
        simp only [cutAt?, hend, Option.map_map, Function.comp_def]
      | some rest =>
        simp only [commentTurn, hend] at h
        cases h

/-! ## All scans -/

/-- **The scans of a source end**, after no more turns than there are characters and one. Every turn
of the search for tags that does not end it leaves less text if all tags have a marker; in general
the search ends unless the fault `endlessTag` says that it does not. The search for a closing marker
and the scans over what hides one leave less text after every turn, whatever the tags are. -/
theorem scans_end (tags : TagSet) :
    ((∀ tag ∈ tags.tags, ¬ tag.IsBare) →
      Advances (TagSearch.turn tags) (fun s => s.rest.length) ∧
        ∀ source, ∃ n, n ≤ source.length + 1 ∧
          EndsIn (TagSearch.turn tags) n (.start source) (Segment.ofSource tags source)) ∧
    (∀ source, (∃ n r, EndsIn (TagSearch.turn tags) n (.start source) r) ↔
      ∀ span, Segment.ofSource tags source ≠ .error ⟨.endlessTag, span⟩) ∧
    (∀ tag opening, Advances (MarkerSearch.turn tag opening) (fun s => s.rest.length) ∧
      ∀ offset cs, ∃ n, n ≤ cs.length + 1 ∧
        EndsIn (MarkerSearch.turn tag opening) n ⟨[], offset, cs⟩
          (bodyOf tag opening offset cs)) ∧
    (Advances Nest.turn (fun s => s.2.length) ∧
      ∀ nests cs, ∃ n, n ≤ cs.length + 1 ∧
        EndsIn Nest.turn n (nests, cs) (skipNested nests cs)) ∧
    Advances Shield.commentTurn List.length ∧
      ∀ cs, ∃ n, n ≤ cs.length + 1 ∧
        EndsIn Shield.commentTurn n cs ((cutAt? ['*', '/'] cs).map (·.2)) := by
  refine ⟨fun h => ?_, TagSearch.exists_endsIn_iff, fun tag opening => ?_, ?_, ?_⟩
  · have hadvances := TagSearch.advances_iff.mpr (TagSearch.not_standsAtBare h)
    exact ⟨hadvances, TagSearch.endsIn_ofSource hadvances⟩
  · have hcomputes := MarkerSearch.computes tag opening
    refine ⟨hcomputes.advances, fun offset cs => ?_⟩
    rw [← MarkerSearch.result_start]
    exact hcomputes.endsIn ⟨[], offset, cs⟩
  · exact ⟨Nest.computes.advances, fun nests cs => Nest.computes.endsIn (nests, cs)⟩
  · exact ⟨Shield.commentTurn_computes.advances, Shield.commentTurn_computes.endsIn⟩

/-- A tag that has an opening marker only ends right behind it, and the search goes on there. -/
theorem scans_end_unclosed :
    ∃ n, n ≤ 4 ∧ EndsIn (TagSearch.turn (TagSet.empty.push (.ofMarkers "@" ""))) n
      (.start ['a', '@', 'b'])
      (.ok [.text ['a'], .tag ⟨.ofMarkers "@" "", 1, []⟩, .text ['b']]) := by
  have hsegments : Segment.ofSource (TagSet.empty.push (.ofMarkers "@" "")) ['a', '@', 'b'] =
      .ok [.text ['a'], .tag ⟨.ofMarkers "@" "", 1, []⟩, .text ['b']] := by
    cbv
  rw [← hsegments]
  exact ((scans_end _).1 (by decide)).2 ['a', '@', 'b']

/-- With a tag that has no markers registered, the search does not advance and never ends. -/
theorem not_endsIn_of_bare :
    ¬ Advances (TagSearch.turn (TagSet.empty.push (.ofMarkers "" ""))) (fun s => s.rest.length) ∧
      ∀ n r, ¬ EndsIn (TagSearch.turn (TagSet.empty.push (.ofMarkers "" ""))) n
        (.start ['x']) r := by
  have hbare : (TagSearch.start ['x']).StandsAtBare (TagSet.empty.push (.ofMarkers "" "")) :=
    ⟨List.cons_ne_nil _ _, .ofMarkers "" "", ⟨rfl, rfl⟩, by cbv⟩
  exact ⟨fun h => TagSearch.advances_iff.mp h _ hbare, fun n r => hbare.not_endsIn n⟩

end Stencil
