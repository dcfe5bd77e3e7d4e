import Stencil.Proofs.Script.Shift
import Stencil.Proofs.Tag.Agreement
import Stencil.Proofs.Tag.Classification
import Stencil.Proofs.Tag.Partition
import Stencil.Proofs.Tag.Standard
import Stencil.Proofs.Tag.Turns

/-!
# The search restarts behind a tag

What follows a source that ends with a tag changes nothing in its segments, and the search starts
there as in a source of its own.

* `skipNested_append`, `bodyOf_append` and `TagSet.foundAt?_append`: a scan that has ended in a
  text ends at the same place when more text follows. For opening markers this needs room: a marker
  may not begin in the text and end behind it.
* `bodyOf_shift` and `segmentsFrom_shift`: the segments of a text that has other text in front.
* `TagSet.Seamless`: no opening marker is longer than both markers of a tag together, so that there
  is room for every one of them wherever a tag is still to come.
* `segmentsFrom_append` and `ofSource_append`: the segments of a source that ends with a tag, and
  then those of what follows. `segments_restart` says it for the standard tags.
-/

namespace Stencil

open Script Text

/-! ## Longer texts -/

section Longer

variable {c d : Char} {start cs ds rest : List Char}

theorem Text.isPrefixOf?_append_of_length_le (h : start.length ≤ cs.length) (more : List Char) :
    start.isPrefixOf? (cs ++ more) = (start.isPrefixOf? cs).map (· ++ more) := by
  cases hprefix : start.isPrefixOf? cs with
  | none => exact isPrefixOf?_append_of_eq_none hprefix h more
  | some rest =>
    rw [← append_eq_of_isPrefixOf? hprefix, List.append_assoc, isPrefixOf?_append]
    rfl

/-- A scan that has left everything does not look at what follows. -/
theorem skipNested_append {nests : List Nest} (h : skipNested nests cs = some rest)
    (more : List Char) : skipNested nests (cs ++ more) = some (rest ++ more) := by
  fun_induction skipNested nests cs with
  | case1 =>
    obtain rfl := Option.some.inj h
    exact skipNested_nil
  | case2 | case3 | case6 => cases h
  | case4 | case7 | case8 | case10 =>
    rename_i ih
    exact ih h
  | case5 mark outer c cs hend hescape ih =>
    rw [List.cons_append, skipNested_quoted (ne_backslash hescape hend)]
    exact ih h
  | case9 outer c cs hend hescape hopen ih =>
    have hhole : ¬ ['$', '\x7b'] <+: c :: (cs ++ more) := by
      rintro ⟨ds, heq⟩
      obtain ⟨hdollar, htail⟩ := List.cons.inj heq
      cases cs with
      | nil =>
        rw [← hdollar] at h
        cases h
      | cons d cs => exact hopen cs hdollar.symm (congrArg (· :: cs) (List.cons.inj htail).1.symm)
    rw [List.cons_append, skipNested_template (ne_backslash hescape hend) hhole]
    exact ih h

namespace Shield

variable {shield : Shield}

/-- Two characters show what starts with them. -/
theorem ofStart?_cons_cons (c d : Char) (cs : List Char) :
    ofStart? (c :: d :: cs) = ofStart? [c, d] := by
  unfold ofStart?
  split
  · next heq => rw [(List.cons.inj heq).1]; rfl
  · next heq => rw [(List.cons.inj heq).1]; rfl
  · next heq => rw [(List.cons.inj heq).1]; rfl
  · next heq => rw [(List.cons.inj heq).1, (List.cons.inj (List.cons.inj heq).2).1]; rfl
  · split <;> simp_all

theorem after?_append (h : shield.after? cs = some rest) (more : List Char) :
    shield.after? (cs ++ more) = some (rest ++ more) := by
  obtain _ | ⟨c, cs⟩ := cs
  · cases shield <;> cases h
  · cases shield with
    | text mark => exact skipNested_append h more
    | template => exact skipNested_append h more
    | comment =>
      obtain _ | ⟨d, cs⟩ := cs
      · cases h
      · obtain ⟨⟨before, after⟩, hcut, rfl⟩ := Option.map_eq_some_iff.mp h
        exact congrArg (Option.map (·.2)) (cutAt?_append_right hcut more)

end Shield

variable {tag : Tag} {opening : Span} {offset : Nat} {body : List Char}

/-- In front of a closing marker there is room for another one. -/
theorem closeMark_isPrefixOf?_append (h : bodyOf tag opening offset cs = .ok (body, rest))
    (more : List Char) : tag.closeMark.toList.isPrefixOf? (cs ++ more) =
      (tag.closeMark.toList.isPrefixOf? cs).map (· ++ more) := by
  refine isPrefixOf?_append_of_length_le ?_ more
  rw [append_of_bodyOf h]
  simp only [List.length_append]
  omega

/-- Where a body goes on, the two characters that show what hides a marker are there. -/
theorem shield?_append (hne : cs ≠ []) (more : List Char) :
    tag.shield? (c :: (cs ++ more)) = tag.shield? (c :: cs) := by
  obtain ⟨d, ds, rfl⟩ := List.exists_cons_of_ne_nil hne
  unfold Tag.shield?
  rw [List.cons_append, Shield.ofStart?_cons_cons, Shield.ofStart?_cons_cons c d ds]

/-- A body that has a closing marker ends there, whatever follows. -/
theorem bodyOf_append (h : bodyOf tag opening offset cs = .ok (body, rest)) (more : List Char) :
    bodyOf tag opening offset (cs ++ more) = .ok (body, rest ++ more) := by
  have hclose := closeMark_isPrefixOf?_append h more
  fun_induction bodyOf tag opening offset cs generalizing body with
  | case1 => cases h
  | case2 offset c cs rest' hmarker =>
    obtain ⟨rfl, rfl⟩ := Prod.mk.inj (Except.ok.inj h)
    rw [hmarker, List.cons_append] at hclose
    rw [List.cons_append, bodyOf, hclose]
    rfl
  | case3 offset c cs hmarker hshield ih =>
    obtain ⟨⟨body', rest'⟩, hbody, heq⟩ := bind_eq_ok_iff.mp h
    obtain ⟨rfl, rfl⟩ := Prod.mk.inj (Except.ok.inj heq)
    rw [hmarker, List.cons_append] at hclose
    have hshield' : tag.shield? (c :: (cs ++ more)) = none :=
      (shield?_append (TagSearch.ne_nil_of_bodyOf hbody) more).trans hshield
    rw [List.cons_append, bodyOf_pass hclose hshield',
      ih hbody (closeMark_isPrefixOf?_append hbody more)]
    rfl
  | case4 => cases h
  | case5 offset c cs hmarker shield hshield after hafter passed =>
    rename_i ih
    obtain ⟨⟨body', rest'⟩, hbody, heq⟩ := bind_eq_ok_iff.mp h
    obtain ⟨rfl, rfl⟩ := Prod.mk.inj (Except.ok.inj heq)
    have hsplit : c :: cs = passed ++ after := Shield.append_of_after? hafter
    have hne : cs ≠ [] := by
      rintro rfl
      exact TagSearch.ne_nil_of_bodyOf hbody (List.suffix_nil.mp (Shield.after?_suffix hafter))
    have hsplit' : c :: (cs ++ more) = passed ++ (after ++ more) := by
      rw [← List.cons_append, hsplit, List.append_assoc]
    rw [hmarker, List.cons_append] at hclose
    rw [List.cons_append, bodyOf_hidden hclose ((shield?_append hne more).trans hshield)
      (Shield.after?_append hafter more) hsplit',
      ih hbody (closeMark_isPrefixOf?_append hbody more)]
    rfl

end Longer

/-! ## Opening markers -/

namespace TagSet

variable {t : TagSet} {cs : List Char}

theorem findSome?_congr {α β : Type} {f g : α → Option β} {l : List α} (h : ∀ a ∈ l, f a = g a) :
    l.findSome? f = l.findSome? g := by
  induction l with
  | nil => rfl
  | cons a l ih =>
    rw [List.forall_mem_cons] at h
    rw [List.findSome?_cons, List.findSome?_cons, h.1, ih h.2]

/-- The same marker is matched at the front of a longer text if there was room for every one. -/
theorem markerAt?_append (h : ∀ tag ∈ t.tags, tag.openMark.length ≤ cs.length)
    (more : List Char) : t.markerAt? (cs ++ more) =
      (t.markerAt? cs).map fun (openMark, rest) => (openMark, rest ++ more) := by
  unfold markerAt?
  rw [List.map_findSome?]
  refine findSome?_congr fun openMark hmem => ?_
  obtain ⟨tag, htag, rfl⟩ := mem_opens.mp hmem
  have hroom := h tag htag
  rw [← String.length_toList] at hroom
  rw [Function.comp, isPrefixOf?_append_of_length_le hroom, Option.map_map, Option.map_map]
  rfl

/-- A find with more text behind it. -/
def before (more : List Char) : Tag × List Char → Tag × List Char :=
  fun (tag, rest) => (tag, rest ++ more)

/-- The same tag is found at the front of a longer text if there was room for every marker. -/
theorem foundAt?_append (h : ∀ tag ∈ t.tags, tag.openMark.length ≤ cs.length)
    (more : List Char) : t.foundAt? (cs ++ more) = (t.foundAt? cs).map (before more) := by
  unfold foundAt?
  rw [markerAt?_append h]
  cases t.markerAt? cs with
  | none => rfl
  | some found => cases hget : t.get? found.1 <;> simp [hget, before]

/-- No opening marker is longer than both markers of a tag together. -/
def Seamless (t : TagSet) : Prop :=
  ∀ tag ∈ t.tags, ∀ other ∈ t.tags,
    other.openMark.length ≤ tag.openMark.length + tag.closeMark.length

theorem seamless_standard : standard.Seamless := by
  unfold Seamless
  rw [tags_standard]
  decide

end TagSet

/-! ## Moved texts -/

namespace Script

instance : Shift FoundTag := ⟨fun n t => { t with start := n + t.start }⟩

instance : Shift Segment :=
  ⟨fun n s =>
    match s with
    | .text value => .text value
    | .tag t => .tag (shift n t)⟩

end Script

section Moved

variable {n offset : Nat} {cs : List Char}

theorem FoundTag.shift_span (n : Nat) (t : FoundTag) : (shift n t).span = shift n t.span := by
  simp only [FoundTag.span, FoundTag.bodyStart, shift, Nat.add_assoc]

theorem bodyOf_shift (n : Nat) (tag : Tag) (opening : Span) (offset : Nat) (cs : List Char) :
    bodyOf tag (shift n opening) (n + offset) cs = shift n (bodyOf tag opening offset cs) := by
  fun_induction bodyOf tag opening offset cs with
  | case1 => rw [bodyOf]; rfl
  | case2 offset c cs rest hmarker =>
    rw [bodyOf, hmarker, shift_ok, shift_pair, shift_chars, shift_chars]
  | case3 offset c cs hmarker hshield ih =>
    rw [bodyOf_pass hmarker hshield, Nat.add_assoc, ih]
    cases bodyOf tag opening (offset + c.utf8Size) cs <;> rfl
  | case4 offset c cs hmarker shield hshield hafter =>
    rw [bodyOf_unclosed hmarker hshield hafter, shift_error, shift_span, Nat.add_assoc]
  | case5 offset c cs hmarker shield hshield after hafter passed ih =>
    rw [bodyOf_hidden hmarker hshield hafter (Shield.append_of_after? hafter),
      Nat.add_assoc, ih]
    cases bodyOf tag opening (offset + byteLength passed) after with
    | error fault => rfl
    | ok found =>
      show Except.ok (passed ++ shift n found.1, shift n found.2) =
        .ok (shift n (passed ++ found.1), shift n found.2)
      rw [shift_chars, shift_chars, shift_chars]

/-- There is a text where a body has been found. -/
theorem ne_nil_of_found {tags : TagSet} {tag : Tag} {inside body rest : List Char} {opening : Span}
    (hfound : tags.foundAt? cs = some (tag, inside))
    (hbody : bodyOf tag opening offset inside = .ok (body, rest)) : cs ≠ [] := by
  rw [(TagSet.append_of_foundAt? hfound).2]
  exact List.append_ne_nil_of_right_ne_nil _ (TagSearch.ne_nil_of_bodyOf hbody)

theorem shift_ofText (n : Nat) (text : List Char) :
    shift n (Segment.ofText text) = Segment.ofText text := by
  unfold Segment.ofText
  split <;> rfl

/-- **Where a text stands shows in the places of its tags and of its fault, and nowhere else.** -/
theorem segmentsFrom_shift (n : Nat) (tags : TagSet) (offset : Nat) (seen cs : List Char) :
    segmentsFrom tags (n + offset) seen cs = shift n (segmentsFrom tags offset seen cs) := by
  fun_induction segmentsFrom tags offset seen cs with
  | case1 offset seen hnone => rw [segmentsFrom, hnone, shift_ok, shift_ofText]
  | case2 offset seen c cs hnone ih => rw [segmentsFrom_unmarked hnone, Nat.add_assoc, ih]
  | case3 offset seen cs tag inside hfound bodyStart ihreject =>
    rename_i ihaccept
    have hbody : bodyOf tag ⟨n + offset, n + offset + byteLength tag.openMark.toList⟩
        (n + offset + byteLength tag.openMark.toList) inside =
          shift n (bodyOf tag ⟨offset, bodyStart⟩ bodyStart inside) := by
      rw [← bodyOf_shift, shift_span, Nat.add_assoc]
    cases hfind : bodyOf tag ⟨offset, bodyStart⟩ bodyStart inside with
    | error fault =>
      rw [hfind] at hbody
      rw [segmentsFrom_unclosed hfound hbody]
      rfl
    | ok found =>
      obtain ⟨body, rest⟩ := found
      rw [hfind, shift_ok, shift_pair, shift_chars, shift_chars] at hbody
      obtain ⟨c, cs, rfl⟩ := List.exists_cons_of_ne_nil (ne_nil_of_found hfound hfind)
      simp only [bind, Except.bind]
      split
      · next hrejects =>
        rw [segmentsFrom_rejected hbody hfound hrejects, Nat.add_assoc, ihreject]
      · next hrejects =>
        have hrejects := eq_false_of_ne_true hrejects
        split
        · next hlt =>
          have hstop : (⟨tag, n + offset, body⟩ : FoundTag).span.stop =
              n + (⟨tag, offset, body⟩ : FoundTag).span.stop :=
            congrArg Span.stop (FoundTag.shift_span n ⟨tag, offset, body⟩)
          rw [segmentsFrom_accepted hbody hfound hrejects hlt, hstop, ihaccept body rest hlt]
          cases segmentsFrom tags (⟨tag, offset, body⟩ : FoundTag).span.stop [] rest with
          | error fault => rfl
          | ok segments =>
            rw [shift_ok, shift_ok, shift_append, shift_ofText]
            rfl
        · next hlt =>
          rw [segmentsFrom_endless hbody hfound hrejects hlt]
          rfl

end Moved

/-! ## What follows a tag -/

section Follows

variable {tags : TagSet} {offset : Nat} {seen cs : List Char} {segments : List Segment}

theorem eq_nil_of_ofText {text : List Char}
    (h : ∀ s ∈ (Segment.ofText text).getLast?, s.isText = false) : text = [] := by
  unfold Segment.ofText at h
  split at h
  · next hempty => exact List.isEmpty_iff.mp hempty
  · exact nomatch h _ rfl

/-- The tag that stands at the front of a text leaves room for both of its markers. -/
theorem exists_tag_of_found {tag : Tag} {inside body rest : List Char} {opening : Span}
    (hfound : tags.foundAt? cs = some (tag, inside))
    (hbody : bodyOf tag opening offset inside = .ok (body, rest)) :
    ∃ tag ∈ tags.tags, tag.openMark.length + tag.closeMark.length ≤ cs.length := by
  refine ⟨tag, (TagSet.append_of_foundAt? hfound).1, ?_⟩
  have hlength := TagSearch.length_of_found hfound hbody
  rw [String.length_toList, String.length_toList] at hlength
  omega

/-- Where the segments of a text do not end with plain text, a tag stands in the text, or there is
nothing at all. -/
theorem exists_tag_of_segmentsFrom (h : segmentsFrom tags offset seen cs = .ok segments)
    (hlast : ∀ s ∈ segments.getLast?, s.isText = false) :
    seen = [] ∧ cs = [] ∨
      ∃ tag ∈ tags.tags, tag.openMark.length + tag.closeMark.length ≤ cs.length := by
  fun_induction segmentsFrom tags offset seen cs with
  | case1 offset seen hnone =>
    obtain rfl := Except.ok.inj h
    exact .inl ⟨List.reverse_eq_nil_iff.mp (eq_nil_of_ofText hlast), rfl⟩
  | case2 offset seen c cs hnone ih =>
    obtain ⟨hseen, -⟩ | ⟨tag, htag, hle⟩ := ih h
    · cases hseen
    · exact .inr ⟨tag, htag, Nat.le_succ_of_le hle⟩
  | case3 offset seen cs tag inside hfound bodyStart =>
    obtain ⟨⟨body, rest⟩, hbody, -⟩ := bind_eq_ok_iff.mp h
    exact .inr (exists_tag_of_found hfound hbody)

theorem TagSet.Seamless.room (h : tags.Seamless)
    (hroom : ∃ tag ∈ tags.tags, tag.openMark.length + tag.closeMark.length ≤ cs.length) :
    ∀ tag ∈ tags.tags, tag.openMark.length ≤ cs.length := by
  obtain ⟨tag, htag, hle⟩ := hroom
  exact fun other hother => (h tag htag other hother).trans hle

/-- The last segment is that of the rest, where there is one. -/
theorem isText_of_getLast? {front tail : List Segment} {t : FoundTag}
    (h : ∀ s ∈ (front ++ .tag t :: tail).getLast?, s.isText = false) :
    ∀ s ∈ tail.getLast?, s.isText = false := by
  intro s hs
  refine h s ?_
  rw [Option.mem_def] at hs
  rw [Option.mem_def, List.getLast?_append, List.getLast?_cons, hs]
  rfl

/-- **The search restarts behind a tag.** If the segments of a text do not end with plain text, then
those of a longer text are these and then the segments of what follows, as if nothing stood in front
of it. -/
theorem segmentsFrom_append (hseamless : tags.Seamless)
    (h : segmentsFrom tags offset seen cs = .ok segments)
    (hlast : ∀ s ∈ segments.getLast?, s.isText = false) (more : List Char) :
    segmentsFrom tags offset seen (cs ++ more) =
      (segmentsFrom tags (offset + byteLength cs) [] more).map (segments ++ ·) := by
  fun_induction segmentsFrom tags offset seen cs generalizing segments with
  | case1 offset seen hnone =>
    obtain rfl := Except.ok.inj h
    obtain rfl := List.reverse_eq_nil_iff.mp (eq_nil_of_ofText hlast)
    exact (congrFun Except.map_id (segmentsFrom tags offset [] more)).symm
  | case2 offset seen c cs hnone ih =>
    obtain ⟨hseen, -⟩ | ⟨tag, htag, hle⟩ := exists_tag_of_segmentsFrom h hlast
    · cases hseen
    have hroom : ∀ tag ∈ tags.tags, tag.openMark.length ≤ (c :: cs).length :=
      hseamless.room ⟨tag, htag, Nat.le_succ_of_le hle⟩
    have hfound := TagSet.foundAt?_append hroom more
    rw [hnone, List.cons_append] at hfound
    rw [List.cons_append, segmentsFrom_unmarked hfound, ih h hlast, byteLength_cons, Nat.add_assoc]
  | case3 offset seen cs tag inside hfound bodyStart ihreject =>
    rename_i ihaccept
    obtain ⟨⟨body, rest⟩, hbody, h⟩ := bind_eq_ok_iff.mp h
    have hroom := hseamless.room (exists_tag_of_found hfound hbody)
    have hfound' := TagSet.foundAt?_append hroom more
    rw [hfound] at hfound'
    have hbody' := bodyOf_append hbody more
    dsimp only at h
    split at h
    · next hrejects =>
      obtain ⟨c, cs, rfl⟩ := List.exists_cons_of_ne_nil (ne_nil_of_found hfound hbody)
      rw [List.cons_append] at hfound'
      rw [List.cons_append, segmentsFrom_rejected hbody' hfound' hrejects, ihreject h hlast,
        byteLength_cons, Nat.add_assoc]
    · next hrejects =>
      have hrejects := eq_false_of_ne_true hrejects
      split at h
      · next hlt =>
        obtain ⟨tail, htail, heq⟩ := bind_eq_ok_iff.mp h
        obtain rfl := Except.ok.inj heq
        have hlt' : (rest ++ more).length < (cs ++ more).length := by
          rw [List.length_append, List.length_append]
          exact Nat.add_lt_add_right hlt _
        have hstop : (⟨tag, offset, body⟩ : FoundTag).span.stop + byteLength rest =
            offset + byteLength cs := by
          rw [FoundTag.span_stop, Nat.add_assoc, ← byteLength_append,
            (TagSet.append_of_foundAt? hfound).2, append_of_bodyOf hbody]
          simp only [FoundTag.source, List.append_assoc]
        rw [segmentsFrom_accepted hbody' hfound' hrejects hlt',
          ihaccept body rest hlt htail (isText_of_getLast? hlast), hstop]
        cases segmentsFrom tags (offset + byteLength cs) [] more with
        | error fault => rfl
        | ok others =>
          exact congrArg Except.ok (List.append_assoc _ (_ :: tail) others).symm
      · cases h

end Follows

/-! ## Sources that end with a tag -/

section Sources

variable {tags : TagSet} {source : List Char} {segments : List Segment} {found : FoundTag}

/-- The segments of a source that ends with a tag, and those of what follows. -/
theorem ofSource_append (hseamless : tags.Seamless)
    (h : Segment.ofSource tags source = .ok segments)
    (hlast : segments.getLast? = some (.tag found)) (more : List Char) :
    Segment.ofSource tags (source ++ more) =
      (shift (byteLength source) (Segment.ofSource tags more)).map (segments ++ ·) := by
  have hnot : ∀ s ∈ segments.getLast?, s.isText = false := by
    rw [hlast]
    rintro s ⟨⟩
    rfl
  unfold Segment.ofSource
  rw [segmentsFrom_append hseamless h hnot, ← segmentsFrom_shift, Nat.zero_add, Nat.add_zero]

/-- **Lexing restarts behind a tag.** A text behind a source that ends with a tag can be cut up if
and only if it can be on its own, and then its segments follow those of the source, moved to where
the text stands. -/
theorem segments_restart (h : Segment.ofSource .standard source = .ok segments)
    (hlast : segments.getLast? = some (.tag found)) (more : List Char) :
    ((∃ all, Segment.ofSource .standard (source ++ more) = .ok all) ↔
        ∃ others, Segment.ofSource .standard more = .ok others) ∧
      ∀ others, Segment.ofSource .standard more = .ok others →
        Segment.ofSource .standard (source ++ more) =
          .ok (segments ++ shift (byteLength source) others) := by
  rw [ofSource_append TagSet.seamless_standard h hlast]
  cases Segment.ofSource .standard more with
  | error fault => exact ⟨⟨nofun, nofun⟩, nofun⟩
  | ok others =>
    refine ⟨⟨fun _ => ⟨others, rfl⟩, fun _ => ⟨_, rfl⟩⟩, ?_⟩
    rintro _ ⟨⟩
    rfl

/-- A candidate that was rejected for its line feed stays text, and the backticks of the last tag do
not join the brace behind them. -/
theorem segments_restart_seam :
    Segment.ofSource .standard "``a\n``b``\x7bc``d``".toList =
      .ok [.text "``a\n".toList, .tag ⟨plainTag, 4, ['b']⟩, .text "\x7bc".toList,
        .tag ⟨plainTag, 11, ['d']⟩] := by
  have hsource : Segment.ofSource .standard "``a\n``b``".toList =
      .ok [.text "``a\n".toList, .tag ⟨plainTag, 4, ['b']⟩] := by cbv
  have hmore : Segment.ofSource .standard "\x7bc``d``".toList =
      .ok [.text "\x7bc".toList, .tag ⟨plainTag, 2, ['d']⟩] := by cbv
  exact (segments_restart hsource rfl _).2 _ hmore

end Sources

end Stencil
