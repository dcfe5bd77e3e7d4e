import Mathlib.Data.List.Chain
import Stencil.Proofs.Result
import Stencil.Proofs.Tag.Opening
import Stencil.Tag.Segment

/-!
# Segments partition their source

What `Segment.ofSource` gives when it succeeds. The scan keeps the plain text that it has passed
since the last tag; a rejected tag leaves its first character there, so nothing is flushed early.

* `append_of_bodyOf`: what is read is cut off the front of the rest.
* `Tiling` lays segments end to end behind what stands before them; `tiling_ofSource` says that the
  segments of a source lie so.
* `Segment.shown` is what a segment shows of a source: a tag is only a span of it.
* `Partition` collects the facts for a whole source: nothing is lost, tags come in order and stand
  where they say, on boundaries of characters, and text is neither empty nor cut in two.
* `partition_of_tiling`: segments that tile a source are a partition of it.
-/

namespace Stencil

open Text

/-! ## What the scanners cut off -/

/-- What a shield leaves is a suffix, so what was passed over is the part in front of it. -/
theorem Shield.append_of_after? {shield : Shield} {c : Char} {cs after : List Char}
    (h : shield.after? (c :: cs) = some after) :
    c :: cs = (c :: cs).take ((c :: cs).length - after.length) ++ after := by
  obtain ⟨skipped, hskipped⟩ := (Shield.after?_suffix h).trans (List.suffix_cons c cs)
  rw [← hskipped, List.length_append, Nat.add_sub_cancel, List.take_left]

/-- A body and its closing marker are cut off the front. -/
theorem append_of_bodyOf {tag : Tag} {opening : Span} {offset : Nat} {cs body rest : List Char}
    (h : bodyOf tag opening offset cs = .ok (body, rest)) :
    cs = body ++ tag.closeMark.toList ++ rest := by
  fun_induction bodyOf tag opening offset cs generalizing body rest with
  | case1 => simp at h
  | case2 offset c cs rest' hclose =>
    obtain ⟨rfl, rfl⟩ := Prod.mk.inj (Except.ok.inj h)
    exact (append_eq_of_isPrefixOf? hclose).symm
  | case3 offset c cs _ _ ih =>
    obtain ⟨⟨body', rest'⟩, hrest, heq⟩ := bind_eq_ok_iff.mp h
    obtain ⟨rfl, rfl⟩ := Prod.mk.inj (Except.ok.inj heq)
    rw [ih hrest, List.cons_append, List.cons_append]
  | case4 => simp at h
  | case5 offset c cs _ shield _ after hafter passed =>
    rename_i ih
    obtain ⟨⟨body', rest'⟩, hrest, heq⟩ := bind_eq_ok_iff.mp h
    obtain ⟨rfl, rfl⟩ := Prod.mk.inj (Except.ok.inj heq)
    have hsplit : c :: cs = passed ++ after := Shield.append_of_after? hafter
    rw [hsplit, ih hrest]
    simp only [List.append_assoc]

/-! ## Tilings -/

/-- Segments that lie end to end over a text which stands behind `before`. A piece of text is not
empty and does not follow another one (`afterText`); a tag is registered, takes up room and knows
where it stands. -/
inductive Tiling (tags : TagSet) : Bool → List Char → List Segment → List Char → Prop where
  | nil {afterText : Bool} {before : List Char} : Tiling tags afterText before [] []
  | text {before value rest : List Char} {segments : List Segment} (hvalue : value ≠ [])
    (h : Tiling tags true (before ++ value) segments rest) :
    Tiling tags false before (.text value :: segments) (value ++ rest)
  | tag {afterText : Bool} {before rest : List Char} {found : FoundTag} {segments : List Segment}
    (htag : found.tag ∈ tags.tags) (hsource : found.source ≠ [])
    (hstart : found.start = byteLength before)
    (h : Tiling tags false (before ++ found.source) segments rest) :
    Tiling tags afterText before (.tag found :: segments) (found.source ++ rest)

/-- Text that was kept back, and then a tag or the end. -/
theorem Tiling.ofText {tags : TagSet} {before kept rest : List Char} {segments : List Segment}
    (h : ∀ afterText, Tiling tags afterText (before ++ kept) segments rest) :
    Tiling tags false before (Segment.ofText kept ++ segments) (kept ++ rest) := by
  unfold Segment.ofText
  cases kept with
  | nil => simpa using h false
  | cons c kept => exact .text (List.cons_ne_nil c kept) (h true)

theorem FoundTag.span_stop (t : FoundTag) : t.span.stop = t.start + byteLength t.source := by
  simp only [FoundTag.span, FoundTag.bodyStart, FoundTag.source, byteLength_append, Nat.add_assoc]

/-- A character that the scan keeps back moves the offset on. -/
theorem byteLength_keep (before seen : List Char) (c : Char) :
    byteLength (before ++ (c :: seen).reverse) =
      byteLength (before ++ seen.reverse) + c.utf8Size := by
  simp [Nat.add_assoc]

/-- **The scan tiles the text that it has kept back and the rest of the source.** -/
theorem tiling_segmentsFrom {tags : TagSet} {offset : Nat} {seen cs : List Char}
    {segments : List Segment} (h : segmentsFrom tags offset seen cs = .ok segments)
    {before : List Char} (hoffset : offset = byteLength (before ++ seen.reverse)) :
    Tiling tags false before segments (seen.reverse ++ cs) := by
  fun_induction segmentsFrom tags offset seen cs generalizing segments before with
  | case1 offset seen =>
    obtain rfl := Except.ok.inj h
    have hend := @Tiling.ofText tags before seen.reverse [] [] fun _ => .nil
    rwa [List.append_nil] at hend
  | case2 offset seen c cs _ ih =>
    have htail := ih h (by rw [hoffset, byteLength_keep])
    rwa [List.reverse_cons, List.append_assoc] at htail
  | case3 offset seen cs tag inside hfound _ ihreject =>
    rename_i ihaccept
    obtain ⟨⟨body, rest⟩, hbody, h⟩ := bind_eq_ok_iff.mp h
    dsimp only at h
    split at h
    · -- The first character of the marker joins the text that is kept back.
      cases cs with
      | nil =>
        obtain rfl := Except.ok.inj h
        have hend := @Tiling.ofText tags before seen.reverse [] [] fun _ => .nil
        rwa [List.append_nil] at hend
      | cons c cs =>
        have htail := ihreject h (by rw [hoffset, byteLength_keep])
        rwa [List.reverse_cons, List.append_assoc] at htail
    · split at h
      · next hshorter =>
        obtain ⟨tail, htail, heq⟩ := bind_eq_ok_iff.mp h
        obtain rfl := Except.ok.inj heq
        obtain ⟨htag, hopen⟩ := TagSet.append_of_foundAt? hfound
        have hcs : cs = FoundTag.source ⟨tag, offset, body⟩ ++ rest := by
          rw [hopen, append_of_bodyOf hbody]
          simp only [FoundTag.source, List.append_assoc]
        have hsource : FoundTag.source ⟨tag, offset, body⟩ ≠ [] := by
          intro hempty
          rw [hcs, hempty] at hshorter
          exact absurd hshorter (Nat.lt_irrefl _)
        have hbehind :
            Tiling tags false (before ++ seen.reverse ++ FoundTag.source ⟨tag, offset, body⟩) tail
              ([].reverse ++ rest) := by
          refine ihaccept body rest hshorter htail ?_
          rw [FoundTag.span_stop, List.reverse_nil, List.append_nil, byteLength_append, ← hoffset]
        rw [List.reverse_nil, List.nil_append] at hbehind
        rw [hcs]
        exact .ofText fun _ => .tag htag hsource hoffset hbehind
      · exact nomatch h

/-- The segments of a source tile it. -/
theorem tiling_ofSource {tags : TagSet} {source : List Char} {segments : List Segment}
    (h : Segment.ofSource tags source = .ok segments) : Tiling tags false [] segments source :=
  tiling_segmentsFrom h rfl

/-! ## Partitions -/

namespace Segment

/-- The tag of a piece that is one. -/
def tag? : Segment → Option FoundTag
  | .text _ => none
  | .tag t => some t

/-- Whether a piece is plain text. -/
def isText (s : Segment) : Bool := s.tag?.isNone

/-- What a piece shows of a source: a tag shows what stands at its span. -/
def shown (source : List Char) : Segment → List Char
  | .text value => value
  | .tag t => slice source t.span.start t.span.stop

end Segment

/-- Segments cut a source into pieces without loss. -/
structure Partition (tags : TagSet) (source : List Char) (segments : List Segment) : Prop where
  /-- The pieces together are the source. -/
  flatMap_shown : segments.flatMap (Segment.shown source) = source
  /-- No tag begins before the one in front of it has ended. -/
  increasing : (segments.filterMap Segment.tag?).Pairwise fun a b => a.span.stop ≤ b.span.start
  /-- Each tag takes up room and is registered. At its span stand its markers with the body between
  them, and the offsets of all three fall between characters. -/
  tag : ∀ t, .tag t ∈ segments → t.tag ∈ tags.tags ∧ t.span.start < t.span.stop ∧
    slice source t.span.start t.span.stop =
      t.tag.openMark.toList ++ t.body ++ t.tag.closeMark.toList ∧
    slice source t.bodyStart (t.bodyStart + byteLength t.body) = t.body ∧
    IsBoundary source t.span.start ∧ IsBoundary source t.bodyStart ∧
    IsBoundary source (t.bodyStart + byteLength t.body) ∧ IsBoundary source t.span.stop
  /-- No piece of text is empty. -/
  text_ne_nil : ∀ value, .text value ∈ segments → value ≠ []
  /-- No piece of text directly follows another. -/
  apart : segments.IsChain fun a b => ¬ (a.isText ∧ b.isText)

section Facts

variable {tags : TagSet} {afterText : Bool} {before rest : List Char} {segments : List Segment}

theorem Tiling.flatMap_source (h : Tiling tags afterText before segments rest) :
    segments.flatMap Segment.source = rest := by
  induction h with
  | nil => rfl
  | text _ _ ih => rw [List.flatMap_cons, ih]; rfl
  | tag _ _ _ _ ih => rw [List.flatMap_cons, ih]; rfl

/-- A tag stands where it says, in the text behind `before`. -/
theorem Tiling.split_at_tag (h : Tiling tags afterText before segments rest) {t : FoundTag}
    (ht : .tag t ∈ segments) : ∃ skipped after, rest = skipped ++ (t.source ++ after) ∧
      t.start = byteLength before + byteLength skipped := by
  induction h with
  | nil => exact absurd ht List.not_mem_nil
  | @text before value rest segments _ _ ih =>
    obtain ht | ht := List.mem_cons.mp ht
    · exact nomatch ht
    · obtain ⟨skipped, after, hrest, hstart⟩ := ih ht
      refine ⟨value ++ skipped, after, by rw [hrest, List.append_assoc], ?_⟩
      rw [hstart, byteLength_append, byteLength_append, Nat.add_assoc]
  | @tag _ before rest found segments _ _ hfound _ ih =>
    obtain ht | ht := List.mem_cons.mp ht
    · obtain rfl := Segment.tag.inj ht
      exact ⟨[], rest, rfl, hfound⟩
    · obtain ⟨skipped, after, hrest, hstart⟩ := ih ht
      refine ⟨found.source ++ skipped, after, by rw [hrest, List.append_assoc], ?_⟩
      rw [hstart, byteLength_append, byteLength_append, Nat.add_assoc]

theorem Tiling.registered (h : Tiling tags afterText before segments rest) {t : FoundTag}
    (ht : .tag t ∈ segments) : t.tag ∈ tags.tags ∧ t.source ≠ [] := by
  induction h with
  | nil => exact absurd ht List.not_mem_nil
  | text _ _ ih =>
    obtain ht | ht := List.mem_cons.mp ht
    · exact nomatch ht
    · exact ih ht
  | tag htag hsource _ _ ih =>
    obtain ht | ht := List.mem_cons.mp ht
    · obtain rfl := Segment.tag.inj ht
      exact ⟨htag, hsource⟩
    · exact ih ht

theorem Tiling.increasing (h : Tiling tags afterText before segments rest) :
    (segments.filterMap Segment.tag?).Pairwise fun a b => a.span.stop ≤ b.span.start := by
  induction h with
  | nil => exact List.Pairwise.nil
  | text _ _ ih => exact ih
  | @tag _ before rest found segments _ _ hfound h ih =>
    refine List.Pairwise.cons (fun t ht => ?_) ih
    obtain ⟨s, hs, hst⟩ := List.mem_filterMap.mp ht
    obtain ⟨skipped, _, _, hstart⟩ : ∃ skipped after, rest = skipped ++ (t.source ++ after) ∧
        t.start = byteLength (before ++ found.source) + byteLength skipped := by
      cases s with
      | text _ => exact nomatch hst
      | tag t' => exact h.split_at_tag (Option.some.inj hst ▸ hs)
    show found.span.stop ≤ t.start
    rw [FoundTag.span_stop, hfound, hstart, byteLength_append]
    exact Nat.le_add_right _ _

theorem Tiling.text_ne_nil (h : Tiling tags afterText before segments rest) {value : List Char}
    (hvalue : .text value ∈ segments) : value ≠ [] := by
  induction h with
  | nil => exact absurd hvalue List.not_mem_nil
  | text hne _ ih =>
    obtain heq | hmem := List.mem_cons.mp hvalue
    · exact Segment.text.inj heq ▸ hne
    · exact ih hmem
  | tag _ _ _ _ ih =>
    obtain heq | hmem := List.mem_cons.mp hvalue
    · exact nomatch heq
    · exact ih hmem

/-- Pieces of text lie apart, also from text in front of them. -/
theorem Tiling.apart (h : Tiling tags afterText before segments rest) :
    (∀ s ∈ segments.head?, afterText = true → s.isText = false) ∧
      segments.IsChain fun a b => ¬ (a.isText ∧ b.isText) := by
  induction h with
  | nil => exact ⟨nofun, List.IsChain.nil⟩
  | text _ _ ih =>
    refine ⟨nofun, List.isChain_cons.mpr ⟨fun s hs hboth => ?_, ih.2⟩⟩
    rw [ih.1 s hs rfl] at hboth
    exact Bool.false_ne_true hboth.2
  | tag _ _ _ _ ih =>
    refine ⟨fun s hs _ => Option.some.inj hs ▸ rfl,
      List.isChain_cons.mpr ⟨fun s _ hboth => ?_, ih.2⟩⟩
    exact Bool.false_ne_true hboth.1

/-- **Segments that tile a source are a partition of it.** -/
theorem partition_of_tiling {source : List Char} (h : Tiling tags false [] segments source) :
    Partition tags source segments := by
  have hsplit : ∀ t, .tag t ∈ segments → ∃ skipped after,
      source = skipped ++ (t.source ++ after) ∧ t.start = byteLength skipped := by
    intro t ht
    obtain ⟨skipped, after, hsource, hstart⟩ := h.split_at_tag ht
    exact ⟨skipped, after, hsource, by rw [hstart, byteLength_nil, Nat.zero_add]⟩
  have hslice : ∀ t, .tag t ∈ segments → slice source t.span.start t.span.stop = t.source := by
    intro t ht
    obtain ⟨skipped, after, hsource, hstart⟩ := hsplit t ht
    rw [FoundTag.span_stop, show t.span.start = t.start from rfl, hstart, hsource, slice_append]
  refine ⟨?_, h.increasing, fun t ht => ?_, fun _ => h.text_ne_nil, h.apart.2⟩
  · have hshown : ∀ s ∈ segments, s.shown source = s.source := by
      intro s hs
      cases s with
      | text _ => rfl
      | tag t => exact hslice t hs
    calc segments.flatMap (Segment.shown source) = segments.flatMap Segment.source := by
          simp only [List.flatMap_def, List.map_congr_left hshown]
      _ = source := h.flatMap_source
  · obtain ⟨htag, hne⟩ := h.registered ht
    obtain ⟨skipped, after, hsource, hstart⟩ := hsplit t ht
    have hsize : 0 < byteLength t.source :=
      Nat.pos_of_ne_zero fun e => hne (byteLength_eq_zero_iff.mp e)
    have hstop : t.span.stop = byteLength (skipped ++ t.source) := by
      rw [FoundTag.span_stop, hstart, byteLength_append]
    have hbody : t.bodyStart = byteLength (skipped ++ t.tag.openMark.toList) := by
      rw [FoundTag.bodyStart, hstart, byteLength_append]
    have hclose : t.bodyStart + byteLength t.body =
        byteLength (skipped ++ t.tag.openMark.toList ++ t.body) := by
      rw [hbody, ← byteLength_append]
    have hparts : source = skipped ++ t.tag.openMark.toList ++
        (t.body ++ (t.tag.closeMark.toList ++ after)) := by
      rw [hsource, FoundTag.source]
      simp only [List.append_assoc]
    refine ⟨htag, ?_, hslice t ht, ?_, ?_, ?_, ?_, ?_⟩
    · rw [FoundTag.span_stop]
      exact Nat.lt_add_of_pos_right hsize
    · rw [hparts, hbody, slice_append]
    · exact ⟨skipped, _, hsource, hstart⟩
    · exact ⟨_, _, hparts, hbody⟩
    · exact ⟨_, _, hparts.trans (List.append_assoc _ _ _).symm, hclose⟩
    · exact ⟨_, after, hsource.trans (List.append_assoc _ _ _).symm, hstop⟩

end Facts

end Stencil
