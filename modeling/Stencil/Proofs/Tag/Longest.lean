import Mathlib
import Stencil.Program
import Stencil.Proofs.Tag.Standard
import Stencil.Proofs.Tag.Turns

/-!
# The longest marker wins

* `TagSet.ofPushes` registers tags one after the other. Of the tags with one opening marker the last
  one stays (`TagSet.mem_ofPushes`), so that no two have the same.
* `TagSet.foundAt?_eq_some_iff`: then the tag that is found at the front of a text is the one with
  the longest marker there, wherever it stands among the tags. The pattern takes the first of its
  alternatives, so this is due to their order.
* `FoundTag.IsFoundIn`: a tag was found in a source where it says. Every turn of the search keeps
  this (`TagSearch.Sound.of_turn`), so that it holds of all segments (`isFoundIn_of_ofSource`).
* `ofSource_congr`: only tags whose opening marker occurs in the source have a part in its segments.
* `compile_congr`: sets of the same tags compile every source to the same.
-/

namespace Stencil

open Text

/-- Whether a tag is the last one of those in a list that have its opening marker. -/
def Tag.IsLastOf (tag : Tag) (pushed : List Tag) : Prop :=
  ∃ before after, pushed = before ++ tag :: after ∧
    ∀ other ∈ after, other.openMark ≠ tag.openMark

theorem Tag.isLastOf_concat {tag new : Tag} {pushed : List Tag} :
    tag.IsLastOf (pushed ++ [new]) ↔
      tag = new ∨ tag.IsLastOf pushed ∧ tag.openMark ≠ new.openMark := by
  constructor
  · rintro ⟨before, after, heq, hafter⟩
    obtain rfl | ⟨after, last, rfl⟩ := after.eq_nil_or_concat'
    · obtain ⟨-, hnew⟩ := List.append_inj' heq rfl
      exact .inl (List.cons.inj hnew).1.symm
    · rw [← List.cons_append, ← List.append_assoc] at heq
      obtain ⟨rfl, hnew⟩ := List.append_inj' heq rfl
      obtain rfl : new = last := (List.cons.inj hnew).1
      rw [List.forall_mem_append, List.forall_mem_singleton] at hafter
      exact .inr ⟨⟨before, after, rfl, hafter.1⟩, hafter.2.symm⟩
  · rintro (rfl | ⟨⟨before, after, rfl, hafter⟩, hne⟩)
    · exact ⟨pushed, [], rfl, nofun⟩
    · refine ⟨before, after ++ [new], by simp, ?_⟩
      rw [List.forall_mem_append, List.forall_mem_singleton]
      exact ⟨hafter, hne.symm⟩

namespace TagSet

variable {t u : TagSet} {tag other : Tag} {cs inside : List Char}

/-! ## Registering tags -/

/-- The set of tags that are registered one after the other. -/
def ofPushes (pushed : List Tag) : TagSet := pushed.foldl push empty

theorem ofPushes_concat (pushed : List Tag) (tag : Tag) :
    ofPushes (pushed ++ [tag]) = (ofPushes pushed).push tag := List.foldl_concat ..

theorem mem_push :
    other ∈ (t.push tag).tags ↔ other = tag ∨ other ∈ t.tags ∧ other.openMark ≠ tag.openMark := by
  unfold push
  rw [List.mem_append, List.mem_filter, List.mem_singleton, decide_eq_true_iff]
  exact or_comm

/-- **The last tag that was registered with an opening marker is the one in the set.** -/
theorem mem_ofPushes {pushed : List Tag} :
    tag ∈ (ofPushes pushed).tags ↔ tag.IsLastOf pushed := by
  induction pushed using List.reverseRecOn with
  | nil =>
    refine ⟨fun h => absurd h List.not_mem_nil, ?_⟩
    rintro ⟨before, after, h, -⟩
    exact absurd h (by simp)
  | append_singleton pushed new ih => rw [ofPushes_concat, mem_push, ih, Tag.isLastOf_concat]

/-- No two tags have the same opening marker. -/
def Distinct (t : TagSet) : Prop := (t.tags.map Tag.openMark).Nodup

theorem Distinct.eq (h : t.Distinct) (htag : tag ∈ t.tags) (hother : other ∈ t.tags)
    (heq : tag.openMark = other.openMark) : tag = other :=
  List.inj_on_of_nodup_map h htag hother heq

/-- Registering a tag keeps opening markers distinct. -/
theorem Distinct.push (h : t.Distinct) (tag : Tag) : (t.push tag).Distinct := by
  unfold Distinct TagSet.push
  rw [List.map_append, List.map_singleton, List.nodup_append]
  refine ⟨h.sublist (List.filter_sublist.map _), List.nodup_singleton _, fun a ha b hb => ?_⟩
  obtain ⟨other, hother, rfl⟩ := List.mem_map.mp ha
  obtain rfl := List.mem_singleton.mp hb
  exact of_decide_eq_true (List.mem_filter.mp hother).2

theorem distinct_ofPushes (pushed : List Tag) : (ofPushes pushed).Distinct :=
  List.foldlRecOn (motive := Distinct) pushed push List.nodup_nil fun _ h tag _ => h.push tag

/-- The tags of templates are registered like this, too. -/
example : TagSet.standard = .ofPushes TagSet.standard.tags := rfl

/-! ## The longest marker -/

/-- **The tag at the front of a text is the one with the longest opening marker there.** -/
theorem foundAt?_eq_some_iff (h : t.Distinct) :
    t.foundAt? cs = some (tag, inside) ↔
      tag ∈ t.tags ∧ cs = tag.openMark.toList ++ inside ∧ ∀ other ∈ t.tags,
        other.openMark.toList <+: cs → other.openMark.length ≤ tag.openMark.length := by
  constructor
  · intro hfound
    obtain ⟨openMark, hmarker, hget⟩ := foundAt?_eq_some_iff_marker.mp hfound
    obtain ⟨htag, rfl⟩ := mem_of_get? hget
    obtain ⟨-, hcs, hlongest⟩ := markerAt?_eq_some_iff.mp hmarker
    exact ⟨htag, hcs, fun other hother => hlongest _ (mem_opens.mpr ⟨other, hother, rfl⟩)⟩
  · rintro ⟨htag, hcs, hlongest⟩
    have hopen : tag.openMark ∈ t.opens := mem_opens.mpr ⟨tag, htag, rfl⟩
    have hmarker : t.markerAt? cs = some (tag.openMark, inside) := by
      refine markerAt?_eq_some_iff.mpr ⟨hopen, hcs, fun openMark hmem => ?_⟩
      obtain ⟨other, hother, rfl⟩ := mem_opens.mp hmem
      exact hlongest other hother
    obtain ⟨found, hget⟩ := exists_get? hopen
    obtain ⟨hfound, hmark⟩ := mem_of_get? hget
    obtain rfl := h.eq hfound htag hmark
    exact foundAt?_eq_some_iff_marker.mpr ⟨_, hmarker, hget⟩

/-- Two sets find the same where they have the same tags with markers that stand there. -/
theorem foundAt?_congr (ht : t.Distinct) (hu : u.Distinct)
    (h : ∀ tag : Tag, tag.openMark.toList <+: cs → (tag ∈ t.tags ↔ tag ∈ u.tags)) :
    t.foundAt? cs = u.foundAt? cs := by
  refine Option.ext fun ⟨tag, inside⟩ => ?_
  rw [foundAt?_eq_some_iff ht, foundAt?_eq_some_iff hu]
  have hall : (∀ other ∈ t.tags, other.openMark.toList <+: cs →
      other.openMark.length ≤ tag.openMark.length) ↔ ∀ other ∈ u.tags,
        other.openMark.toList <+: cs → other.openMark.length ≤ tag.openMark.length :=
    forall_congr' fun other => ⟨fun hle hmem hstands => hle ((h other hstands).mpr hmem) hstands,
      fun hle hmem hstands => hle ((h other hstands).mp hmem) hstands⟩
  rw [hall]
  constructor
  · rintro ⟨hmem, rfl, hle⟩
    exact ⟨(h tag (List.prefix_append _ _)).mp hmem, rfl, hle⟩
  · rintro ⟨hmem, rfl, hle⟩
    exact ⟨(h tag (List.prefix_append _ _)).mpr hmem, rfl, hle⟩

/-- The pattern does not depend on the order of registration. -/
theorem Distinct.opens_eq (ht : t.Distinct) (hu : u.Distinct)
    (h : ∀ tag, tag ∈ t.tags ↔ tag ∈ u.tags) : t.opens = u.opens := by
  refine opens_congr ((List.perm_ext_iff_of_nodup ht hu).mpr fun openMark => ?_)
  simp only [List.mem_map, h]

end TagSet

/-! ## Tags that have no part in a source -/

/-- Two sets that find the same everywhere in a text cut it in the same way. -/
theorem segmentsFrom_congr {t u : TagSet} {offset : Nat} {seen cs : List Char}
    (h : ∀ suffix, suffix <:+ cs → t.foundAt? suffix = u.foundAt? suffix) :
    segmentsFrom t offset seen cs = segmentsFrom u offset seen cs := by
  fun_induction segmentsFrom t offset seen cs with
  | case1 offset seen hnone =>
    rw [segmentsFrom.eq_def u, ← h [] (List.suffix_refl _), hnone]
  | case2 offset seen c cs hnone ih =>
    rw [segmentsFrom.eq_def u, ← h (c :: cs) (List.suffix_refl _), hnone]
    exact ih fun suffix hs => h suffix (hs.trans (List.suffix_cons c cs))
  | case3 offset seen cs tag inside hfound bodyStart ihreject =>
    rename_i ihaccept
    rw [segmentsFrom.eq_def u, ← h cs (List.suffix_refl _), hfound]
    dsimp only
    cases hbody : bodyOf tag ⟨offset, bodyStart⟩ bodyStart inside with
    | error fault => rfl
    | ok found =>
      obtain ⟨body, rest⟩ := found
      have hrest : rest <:+ cs := by
        rw [(TagSet.append_of_foundAt? hfound).2, append_of_bodyOf hbody]
        exact (List.suffix_append _ _).trans (List.suffix_append _ _)
      simp only [bind, Except.bind]
      split
      · cases cs with
        | nil => rfl
        | cons c cs => exact ihreject fun suffix hs => h suffix (hs.trans (List.suffix_cons c cs))
      · split
        · next hlt => rw [ihaccept body rest hlt fun suffix hs => h suffix (hs.trans hrest)]
        · rfl

/-- **Only tags whose opening marker occurs in a source have a part in its segments.** -/
theorem ofSource_congr {t u : TagSet} {source : List Char} (ht : t.Distinct) (hu : u.Distinct)
    (h : ∀ tag : Tag, tag.openMark.toList <:+: source → (tag ∈ t.tags ↔ tag ∈ u.tags)) :
    Segment.ofSource t source = Segment.ofSource u source :=
  segmentsFrom_congr fun _ hsuffix => TagSet.foundAt?_congr ht hu fun tag hstands =>
    h tag (hstands.isInfix.trans hsuffix.isInfix)

/-- **The order of registration does not matter.** Sets of the same tags have one pattern, which is
built for both or refused for both, and find the same in every source. -/
theorem compile_congr {t u : TagSet} (ht : t.Distinct) (hu : u.Distinct)
    (hrefuses : t.refuses = u.refuses) (h : ∀ tag, tag ∈ t.tags ↔ tag ∈ u.tags) (source : String)
    (file : Nat) : Program.compile t source file = Program.compile u source file := by
  have hsegments : Segment.ofSource t source.toList = Segment.ofSource u source.toList :=
    ofSource_congr ht hu fun tag _ => h tag
  have hempty : t.isEmpty = u.isEmpty := by
    rw [Bool.eq_iff_iff, TagSet.isEmpty, TagSet.isEmpty, List.isEmpty_iff, List.isEmpty_iff,
      List.eq_nil_iff_forall_not_mem, List.eq_nil_iff_forall_not_mem]
    exact forall_congr' fun tag => not_congr (h tag)
  have hrefusal : t.refusal? = u.refusal? := by
    rw [TagSet.refusal?, TagSet.refusal?, hempty, hrefuses, ht.opens_eq hu h]
  rw [Program.compile, Program.compile, hrefusal, Program.compileSource, Program.compileSource,
    hsegments]

/-! ## The tags of a source -/

/-- A tag stands in a source where it says, and its marker is found there. -/
def FoundTag.IsFoundIn (t : FoundTag) (tags : TagSet) (source : List Char) : Prop :=
  ∃ before rest, source = before ++ (t.source ++ rest) ∧ t.start = byteLength before ∧
    ∃ inside, tags.foundAt? (t.source ++ rest) = some (t.tag, inside)

namespace TagSearch

variable {tags : TagSet} {source : List Char} {s next : TagSearch}

/-- The search stands where its offset says, and the tags that it has found stand in the source. -/
structure Sound (tags : TagSet) (source : List Char) (s : TagSearch) : Prop where
  place : ∃ before, source = before ++ s.rest ∧ s.offset = byteLength before
  found : ∀ t, .tag t ∈ s.found → t.IsFoundIn tags source

theorem sound_start (tags : TagSet) (source : List Char) : (start source).Sound tags source :=
  ⟨⟨[], rfl, rfl⟩, fun _ h => absurd h List.not_mem_nil⟩

theorem Sound.seek (h : s.Sound tags source) : (s.seek tags).Sound tags source := by
  obtain ⟨⟨before, hsource, hoffset⟩, hall⟩ := h
  obtain ⟨passed, hrest, hseek, hfound⟩ := exists_seek tags s
  refine ⟨⟨before ++ passed, ?_, ?_⟩, ?_⟩
  · rw [hsource, hrest, List.append_assoc]
  · rw [hseek, hoffset, byteLength_append]
  · rw [hfound]
    exact hall

theorem Sound.pass (h : s.Sound tags source) : s.pass.Sound tags source := by
  unfold TagSearch.pass
  split
  · exact h
  · next c cs hrest =>
    obtain ⟨⟨before, hsource, hoffset⟩, hall⟩ := h
    refine ⟨⟨before ++ [c], ?_, ?_⟩, hall⟩
    · rw [hsource, hrest, List.append_assoc, List.singleton_append]
    · dsimp only
      rw [hoffset, byteLength_append, byteLength_cons, byteLength_nil, Nat.add_zero]

theorem not_mem_ofText {t : FoundTag} {text : List Char} :
    .tag t ∉ Segment.ofText text := by
  unfold Segment.ofText
  split <;> simp

/-- A tag that is accepted stands where the search does. -/
theorem Sound.accept (h : s.Sound tags source) {t : FoundTag} {rest inside : List Char}
    (hstart : t.start = s.offset) (hrest : s.rest = t.source ++ rest)
    (hfound : tags.foundAt? s.rest = some (t.tag, inside)) :
    (s.accept t rest).Sound tags source := by
  obtain ⟨⟨before, hsource, hoffset⟩, hall⟩ := h
  rw [hrest] at hsource hfound
  refine ⟨⟨before ++ t.source, ?_, ?_⟩, fun other hother => ?_⟩
  · rw [hsource, List.append_assoc]
    rfl
  · dsimp only [TagSearch.accept]
    rw [FoundTag.span_stop, hstart, hoffset, byteLength_append]
  · obtain hother | hother | hother := by
      simpa only [TagSearch.accept, List.mem_append, List.mem_singleton] using hother
    · exact hall other hother
    · exact absurd hother not_mem_ofText
    · obtain rfl := Segment.tag.inj hother
      exact ⟨before, rest, hsource, hstart.trans hoffset, inside, hfound⟩

/-- **Every turn keeps the search sound.** -/
theorem Sound.of_turn (h : s.Sound tags source) (hturn : s.turn tags = .goesOn next) :
    next.Sound tags source := by
  obtain ⟨tag, inside, body, rest, hfound, hbody, hnext⟩ := exists_of_turnAt_goesOn hturn
  obtain ⟨-, rfl⟩ | ⟨-, rfl⟩ := hnext
  · exact h.seek.pass
  · refine h.seek.accept rfl ?_ hfound
    rw [(TagSet.append_of_foundAt? hfound).2, append_of_bodyOf hbody]
    simp only [FoundTag.source, List.append_assoc]

end TagSearch

/-- **Every tag of a source stands there.** -/
theorem isFoundIn_of_ofSource {tags : TagSet} {source : List Char} {segments : List Segment}
    (h : Segment.ofSource tags source = .ok segments) {t : FoundTag} (ht : .tag t ∈ segments) :
    t.IsFoundIn tags source := by
  obtain ⟨n, r, hends⟩ := (TagSearch.exists_endsIn_iff source).mpr fun span hspan =>
    nomatch hspan.symm.trans h
  obtain ⟨hresult, -⟩ := TagSearch.of_endsIn hends
  obtain rfl : r = .ok segments := by rw [← hresult, TagSearch.result_start, h]
  obtain ⟨last, hlast, hturn⟩ := hends.invariant (fun s next hs => hs.of_turn)
    (TagSearch.sound_start tags source)
  obtain ⟨-, hsegments⟩ | ⟨tag, inside, fault, -, -, hfault⟩ := TagSearch.of_turnAt_ends hturn
  · obtain rfl := Except.ok.inj hsegments
    obtain ht | ht := List.mem_append.mp ht
    · exact hlast.seek.found t ht
    · exact absurd ht TagSearch.not_mem_ofText
  · exact nomatch hfault

/-! ## The order of registration -/

end Stencil
