import Stencil.Proofs.Text.Search
import Stencil.Tag.Set

/-!
# The pattern for opening markers

What is found at the front of a text is the first alternative of a pattern that stands there, looked
up among the tags. That it is the longest marker is due to the order of the alternatives.

* `mem_opens`: the alternatives are the opening markers. `precedes` orders them linearly, so that
  the pattern does not depend on the order of registration (`opens_congr`).
* `refusal?_of_size_le`: the pattern is built unless markers are very long.
* `markerAt?_eq_some_iff`: **the marker that is matched is the longest one that stands there.**
* `exists_get?`: a marker that is matched is one of a tag, so that the look-up never fails
  (`foundAt?_eq_none_iff`).
* `append_of_foundAt?` and `foundAt?_of_longest`: the tag that is found has its marker there, and it
  is found if every other tag that has one there has a shorter one.
-/

namespace Stencil.TagSet

open Text

variable {t u : TagSet} {tag : Tag} {openMark a b : String} {cs rest inside : List Char}

/-! ## The order of the alternatives -/

theorem precedes_iff : precedes a b = true ↔
    b.utf8ByteSize < a.utf8ByteSize ∨ b.utf8ByteSize = a.utf8ByteSize ∧ a ≤ b := by
  simp [precedes]

theorem size_le_of_precedes (h : precedes a b = true) : b.utf8ByteSize ≤ a.utf8ByteSize := by
  obtain h | ⟨h, -⟩ := precedes_iff.mp h
  · exact Nat.le_of_lt h
  · exact Nat.le_of_eq h

theorem precedes_trans (a b c : String) (hab : precedes a b = true) (hbc : precedes b c = true) :
    precedes a c = true := by
  rw [precedes_iff] at hab hbc ⊢
  obtain hab | ⟨hab, hle⟩ := hab
  · obtain hbc | ⟨hbc, -⟩ := hbc
    · exact .inl (hbc.trans hab)
    · exact .inl (hbc ▸ hab)
  · obtain hbc | ⟨hbc, hle'⟩ := hbc
    · exact .inl (hab ▸ hbc)
    · exact .inr ⟨hbc.trans hab, String.le_trans hle hle'⟩

theorem precedes_total (a b : String) : (precedes a b || precedes b a) = true := by
  rw [Bool.or_eq_true, precedes_iff, precedes_iff]
  obtain h | h | h := Nat.lt_trichotomy a.utf8ByteSize b.utf8ByteSize
  · exact .inr (.inl h)
  · obtain hle | hle := String.le_total a b
    · exact .inl (.inr ⟨h.symm, hle⟩)
    · exact .inr (.inr ⟨h, hle⟩)
  · exact .inl (.inl h)

theorem precedes_antisymm (hab : precedes a b = true) (hba : precedes b a = true) : a = b := by
  obtain hlt | ⟨-, hle⟩ := precedes_iff.mp hab
  · exact absurd hlt (Nat.not_lt.mpr (size_le_of_precedes hba))
  · obtain hlt | ⟨-, hle'⟩ := precedes_iff.mp hba
    · exact absurd hlt (Nat.not_lt.mpr (size_le_of_precedes hab))
    · exact String.le_antisymm hle hle'

/-! ## The alternatives -/

theorem mem_opens : openMark ∈ t.opens ↔ ∃ tag ∈ t.tags, tag.openMark = openMark := by
  rw [opens, List.mem_mergeSort, List.mem_map]

theorem pairwise_opens (t : TagSet) : t.opens.Pairwise fun a b => precedes a b = true :=
  List.pairwise_mergeSort precedes_trans precedes_total _

/-- The pattern depends on the opening markers alone, and not on their order. -/
theorem opens_congr (h : (t.tags.map Tag.openMark).Perm (u.tags.map Tag.openMark)) :
    t.opens = u.opens := by
  refine List.Perm.eq_of_pairwise (fun _ _ _ _ => precedes_antisymm) (pairwise_opens t)
    (pairwise_opens u) ?_
  exact (List.mergeSort_perm _ _).trans (h.trans (List.mergeSort_perm _ _).symm)

theorem bytes_congr {texts others : List String} (h : texts.Perm others) :
    Refusal.bytes texts = Refusal.bytes others :=
  h.foldl_eq' (fun a _ b _ bytes => Nat.add_right_comm bytes a.utf8ByteSize b.utf8ByteSize) 0

/-- The pattern of tags whose markers are not too long is built. -/
theorem refusal?_of_size_le (hrefuses : t.refuses = .ofSize)
    (h : 32 * Refusal.bytes (t.tags.map Tag.openMark) + 208 ≤ Refusal.limit) :
    t.refusal? = none := by
  have hbytes : Refusal.bytes t.opens = _ := bytes_congr (List.mergeSort_perm _ _)
  unfold refusal?
  split
  · rfl
  · rw [hrefuses, Refusal.ofSize, hbytes, if_neg (Nat.not_lt.mpr h)]

/-! ## The marker that is matched -/

/-- Of two markers at the front of one text the one with more bytes has more characters. -/
theorem length_le_of_size_le (ha : a.toList <+: cs) (hb : b.toList <+: cs)
    (h : a.utf8ByteSize ≤ b.utf8ByteSize) : a.length ≤ b.length := by
  rw [← String.length_toList, ← String.length_toList]
  obtain hab | ⟨more, hmore⟩ := List.prefix_or_prefix_of_prefix ha hb
  · exact hab.length_le
  · rw [← byteLength_toList, ← byteLength_toList, ← hmore, byteLength_append] at h
    have hnone : more = [] := byteLength_eq_zero_iff.mp (by omega)
    rw [← hmore, hnone, List.append_nil]

/-- The first text of a list that stands at the front of another one. -/
theorem findSome?_isPrefixOf?_eq_some_iff {texts : List String} :
    (texts.findSome? fun text => (text.toList.isPrefixOf? cs).map fun rest => (text, rest)) =
        some (openMark, rest) ↔
      cs = openMark.toList ++ rest ∧ ∃ before after, texts = before ++ openMark :: after ∧
        ∀ text ∈ before, ¬ text.toList <+: cs := by
  rw [List.findSome?_eq_some_iff]
  constructor
  · rintro ⟨before, text, after, rfl, hfound, hbefore⟩
    obtain ⟨found, hstands, heq⟩ := Option.map_eq_some_iff.mp hfound
    obtain ⟨rfl, rfl⟩ := Prod.mk.inj heq
    refine ⟨(append_eq_of_isPrefixOf? hstands).symm, before, after, rfl, fun other hother => ?_⟩
    rintro ⟨left, hleft⟩
    have hnone := hbefore other hother
    rw [← hleft, isPrefixOf?_append] at hnone
    exact nomatch hnone
  · rintro ⟨rfl, before, after, rfl, hbefore⟩
    refine ⟨before, openMark, after, rfl, by rw [isPrefixOf?_append, Option.map_some],
      fun other hother => ?_⟩
    rw [Option.map_eq_none_iff]
    cases hstands : other.toList.isPrefixOf? (openMark.toList ++ rest) with
    | none => rfl
    | some left =>
      exact absurd ⟨left, append_eq_of_isPrefixOf? hstands⟩ (hbefore other hother)

/-- **The marker that the pattern matches is the longest one that stands there.** -/
theorem markerAt?_eq_some_iff :
    t.markerAt? cs = some (openMark, rest) ↔
      openMark ∈ t.opens ∧ cs = openMark.toList ++ rest ∧
        ∀ other ∈ t.opens, other.toList <+: cs → other.length ≤ openMark.length := by
  rw [markerAt?, findSome?_isPrefixOf?_eq_some_iff]
  constructor
  · rintro ⟨hcs, before, after, hopens, hbefore⟩
    have hsorted := pairwise_opens t
    rw [hopens, List.pairwise_append, List.pairwise_cons] at hsorted
    obtain ⟨-, ⟨hafter, -⟩, -⟩ := hsorted
    refine ⟨hopens ▸ List.mem_append_right _ List.mem_cons_self, hcs,
      fun other hother hstands => ?_⟩
    rw [hopens, List.mem_append, List.mem_cons] at hother
    obtain hother | rfl | hother := hother
    · exact absurd hstands (hbefore other hother)
    · exact Nat.le_refl _
    · exact length_le_of_size_le hstands ⟨rest, hcs.symm⟩
        (size_le_of_precedes (hafter other hother))
  · rintro ⟨hmem, hcs, hlongest⟩
    obtain ⟨before, after, hopens, hbefore⟩ := List.eq_append_cons_of_mem hmem
    refine ⟨hcs, before, after, hopens, fun other hother hstands => ?_⟩
    -- An earlier alternative is no shorter, so that it would be the same marker.
    have hsorted := pairwise_opens t
    rw [hopens, List.pairwise_append] at hsorted
    have hprecedes := hsorted.2.2 other hother openMark List.mem_cons_self
    have hlength : other.length = openMark.length := Nat.le_antisymm
      (hlongest other (hopens ▸ List.mem_append_left _ hother) hstands)
      (length_le_of_size_le ⟨rest, hcs.symm⟩ hstands (size_le_of_precedes hprecedes))
    rw [← String.length_toList, ← String.length_toList] at hlength
    have heq : other.toList = openMark.toList := by
      refine List.IsPrefix.eq_of_length ?_ hlength
      exact List.prefix_of_prefix_length_le hstands ⟨rest, hcs.symm⟩ (Nat.le_of_eq hlength)
    exact hbefore (String.toList_inj.mp heq ▸ hother)

theorem markerAt?_eq_none_iff :
    t.markerAt? cs = none ↔ ∀ tag ∈ t.tags, ¬ tag.openMark.toList <+: cs := by
  rw [markerAt?, List.findSome?_eq_none_iff]
  constructor
  · rintro h tag htag ⟨rest, rfl⟩
    have hnone := h tag.openMark (mem_opens.mpr ⟨tag, htag, rfl⟩)
    rw [isPrefixOf?_append] at hnone
    exact nomatch hnone
  · intro h openMark hmem
    obtain ⟨tag, htag, rfl⟩ := mem_opens.mp hmem
    cases hstands : tag.openMark.toList.isPrefixOf? cs with
    | none => rfl
    | some rest => exact absurd ⟨rest, append_eq_of_isPrefixOf? hstands⟩ (h tag htag)

/-! ## The tag that is found -/

theorem mem_of_get? (h : t.get? openMark = some tag) :
    tag ∈ t.tags ∧ tag.openMark = openMark := by
  have hmark := List.find?_some h
  exact ⟨List.mem_of_find?_eq_some h, of_decide_eq_true hmark⟩

/-- A marker of the pattern belongs to a tag. -/
theorem exists_get? (h : openMark ∈ t.opens) : ∃ tag, t.get? openMark = some tag := by
  obtain ⟨tag, htag, hmark⟩ := mem_opens.mp h
  exact Option.isSome_iff_exists.mp
    (List.find?_isSome.mpr ⟨tag, htag, decide_eq_true hmark⟩)

theorem foundAt?_eq_some_iff_marker :
    t.foundAt? cs = some (tag, inside) ↔
      ∃ openMark, t.markerAt? cs = some (openMark, inside) ∧ t.get? openMark = some tag := by
  unfold foundAt?
  constructor
  · intro h
    obtain ⟨⟨openMark, rest⟩, hmarker, h⟩ := Option.bind_eq_some_iff.mp h
    obtain ⟨found, hfound, heq⟩ := Option.bind_eq_some_iff.mp h
    obtain ⟨rfl, rfl⟩ := Prod.mk.inj (Option.some.inj heq)
    exact ⟨openMark, hmarker, hfound⟩
  · rintro ⟨openMark, hmarker, hfound⟩
    exact Option.bind_eq_some_iff.mpr ⟨(openMark, inside), hmarker,
      Option.bind_eq_some_iff.mpr ⟨tag, hfound, rfl⟩⟩

/-- Nothing is found only where no marker stands: what is matched is always registered. -/
theorem foundAt?_eq_none_iff :
    t.foundAt? cs = none ↔ ∀ tag ∈ t.tags, ¬ tag.openMark.toList <+: cs := by
  rw [← markerAt?_eq_none_iff]
  constructor
  · intro h
    cases hmarker : t.markerAt? cs with
    | none => rfl
    | some found =>
      obtain ⟨openMark, rest⟩ := found
      obtain ⟨tag, hget⟩ := exists_get? (markerAt?_eq_some_iff.mp hmarker).1
      exact nomatch h.symm.trans (foundAt?_eq_some_iff_marker.mpr ⟨openMark, hmarker, hget⟩)
  · intro h
    rw [foundAt?, h]
    rfl

/-- The tag found at the front of a text is registered, and its opening marker is cut off. -/
theorem append_of_foundAt? (h : t.foundAt? cs = some (tag, inside)) :
    tag ∈ t.tags ∧ cs = tag.openMark.toList ++ inside := by
  obtain ⟨openMark, hmarker, hget⟩ := foundAt?_eq_some_iff_marker.mp h
  obtain ⟨htag, rfl⟩ := mem_of_get? hget
  exact ⟨htag, (markerAt?_eq_some_iff.mp hmarker).2.1⟩

/-- A tag is found where its marker stands if every other tag with a marker there has a shorter
one. -/
theorem foundAt?_of_longest (htag : tag ∈ t.tags)
    (h : ∀ other ∈ t.tags, other = tag ∨ ∀ after,
      other.openMark.toList.isPrefixOf? (tag.openMark.toList ++ rest) = some after →
        rest.length < after.length) :
    t.foundAt? (tag.openMark.toList ++ rest) = some (tag, rest) := by
  have hself : tag.openMark ∈ t.opens := mem_opens.mpr ⟨tag, htag, rfl⟩
  have hmarker : t.markerAt? (tag.openMark.toList ++ rest) = some (tag.openMark, rest) := by
    refine markerAt?_eq_some_iff.mpr ⟨hself, rfl, fun openMark hmem hstands => ?_⟩
    obtain ⟨other, hother, rfl⟩ := mem_opens.mp hmem
    obtain rfl | hshorter := h other hother
    · exact Nat.le_refl _
    · obtain ⟨after, hafter⟩ := hstands
      have hlt : rest.length < after.length := by
        refine hshorter after ?_
        rw [← hafter, isPrefixOf?_append]
      have hlength := congrArg List.length hafter
      rw [List.length_append, List.length_append, String.length_toList, String.length_toList]
        at hlength
      omega
  obtain ⟨found, hget⟩ := exists_get? hself
  obtain ⟨hfound, hmark⟩ := mem_of_get? hget
  obtain rfl | hshorter := h found hfound
  · exact foundAt?_eq_some_iff_marker.mpr ⟨_, hmarker, hget⟩
  · exact absurd (hshorter rest (by rw [hmark, isPrefixOf?_append])) (Nat.lt_irrefl _)

end Stencil.TagSet
