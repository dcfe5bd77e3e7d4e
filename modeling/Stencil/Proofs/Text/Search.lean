import Mathlib.Data.List.DropRight
import Stencil.Text.Search

/-!
# Where a text is cut

A text is cut at a byte offset or at a separator. An offset is a boundary of a text when it is the
size of what stands before it, and cutting there splits the text exactly.

* `IsBoundary` is the property, `takeBytes_byteLength_append` and `dropBytes_byteLength_append` say
  that a cut at a boundary gives what stands before it and what stands behind it.
* `slice_append`: the slice between two boundaries is the text between them.
* `cutAt?_append`: a text is cut at a separator whose first character does not occur before it.
* `cutAt?_eq_none`: a text without that character is not cut.
* `cutAtLast?_eq_some_iff`: a text is cut at the character that does not occur behind it.
* `stripEnd_singleton`: all copies of a character are taken off the end.
* `stripStart_twice` and `stripEnd_twice`: a doubled character is taken off a text that does not
  have it.
-/

namespace Stencil.Text

/-! ## Byte offsets -/

/-- Whether a byte offset into a text falls between two of its characters or at an end of it. -/
def IsBoundary (text : List Char) (offset : Nat) : Prop :=
  ∃ before after, text = before ++ after ∧ offset = byteLength before

theorem byteLength_eq_zero_iff {cs : List Char} : byteLength cs = 0 ↔ cs = [] := by
  cases cs with
  | nil => simp
  | cons c cs =>
    have := c.utf8Size_pos
    simp only [byteLength_cons, reduceCtorEq, iff_false]
    omega

theorem byteLength_toList (s : String) : byteLength s.toList = s.utf8ByteSize := by
  obtain ⟨cs, rfl⟩ : ∃ cs, s = String.ofList cs := ⟨s.toList, String.ofList_toList.symm⟩
  rw [String.toList_ofList]
  induction cs with
  | nil => rfl
  | cons c cs ih =>
    rw [byteLength_cons, ih, String.ofList_cons, String.utf8ByteSize_append,
      String.utf8ByteSize_singleton]

theorem takeBytes_zero (cs : List Char) : takeBytes cs 0 = [] := by
  cases cs with
  | nil => rfl
  | cons c cs => simp [takeBytes, Nat.pos_iff_ne_zero.mp c.utf8Size_pos]

theorem dropBytes_zero (cs : List Char) : dropBytes cs 0 = cs := by
  cases cs with
  | nil => rfl
  | cons c cs => simp [dropBytes, Nat.pos_iff_ne_zero.mp c.utf8Size_pos]

theorem takeBytes_byteLength_append (before after : List Char) :
    takeBytes (before ++ after) (byteLength before) = before := by
  induction before with
  | nil => exact takeBytes_zero after
  | cons c before ih => simp [takeBytes, ih]

theorem dropBytes_byteLength_append (before after : List Char) :
    dropBytes (before ++ after) (byteLength before) = after := by
  induction before with
  | nil => exact dropBytes_zero after
  | cons c before ih => simp [dropBytes, ih]

theorem dropBytes_of_suffix {cs rest : List Char} (h : rest <:+ cs) :
    dropBytes cs (byteLength cs - byteLength rest) = rest := by
  obtain ⟨before, rfl⟩ := h
  rw [byteLength_append, Nat.add_sub_cancel, dropBytes_byteLength_append]

/-- The slice between two boundaries is what stands between them. -/
theorem slice_append (before middle after : List Char) :
    slice (before ++ (middle ++ after)) (byteLength before)
      (byteLength before + byteLength middle) = middle := by
  rw [slice, dropBytes_byteLength_append, Nat.add_sub_cancel_left, takeBytes_byteLength_append]

/-! ## Separators -/

variable {s : Char} {sep cs : List Char}

theorem isPrefixOf?_cons_self (c : Char) (start cs : List Char) :
    (c :: start).isPrefixOf? (c :: cs) = start.isPrefixOf? cs :=
  if_pos (beq_self_eq_true c)

@[simp]
theorem isPrefixOf?_append (start rest : List Char) :
    start.isPrefixOf? (start ++ rest) = some rest := by
  induction start with
  | nil => cases rest <;> rfl
  | cons c start ih =>
    rw [List.cons_append, isPrefixOf?_cons_self]
    exact ih

theorem isPrefixOf?_cons_ne {c d : Char} (h : c ≠ d) (start cs : List Char) :
    (c :: start).isPrefixOf? (d :: cs) = none :=
  if_neg (by rwa [beq_iff_eq])

theorem cutAt?_cons_ne {c : Char} (h : s ≠ c) (sep cs : List Char) :
    cutAt? (s :: sep) (c :: cs) = (cutAt? (s :: sep) cs).map fun (before, after) =>
      (c :: before, after) := by
  rw [cutAt?, isPrefixOf?_cons_ne h]

theorem cutAt?_eq_none (h : s ∉ cs) : cutAt? (s :: sep) cs = none := by
  induction cs with
  | nil => rfl
  | cons c cs ih =>
    rw [List.mem_cons, not_or] at h
    rw [cutAt?_cons_ne h.1, ih h.2]
    rfl

theorem cutAt?_append (h : s ∉ cs) (rest : List Char) :
    cutAt? (s :: sep) (cs ++ (s :: sep ++ rest)) = some (cs, rest) := by
  induction cs with
  | nil =>
    have hprefix := isPrefixOf?_append (s :: sep) rest
    rw [List.cons_append] at hprefix
    rw [List.nil_append, List.cons_append, cutAt?, hprefix]
  | cons c cs ih =>
    rw [List.mem_cons, not_or] at h
    rw [List.cons_append, cutAt?_cons_ne h.1, ih h.2]
    rfl

/-! ## Longer texts -/

variable {start before after : List Char}

theorem isPrefixOf?_append_of_eq_none (h : start.isPrefixOf? cs = none)
    (hlength : start.length ≤ cs.length) (more : List Char) :
    start.isPrefixOf? (cs ++ more) = none := by
  induction start generalizing cs with
  | nil => cases cs <;> exact nomatch h
  | cons d start ih =>
    cases cs with
    | nil => exact absurd hlength (Nat.not_succ_le_zero _)
    | cons c cs =>
      by_cases hd : d = c
      · rw [hd, isPrefixOf?_cons_self] at h
        rw [hd, List.cons_append, isPrefixOf?_cons_self]
        exact ih h (Nat.le_of_succ_le_succ hlength)
      · rw [List.cons_append]
        exact isPrefixOf?_cons_ne hd start (cs ++ more)

theorem cutAt?_self_append (sep rest : List Char) :
    cutAt? sep (sep ++ rest) = some ([], rest) := by
  have hprefix := isPrefixOf?_append sep rest
  cases hcs : sep ++ rest with
  | nil =>
    obtain ⟨rfl, rfl⟩ := List.append_eq_nil_iff.mp hcs
    rfl
  | cons c cs =>
    rw [hcs] at hprefix
    rw [cutAt?, hprefix]

/-- A text is cut where it was before more came behind it. -/
theorem cutAt?_append_right {sep : List Char} (h : cutAt? sep cs = some (before, after))
    (more : List Char) : cutAt? sep (cs ++ more) = some (before, after ++ more) := by
  induction cs generalizing before with
  | nil =>
    rw [cutAt?] at h
    split at h
    · next hempty =>
      obtain ⟨rfl, rfl⟩ := Prod.mk.inj (Option.some.inj h)
      rw [List.isEmpty_iff.mp hempty]
      cases more <;> rfl
    · cases h
  | cons c cs ih =>
    have hlength : sep.length ≤ (c :: cs).length := by
      rw [cutAt?_eq_some h]
      simp only [List.length_append]
      omega
    rw [cutAt?] at h
    split at h
    · next rest hrest =>
      obtain ⟨rfl, rfl⟩ := Prod.mk.inj (Option.some.inj h)
      rw [← append_eq_of_isPrefixOf? hrest, List.append_assoc]
      exact cutAt?_self_append sep _
    · next hnone =>
      obtain ⟨⟨before', after'⟩, htail, heq⟩ := Option.map_eq_some_iff.mp h
      obtain ⟨rfl, rfl⟩ := Prod.mk.inj heq
      have hmore := isPrefixOf?_append_of_eq_none hnone hlength more
      rw [List.cons_append] at hmore ⊢
      rw [cutAt?, hmore, ih htail]
      rfl

/-! ## The last occurrence -/

theorem cutAtLast?_eq_none_iff : cutAtLast? s cs = none ↔ s ∉ cs := by
  induction cs with
  | nil => simp [cutAtLast?]
  | cons c cs ih =>
    rw [cutAtLast?, List.mem_cons, not_or, ← ih]
    cases cutAtLast? s cs with
    | none => simp [eq_comm]
    | some parts => simp

/-- A text is cut at the character that does not occur behind it. -/
theorem cutAtLast?_eq_some_iff :
    cutAtLast? s cs = some (before, after) ↔ cs = before ++ s :: after ∧ s ∉ after := by
  constructor
  · intro h
    induction cs generalizing before with
    | nil => cases h
    | cons c cs ih =>
      rw [cutAtLast?] at h
      split at h
      · next found =>
        obtain ⟨rfl, rfl⟩ := Prod.mk.inj (Option.some.inj h)
        obtain ⟨rfl, hlast⟩ := ih found
        exact ⟨rfl, hlast⟩
      · next hnone =>
        split at h
        · next hc =>
          obtain ⟨rfl, rfl⟩ := Prod.mk.inj (Option.some.inj h)
          exact ⟨hc ▸ rfl, cutAtLast?_eq_none_iff.mp hnone⟩
        · cases h
  · rintro ⟨rfl, h⟩
    induction before with
    | nil =>
      rw [List.nil_append, cutAtLast?, cutAtLast?_eq_none_iff.mpr h]
      exact if_pos rfl
    | cons c before ih => rw [List.cons_append, cutAtLast?, ih]

/-! ## Characters at the ends -/

theorem stripCopies_singleton {limit : Nat} (h : cs.length ≤ limit) :
    stripCopies [s] limit cs = cs.dropWhile (· = s) := by
  induction limit generalizing cs with
  | zero =>
    obtain rfl := List.length_eq_zero_iff.mp (Nat.le_zero.mp h)
    rfl
  | succ limit ih =>
    cases cs with
    | nil => rfl
    | cons c cs =>
      by_cases hc : c = s
      · subst hc
        rw [stripCopies, isPrefixOf?_cons_self, List.dropWhile_cons_of_pos (by simp)]
        exact ih (Nat.le_of_succ_le_succ h)
      · rw [stripCopies, isPrefixOf?_cons_ne (Ne.symm hc), List.dropWhile_cons_of_neg (by simpa)]

theorem stripEnd_singleton (s : Char) (cs : List Char) :
    stripEnd [s] cs = cs.rdropWhile (· = s) :=
  congrArg List.reverse (stripCopies_singleton (by rw [List.length_reverse]))

theorem stripCopies_of_eq_none (h : sep.isPrefixOf? cs = none) (limit : Nat) :
    stripCopies sep limit cs = cs := by
  cases limit with
  | zero => rfl
  | succ limit => rw [stripCopies, h]

theorem isPrefixOf?_eq_none (h : s ∉ cs) : (s :: sep).isPrefixOf? cs = none := by
  cases cs with
  | nil => rfl
  | cons c cs => exact isPrefixOf?_cons_ne (List.ne_of_not_mem_cons h) sep cs

theorem stripStart_of_notMem (h : s ∉ cs) : stripStart [s, s] cs = cs :=
  stripCopies_of_eq_none (isPrefixOf?_eq_none h) cs.length

theorem stripStart_twice (h : s ∉ cs) : stripStart [s, s] (s :: s :: cs) = cs := by
  have hprefix : [s, s].isPrefixOf? (s :: s :: cs) = some cs := isPrefixOf?_append [s, s] cs
  rw [stripStart, List.length_cons, stripCopies, hprefix]
  exact stripCopies_of_eq_none (isPrefixOf?_eq_none h) _

theorem stripEnd_eq (part cs : List Char) :
    stripEnd part cs = (stripStart part.reverse cs.reverse).reverse := by
  rw [stripEnd, stripStart, List.length_reverse]

theorem stripEnd_of_notMem (h : s ∉ cs) : stripEnd [s, s] cs = cs := by
  have hreverse : s ∉ cs.reverse := fun hmem => h (List.mem_reverse.mp hmem)
  have hstrip : stripStart [s, s] cs.reverse = cs.reverse := stripStart_of_notMem hreverse
  rw [stripEnd_eq]
  exact (congrArg List.reverse hstrip).trans (List.reverse_reverse cs)

theorem stripEnd_twice (h : s ∉ cs) : stripEnd [s, s] (cs ++ [s, s]) = cs := by
  have hreverse : s ∉ cs.reverse := fun hmem => h (List.mem_reverse.mp hmem)
  have hstrip : stripStart [s, s] (s :: s :: cs.reverse) = cs.reverse := stripStart_twice hreverse
  rw [stripEnd_eq, List.reverse_append]
  exact (congrArg List.reverse hstrip).trans (List.reverse_reverse cs)

end Stencil.Text
