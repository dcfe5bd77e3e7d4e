import Stencil.Pattern.Basic

/-!
# What patterns match

The search for a pattern computes lists of positions. Here the same is said without computing: which
stretches of a text a pattern matches.

* `Matches`: a pattern matches the text from one position up to another. A repetition may take any
  number of steps within its bounds.
* `steps_iff_of_length_lt`: beyond the length of the text the number of steps makes no difference,
  since one of them stays where it is.
* `mem_ends_iff`, `isFoundIn_iff`: the search is exact, although it bounds all repetitions by the
  length of the text.
-/

namespace Stencil.Pattern

variable {R : Nat → Nat → Prop} {step : Nat → List Nat} {positions : List Nat}
variable {text : List Char} {p : Pattern} {i j k m n length : Nat}

/-! ## Steps in a row -/

/-- Exactly so many steps in a row. -/
def Steps (R : Nat → Nat → Prop) : Nat → Nat → Nat → Prop
  | 0, i, j => i = j
  | n + 1, i, j => ∃ k, R i k ∧ Steps R n k j

theorem steps_add_iff : Steps R (m + n) i j ↔ ∃ k, Steps R m i k ∧ Steps R n k j := by
  induction m generalizing i with
  | zero => simp [Steps]
  | succ m ih =>
    rw [Nat.succ_add]
    constructor
    · rintro ⟨l, hl, hrest⟩
      obtain ⟨k, hk, hj⟩ := ih.mp hrest
      exact ⟨k, ⟨l, hl, hk⟩, hj⟩
    · rintro ⟨k, ⟨l, hl, hk⟩, hj⟩
      exact ⟨l, hl, ih.mpr ⟨k, hk, hj⟩⟩

/-- No step goes back, and none passes the end of a text of some length. -/
def Advances (length : Nat) (R : Nat → Nat → Prop) : Prop :=
  ∀ i j, R i j → i ≤ j ∧ j ≤ max i length

theorem Advances.steps (hR : Advances length R) (n : Nat) : Advances length (Steps R n) := by
  induction n with
  | zero =>
    rintro i j rfl
    omega
  | succ n ih =>
    rintro i j ⟨k, hk, hj⟩
    have hfirst := hR i k hk
    have hrest := ih k j hj
    omega

/-- Of more steps than there are characters left, one stays where it is. -/
theorem exists_stay (hR : Advances length R) (hn : length - i < n) (h : Steps R n i j) :
    ∃ a b k, n = a + (b + 1) ∧ Steps R a i k ∧ R k k ∧ Steps R b k j := by
  induction n generalizing i with
  | zero => omega
  | succ n ih =>
    obtain ⟨k, hk, hj⟩ := h
    by_cases hstay : k = i
    · subst hstay
      exact ⟨0, n, k, by omega, rfl, hk, hj⟩
    · have hbounds := hR i k hk
      obtain ⟨a, b, l, rfl, ha, hl, hb⟩ := ih (by omega) hj
      exact ⟨a + 1, b, l, by omega, ⟨k, hk, ha⟩, hl, hb⟩

/-- The step that stays may be left out or taken once more. -/
theorem steps_succ_iff (hR : Advances length R) (hn : length - i < n) :
    Steps R (n + 1) i j ↔ Steps R n i j := by
  constructor <;> intro h
  · obtain ⟨a, b, k, hab, ha, -, hb⟩ := exists_stay hR (by omega) h
    obtain rfl : n = a + b := by omega
    exact steps_add_iff.mpr ⟨k, ha, hb⟩
  · obtain ⟨a, b, k, rfl, ha, hk, hb⟩ := exists_stay hR hn h
    have hmore : Steps R (a + (b + 1 + 1)) i j :=
      steps_add_iff.mpr ⟨k, ha, k, hk, k, hk, hb⟩
    exact hmore

theorem steps_iff_of_length_lt (hR : Advances length R) (hm : length < m) (hn : length < n) :
    Steps R m i j ↔ Steps R n i j := by
  have hfrom (k : Nat) : Steps R (length + k + 1) i j ↔ Steps R (length + 1) i j := by
    induction k with
    | zero => exact Iff.rfl
    | succ k ih => rw [← ih, ← Nat.add_assoc, steps_succ_iff hR (by omega)]
  obtain ⟨k, rfl⟩ := Nat.exists_eq_add_of_lt hm
  obtain ⟨l, rfl⟩ := Nat.exists_eq_add_of_lt hn
  rw [hfrom k, hfrom l]

/-! ## Stretches of a text -/

/-- Whether a pattern matches a text from one position up to another. -/
def Matches (text : List Char) : Pattern → Nat → Nat → Prop
  | .blank, i, j => i = j
  | .one test, i, j => text[i]?.any test = true ∧ i + 1 = j
  | .place spot, i, j => spot.holds (charBefore text i) text[i]? = true ∧ i = j
  | .sequence p q, i, j => ∃ k, Matches text p i k ∧ Matches text q k j
  | .choice p q, i, j => Matches text p i j ∨ Matches text q i j
  | .repeated p least most, i, j =>
    ∃ n, least ≤ n ∧ (∀ m ∈ most, n ≤ max least m) ∧ Steps (Matches text p) n i j

theorem advances_matches (text : List Char) (p : Pattern) :
    Advances text.length (p.Matches text) := by
  induction p with
  | blank =>
    rintro i j rfl
    omega
  | one test =>
    rintro i j ⟨htest, rfl⟩
    obtain ⟨c, hc, -⟩ := (Option.any_eq_true _ _).mp htest
    obtain ⟨hlt, -⟩ := List.getElem?_eq_some_iff.mp hc
    omega
  | place spot =>
    rintro i j ⟨-, rfl⟩
    omega
  | sequence p q ihp ihq =>
    rintro i j ⟨k, hk, hj⟩
    have hfirst := ihp i k hk
    have hsecond := ihq k j hj
    omega
  | choice p q ihp ihq =>
    rintro i j (hp | hq)
    · exact ihp i j hp
    · exact ihq i j hq
  | repeated p least most ih =>
    rintro i j ⟨n, -, -, hsteps⟩
    exact ih.steps n i j hsteps

/-! ## The search -/

theorem mem_stepAll_iff : j ∈ stepAll step positions ↔ ∃ i ∈ positions, j ∈ step i := by
  rw [stepAll, List.mem_eraseDups, List.mem_flatMap]

theorem mem_after_iff :
    j ∈ after step n positions ↔ ∃ i ∈ positions, Steps (fun i j => j ∈ step i) n i j := by
  induction n generalizing positions with
  | zero => simp [after, Steps]
  | succ n ih =>
    rw [after, ih]
    constructor
    · rintro ⟨k, hk, hj⟩
      obtain ⟨i, hi, hik⟩ := mem_stepAll_iff.mp hk
      exact ⟨i, hi, k, hik, hj⟩
    · rintro ⟨i, hi, k, hik, hj⟩
      exact ⟨k, mem_stepAll_iff.mpr ⟨i, hi, hik⟩, hj⟩

theorem mem_within_iff :
    j ∈ within step n positions ↔
      ∃ i ∈ positions, ∃ m ≤ n, Steps (fun i j => j ∈ step i) m i j := by
  induction n generalizing positions with
  | zero => simp [within, Steps]
  | succ n ih =>
    rw [within, ih]
    constructor
    · rintro ⟨k, hk, m, hm, hj⟩
      rw [List.mem_eraseDups, List.mem_append, mem_stepAll_iff] at hk
      rcases hk with hk | ⟨i, hi, hik⟩
      · exact ⟨k, hk, m, by omega, hj⟩
      · exact ⟨i, hi, m + 1, by omega, k, hik, hj⟩
    · rintro ⟨i, hi, m, hm, hj⟩
      cases m with
      | zero => exact ⟨i, List.mem_eraseDups.mpr (List.mem_append_left _ hi), 0, by omega, hj⟩
      | succ m =>
        obtain ⟨k, hik, hj⟩ := hj
        have hk : k ∈ stepAll step positions := mem_stepAll_iff.mpr ⟨i, hi, hik⟩
        exact ⟨k, List.mem_eraseDups.mpr (List.mem_append_right _ hk), m, by omega, hj⟩

/-- The bounds that the search puts on a repetition take away no match. -/
theorem steps_bounded_iff (hR : Advances length R) {least : Nat} {most : Option Nat} :
    (∃ m ≤ min ((most.map (· - least)).getD (length + 1)) (length + 1),
        Steps R (min least (length + 1) + m) i j) ↔
      ∃ n, least ≤ n ∧ (∀ m ∈ most, n ≤ max least m) ∧ Steps R n i j := by
  constructor
  · rintro ⟨m, hm, h⟩
    by_cases hleast : least ≤ length
    · rw [show min least (length + 1) = least by omega] at h
      refine ⟨least + m, by omega, fun bound hbound => ?_, h⟩
      rw [Option.mem_def.mp hbound, Option.map_some, Option.getD_some] at hm
      omega
    · exact ⟨least, Nat.le_refl least, fun bound _ => by omega,
        (steps_iff_of_length_lt hR (by omega) (by omega)).mp h⟩
  · rintro ⟨n, hn, hmost, h⟩
    have hextra : min (n - least) (length + 1) ≤ (most.map (· - least)).getD (length + 1) := by
      cases most with
      | none => exact Nat.min_le_right _ _
      | some bound =>
        have hbound := hmost bound rfl
        rw [Option.map_some, Option.getD_some]
        omega
    by_cases hleast : least ≤ length
    · rw [show min least (length + 1) = least by omega]
      by_cases hshort : n - least ≤ length + 1
      · exact ⟨n - least, by omega, by rwa [Nat.add_sub_cancel' hn]⟩
      · exact ⟨length + 1, by omega, (steps_iff_of_length_lt hR (by omega) (by omega)).mp h⟩
    · exact ⟨0, by omega, (steps_iff_of_length_lt hR (by omega) (by omega)).mp h⟩

/-- **The search is exact.** -/
theorem mem_ends_iff : j ∈ p.ends text i ↔ p.Matches text i j := by
  induction p generalizing i j with
  | blank => simp [ends, Matches, eq_comm]
  | one test =>
    rw [ends, Matches]
    split <;> rename_i htest
    · simp only [List.mem_singleton, htest, true_and, eq_comm]
    · simp only [List.not_mem_nil, htest, Bool.false_eq_true, false_and]
  | place spot =>
    rw [ends, Matches]
    split <;> rename_i hholds
    · simp only [List.mem_singleton, hholds, true_and, eq_comm]
    · simp only [List.not_mem_nil, hholds, Bool.false_eq_true, false_and]
  | sequence p q ihp ihq =>
    rw [ends, mem_stepAll_iff, Matches]
    exact exists_congr fun k => and_congr ihp ihq
  | choice p q ihp ihq =>
    rw [ends, List.mem_eraseDups, List.mem_append, Matches]
    exact or_congr ihp ihq
  | repeated p least most ih =>
    have hsame : (fun i j => j ∈ ends text p i) = p.Matches text :=
      funext fun i => funext fun j => propext ih
    rw [ends, Matches, ← steps_bounded_iff (advances_matches text p), mem_within_iff, hsame]
    simp only [mem_after_iff, hsame, List.mem_singleton, exists_eq_left]
    constructor
    · rintro ⟨k, hk, m, hm, hj⟩
      exact ⟨m, hm, steps_add_iff.mpr ⟨k, hk, hj⟩⟩
    · rintro ⟨m, hm, h⟩
      obtain ⟨k, hk, hj⟩ := steps_add_iff.mp h
      exact ⟨k, hk, m, hm, hj⟩

/-- **A pattern is found exactly where it matches.** -/
theorem isFoundIn_iff :
    p.isFoundIn text = true ↔ ∃ i ≤ text.length, ∃ j, p.Matches text i j := by
  rw [isFoundIn, List.any_eq_true]
  refine exists_congr fun i => and_congr (by rw [List.mem_range, Nat.lt_succ_iff]) ?_
  rw [Bool.not_eq_true', List.isEmpty_eq_false_iff_exists_mem]
  exact exists_congr fun j => mem_ends_iff

end Stencil.Pattern
