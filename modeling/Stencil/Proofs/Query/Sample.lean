import Mathlib.Data.Nat.Factorial.Basic
import Mathlib.Probability.Distributions.Uniform
import Stencil.Query.Sample

/-!
# Fair samples

A sample of `count` items is drawn by as many swaps. Step `i` draws a position from `i` on, so a
sample is determined by its drawn positions, and different positions give different samples.

* `IsArrangement`: some items of a pool in some order. Every sample is one
  (`isArrangement_arrange`), since swaps only permute the pool (`swapAll_perm`).
* `arrange_cons`: the first drawn position determines the first item, the others are positions in
  what is left of the pool.
* `bijOn_arrange`: the drawn positions correspond to the arrangements, one to one.
* `draw_noting`: which bounds the source of randomness is asked for.
* `drawing`: positions drawn independently and uniformly; `drawing_apply`: they are all equally
  likely.
* `samples_fairly`: all of this for `sample`.
-/

namespace Stencil.Sample

variable {α σ : Type} {pool rest picked : List α} {x : α} {i j n count length first : Nat}
  {js : List Nat}

/-! ## Swaps -/

theorem swap_perm (i j : Nat) (pool : List α) : (swap i j pool).Perm pool := by
  unfold swap
  split
  · next a b ha hb =>
    obtain ⟨hi, rfl⟩ := List.getElem?_eq_some_iff.mp ha
    obtain ⟨hj, rfl⟩ := List.getElem?_eq_some_iff.mp hb
    exact List.set_set_perm hi hj
  · exact .refl pool

theorem swapAll_perm (i : Nat) (js : List Nat) (pool : List α) : (swapAll i js pool).Perm pool := by
  induction js generalizing i pool with
  | nil => exact .refl pool
  | cons j js ih => exact (ih (i + 1) (swap i j pool)).trans (swap_perm i j pool)

theorem swap_succ (i j : Nat) (x : α) (rest : List α) :
    swap (i + 1) (j + 1) (x :: rest) = x :: swap i j rest := by
  simp only [swap, List.getElem?_cons_succ, List.set_cons_succ]
  split <;> rfl

/-- Swaps behind the first item leave it where it is. -/
theorem swapAll_succ (i : Nat) (js : List Nat) (x : α) (rest : List α) :
    swapAll (i + 1) (js.map (· + 1)) (x :: rest) = x :: swapAll i js rest := by
  induction js generalizing i rest with
  | nil => rfl
  | cons j js ih => rw [List.map_cons, swapAll, swap_succ, ih, swapAll]

/-- What is left of a pool when the item at a position is drawn first. -/
def others (j : Nat) (pool : List α) : List α := (swap 0 j pool).tail

theorem swap_zero (h : pool[j]? = some x) : swap 0 j pool = x :: others j pool := by
  cases pool with
  | nil => exact nomatch h
  | cons y rest =>
    have hswap : swap 0 j (y :: rest) = ((y :: rest).set 0 x).set j y := by
      simp only [swap, List.getElem?_cons_zero, h]
    rw [others, hswap]
    cases j with
    | zero =>
      obtain rfl := Option.some.inj h
      rfl
    | succ j => rfl

theorem perm_others (h : pool[j]? = some x) : (x :: others j pool).Perm pool := by
  rw [← swap_zero h]
  exact swap_perm 0 j pool

theorem length_others (h : pool[j]? = some x) : (others j pool).length + 1 = pool.length :=
  (perm_others h).length_eq

/-- **The first drawn position determines the first item of a sample.** The others are positions in
what is left of the pool. -/
theorem arrange_cons (h : pool[j]? = some x) (js : List Nat) :
    arrange (j :: js.map (· + 1)) pool = x :: arrange js (others j pool) := by
  rw [arrange, swapAll, swap_zero h, swapAll_succ, List.length_cons, List.length_map,
    List.take_succ_cons, arrange]

/-! ## Arrangements -/

/-- Whether `count` items of a pool were picked in some order: with the ones that were dropped they
make up the pool. -/
def IsArrangement (count : Nat) (pool picked : List α) : Prop :=
  picked.length = count ∧ ∃ dropped, (picked ++ dropped).Perm pool

theorem isArrangement_arrange (h : js.length ≤ pool.length) :
    IsArrangement js.length pool (arrange js pool) := by
  have hperm := swapAll_perm 0 js pool
  refine ⟨?_, (swapAll 0 js pool).drop js.length, ?_⟩
  · rw [arrange, List.length_take, hperm.length_eq, Nat.min_eq_left h]
  · rw [arrange, List.take_append_drop]
    exact hperm

/-- The items behind the first one of an arrangement are an arrangement of what is left. -/
theorem isArrangement_cons_iff (h : pool[j]? = some x) :
    IsArrangement (count + 1) pool (x :: picked) ↔ IsArrangement count (others j pool) picked := by
  rw [IsArrangement, IsArrangement, List.length_cons, Nat.succ_inj]
  refine and_congr_right fun _ => exists_congr fun dropped => ?_
  rw [List.cons_append]
  constructor
  · exact fun hperm => (hperm.trans (perm_others h).symm).cons_inv
  · exact fun hperm => (hperm.cons x).trans (perm_others h)

/-! ## Drawn positions -/

/-- Whether positions can be drawn one after the other from a pool of `length` items, the first one
from position `first` on. -/
def AreDrawn (length first : Nat) (js : List Nat) : Prop :=
  ∀ i j, js[i]? = some j → first + i ≤ j ∧ j < length

theorem areDrawn_nil (length first : Nat) : AreDrawn length first [] := nofun

theorem areDrawn_cons_iff : AreDrawn length first (j :: js) ↔
    (first ≤ j ∧ j < length) ∧ AreDrawn length (first + 1) js := by
  constructor
  · intro h
    refine ⟨h 0 j rfl, fun i j' hj' => ?_⟩
    have := h (i + 1) j' hj'
    omega
  · rintro ⟨hj, hjs⟩ i j' hj'
    cases i with
    | zero => exact Option.some.inj hj' ▸ hj
    | succ i =>
      have := hjs i j' hj'
      omega

/-- Positions that are drawn from one further on are drawn from what is behind the first item. -/
theorem areDrawn_succ_iff : AreDrawn (length + 1) (first + 1) js ↔
    ∃ js', AreDrawn length first js' ∧ js = js'.map (· + 1) := by
  induction js generalizing first with
  | nil => simp [areDrawn_nil]
  | cons j js ih =>
    rw [areDrawn_cons_iff, ih]
    constructor
    · rintro ⟨hj, js', hjs', rfl⟩
      refine ⟨(j - 1) :: js', areDrawn_cons_iff.mpr ⟨by omega, hjs'⟩, ?_⟩
      rw [List.map_cons, Nat.sub_add_cancel (by omega)]
    · rintro ⟨js', hjs', heq⟩
      obtain ⟨j', js', rfl, rfl, rfl⟩ := List.map_eq_cons_iff.mp heq.symm
      obtain ⟨hj', hjs'⟩ := areDrawn_cons_iff.mp hjs'
      exact ⟨by omega, js', hjs', rfl⟩

/-- The sequences of `count` positions that can be drawn from a pool of `length` items. -/
def draws (length count : Nat) : Set (List Nat) := {js | js.length = count ∧ AreDrawn length 0 js}

/-- One more position is drawn before all others, which are drawn from what it leaves of the
pool. -/
theorem mem_draws_succ_iff : js ∈ draws pool.length (count + 1) ↔
    ∃ j x js', pool[j]? = some x ∧ js' ∈ draws (others j pool).length count ∧
      js = j :: js'.map (· + 1) := by
  constructor
  · rintro ⟨hcount, hjs⟩
    cases js with
    | nil => exact nomatch hcount
    | cons j js =>
      obtain ⟨⟨-, hj⟩, hjs⟩ := areDrawn_cons_iff.mp hjs
      have hx : pool[j]? = some pool[j] := List.getElem?_eq_getElem hj
      rw [← length_others hx, areDrawn_succ_iff] at hjs
      obtain ⟨js', hjs', rfl⟩ := hjs
      rw [List.length_cons, List.length_map, Nat.succ_inj] at hcount
      exact ⟨j, pool[j], js', hx, ⟨hcount, hjs'⟩, rfl⟩
  · rintro ⟨j, x, js', hx, ⟨rfl, hjs'⟩, rfl⟩
    obtain ⟨hj, -⟩ := List.getElem?_eq_some_iff.mp hx
    refine ⟨by rw [List.length_cons, List.length_map], areDrawn_cons_iff.mpr ⟨⟨j.zero_le, hj⟩, ?_⟩⟩
    rw [← length_others hx]
    exact areDrawn_succ_iff.mpr ⟨js', hjs', rfl⟩

theorem nodup_others (hpool : pool.Nodup) (h : pool[j]? = some x) : (others j pool).Nodup :=
  ((perm_others h).nodup_iff.mpr hpool).of_cons

theorem injOn_arrange (hpool : pool.Nodup) (count : Nat) :
    Set.InjOn (arrange · pool) (draws pool.length count) := by
  induction count generalizing pool with
  | zero =>
    rintro js ⟨hjs, -⟩ js' ⟨hjs', -⟩ -
    rw [List.length_eq_zero_iff.mp hjs, List.length_eq_zero_iff.mp hjs']
  | succ count ih =>
    intro _ hdrawn _ hdrawn' heq
    obtain ⟨j, x, js, hx, hjs, rfl⟩ := mem_draws_succ_iff.mp hdrawn
    obtain ⟨j', x', js', hx', hjs', rfl⟩ := mem_draws_succ_iff.mp hdrawn'
    dsimp only at heq
    rw [arrange_cons hx, arrange_cons hx'] at heq
    obtain ⟨rfl, htail⟩ := List.cons.inj heq
    -- The items of the pool are different, so equal items come from equal positions.
    obtain ⟨hj, -⟩ := List.getElem?_eq_some_iff.mp hx
    obtain rfl := (List.getElem?_inj hj hpool).mp (hx.trans hx'.symm)
    rw [ih (nodup_others hpool hx) hjs hjs' htail]

theorem surjOn_arrange (pool : List α) (count : Nat) :
    Set.SurjOn (arrange · pool) (draws pool.length count)
      {picked | IsArrangement count pool picked} := by
  induction count generalizing pool with
  | zero =>
    rintro picked ⟨hpicked, -⟩
    exact ⟨[], ⟨rfl, areDrawn_nil _ _⟩, (List.length_eq_zero_iff.mp hpicked).symm⟩
  | succ count ih =>
    intro picked hpicked
    cases picked with
    | nil => exact nomatch hpicked.1
    | cons x picked =>
      obtain ⟨dropped, hperm⟩ := hpicked.2
      obtain ⟨j, hx⟩ := List.mem_iff_getElem?.mp (hperm.subset List.mem_cons_self)
      obtain ⟨js, hjs, heq⟩ := ih (others j pool) ((isArrangement_cons_iff hx).mp hpicked)
      exact ⟨j :: js.map (· + 1), mem_draws_succ_iff.mpr ⟨j, x, js, hx, hjs, rfl⟩,
        (arrange_cons hx js).trans (congrArg (x :: ·) heq)⟩

/-- **Drawn positions correspond to arrangements.** Every arrangement of `count` different items
comes from exactly one sequence of drawn positions. -/
theorem bijOn_arrange (hpool : pool.Nodup) (hcount : count ≤ pool.length) :
    Set.BijOn (arrange · pool) (draws pool.length count)
      {picked | IsArrangement count pool picked} := by
  refine ⟨fun js hjs => ?_, injOn_arrange hpool count, surjOn_arrange pool count⟩
  obtain ⟨rfl, -⟩ := hjs
  exact isArrangement_arrange hcount

/-! ## Sources of randomness -/

/-- Whether a source gives a number below the bound it is asked for. -/
def IsSource (below : Nat → σ → Nat × σ) : Prop := ∀ bound s, 0 < bound → (below bound s).1 < bound

/-- A source that notes the bounds it is asked for, the last one first. -/
def noting (below : Nat → σ → Nat × σ) (bound : Nat) (s : σ × List Nat) : Nat × σ × List Nat :=
  let (j, next) := below bound s.1
  (j, next, bound :: s.2)

/-- The source that has some positions of a pool with `length` items drawn. -/
def replaying (length bound : Nat) : List Nat → Nat × List Nat
  | [] => (0, [])
  | j :: js => (j - (length - bound), js)

/-- The positions that are drawn can be drawn. -/
theorem areDrawn_draw {below : Nat → σ → Nat × σ} (h : IsSource below)
    (hcount : first + count ≤ length) (s : σ) :
    (draw below length count first s).1.length = count ∧
      AreDrawn length first (draw below length count first s).1 := by
  induction count generalizing first s with
  | zero => exact ⟨rfl, areDrawn_nil _ _⟩
  | succ count ih =>
    have hj := h (length - first) s (by omega)
    obtain ⟨hlength, hjs⟩ := @ih (first + 1) (by omega) (below (length - first) s).2
    exact ⟨congrArg (· + 1) hlength, areDrawn_cons_iff.mpr ⟨by omega, hjs⟩⟩

/-- The source is asked for numbers below the number of positions that are not drawn yet. -/
theorem draw_noting (below : Nat → σ → Nat × σ) (hcount : first + count ≤ length) (s : σ)
    (noted : List Nat) : draw (noting below) length count first (s, noted) =
      ((draw below length count first s).1, (draw below length count first s).2,
        List.range' (length - first - count + 1) count ++ noted) := by
  induction count generalizing first s noted with
  | zero => rfl
  | succ count ih =>
    have hrange : List.range' (length - (first + 1) - count + 1) count ++
        (length - first) :: noted =
        List.range' (length - first - (count + 1) + 1) (count + 1) ++ noted := by
      have hfrom : length - first - (count + 1) + 1 = length - (first + 1) - count + 1 := by omega
      have hlast : length - (first + 1) - count + 1 + 1 * count = length - first := by omega
      rw [List.range'_concat, hfrom, hlast, List.append_assoc]
      rfl
    rw [draw, draw, ← hrange]
    simp only [noting]
    rw [@ih (first + 1) (by omega)]

theorem draw_replaying (h : AreDrawn length first js) :
    draw (replaying length) length js.length first js = (js, []) := by
  induction js generalizing first with
  | nil => rfl
  | cons j js ih =>
    obtain ⟨hj, hjs⟩ := areDrawn_cons_iff.mp h
    have hposition : first + (j - (length - (length - first))) = j := by omega
    rw [List.length_cons, draw]
    simp only [replaying, ih hjs, hposition]

theorem sample_replaying (hjs : js ∈ draws pool.length (min n pool.length)) :
    (sample (replaying pool.length) n pool js).1 = arrange js pool := by
  obtain ⟨hcount, hjs⟩ := hjs
  have hdraw := draw_replaying hjs
  rw [hcount] at hdraw
  rw [sample, hdraw]

/-! ## Probabilities -/

/-- Positions drawn from a pool of `length` items, the first from position `first` on, independently
and all equally likely. -/
noncomputable def drawing (length : Nat) :
    (first count : Nat) → first + count ≤ length → PMF (List Nat)
  | _, 0, _ => PMF.pure []
  | first, count + 1, h =>
    (PMF.uniformOfFinset (Finset.Ico first length) (Finset.nonempty_Ico.mpr (by omega))).bind
      fun j => (drawing length (first + 1) count (by omega)).map (j :: ·)

theorem areDrawn_of_mem_support (h : first + count ≤ length)
    (hjs : js ∈ (drawing length first count h).support) :
    js.length = count ∧ AreDrawn length first js := by
  induction count generalizing first js with
  | zero =>
    obtain rfl := (PMF.mem_support_pure_iff _ _).mp hjs
    exact ⟨rfl, areDrawn_nil _ _⟩
  | succ count ih =>
    obtain ⟨j, hj, hrest⟩ := (PMF.mem_support_bind_iff _ _ _).mp hjs
    obtain ⟨js, htail, rfl⟩ := (PMF.mem_support_map_iff _ _ _).mp hrest
    obtain ⟨hlength, htail⟩ := @ih (first + 1) js (by omega) htail
    rw [PMF.mem_support_uniformOfFinset_iff, Finset.mem_Ico] at hj
    exact ⟨congrArg (· + 1) hlength, areDrawn_cons_iff.mpr ⟨hj, htail⟩⟩

theorem map_cons_apply (p : PMF (List Nat)) (j j' : Nat) (js : List Nat) :
    p.map (j' :: ·) (j :: js) = if j' = j then p js else 0 := by
  rw [PMF.map_apply, tsum_eq_single js fun js' hjs' => ?_]
  · simp [eq_comm]
  · exact if_neg fun heq => hjs' (List.cons.inj heq).2.symm

/-- **All sequences of positions are equally likely.** -/
theorem drawing_apply (h : first + js.length ≤ length) (hjs : AreDrawn length first js) :
    drawing length first js.length h js =
      (((length - first).descFactorial js.length : Nat) : ENNReal)⁻¹ := by
  induction js generalizing first with
  | nil => simp [drawing]
  | cons j js ih =>
    obtain ⟨hj, hjs⟩ := areDrawn_cons_iff.mp hjs
    have hrest := @ih (first + 1) (by rw [List.length_cons] at h; omega) hjs
    have hlength : length - first = length - (first + 1) + 1 := by omega
    have hmem : j ∈ Finset.Ico first length := Finset.mem_Ico.mpr hj
    simp only [List.length_cons, drawing]
    rw [PMF.bind_apply, tsum_eq_single j fun j' hj' => ?_]
    · rw [PMF.uniformOfFinset_apply_of_mem _ hmem, map_cons_apply, if_pos rfl, hrest, Nat.card_Ico,
        hlength, Nat.succ_descFactorial_succ, Nat.cast_mul,
        ENNReal.mul_inv (.inl (Nat.cast_ne_zero.mpr (Nat.succ_ne_zero _)))
          (.inl (ENNReal.natCast_ne_top _))]
    · rw [map_cons_apply, if_neg hj', mul_zero]

/-- **Samples are fair.** A sample asks for numbers below the sizes of what is left of the pool,
which are never zero. Whatever is drawn, it arranges some items of the pool, as many as were asked
for or all of them. Its drawn positions correspond to the arrangements one to one, so when they are
drawn independently and uniformly all arrangements are equally likely. -/
theorem samples_fairly (hpool : pool.Nodup) (n : Nat) :
    let count := min n pool.length
    (∀ {σ : Type} (below : Nat → σ → Nat × σ) (s : σ),
      let bounds := List.range' (pool.length - count + 1) count
      sample (noting below) n pool (s, []) =
          ((sample below n pool s).1, (sample below n pool s).2, bounds) ∧
        ∀ bound ∈ bounds, 0 < bound) ∧
    (∀ {σ : Type} (below : Nat → σ → Nat × σ) (s : σ), IsSource below →
      IsArrangement count pool (sample below n pool s).1) ∧
    Set.BijOn (fun js => (sample (replaying pool.length) n pool js).1) (draws pool.length count)
      {picked | IsArrangement count pool picked} ∧
    ∀ picked, IsArrangement count pool picked →
      (drawing pool.length 0 count (by omega)).map
        (fun js => (sample (replaying pool.length) n pool js).1) picked =
          (pool.length.descFactorial count : ENNReal)⁻¹ := by
  intro count
  have hcount : count ≤ pool.length := Nat.min_le_right n pool.length
  have hbij : Set.BijOn (fun js => (sample (replaying pool.length) n pool js).1)
      (draws pool.length count) {picked | IsArrangement count pool picked} :=
    (bijOn_arrange hpool hcount).congr fun js hjs => (sample_replaying hjs).symm
  refine ⟨fun below s => ⟨?_, fun bound hbound => ?_⟩, fun below s hbelow => ?_, hbij,
    fun picked hpicked => ?_⟩
  · rw [sample, draw_noting below (by omega), List.append_nil]
    rfl
  · have := (List.mem_range'_1.mp hbound).1
    omega
  · have hfits : 0 + count ≤ pool.length := by omega
    obtain ⟨hlength, -⟩ := areDrawn_draw hbelow hfits s
    rw [← hlength]
    exact isArrangement_arrange (by omega)
  · obtain ⟨js, hjs, rfl⟩ := hbij.surjOn hpicked
    have hfits : 0 + js.length ≤ pool.length := by
      rw [hjs.1]
      omega
    have hlikely := drawing_apply hfits hjs.2
    simp only [hjs.1] at hlikely
    rw [PMF.map_apply, tsum_eq_single js fun js' hne => ?_]
    · rw [if_pos rfl, hlikely, Nat.sub_zero]
    · -- What cannot be drawn has no weight, and what can be drawn gives another sample.
      by_cases hdrawn : js' ∈ (drawing pool.length 0 count (by omega)).support
      · exact if_neg fun heq => hne (hbij.injOn (areDrawn_of_mem_support _ hdrawn) hjs heq.symm)
      · rw [(PMF.apply_eq_zero_iff _ _).mpr hdrawn, ite_self]

/-- Each of the six samples of two from three items is drawn with the probability one sixth. -/
theorem samples_fairly_two_of_three :
    ['a', 'b', 'c'].Nodup ∧ IsArrangement 2 ['a', 'b', 'c'] ['c', 'a'] ∧
      sample (replaying 3) 2 ['a', 'b', 'c'] [2, 2] = (['c', 'a'], []) ∧
      (drawing 3 0 2 (by decide)).map
        (fun js => (sample (replaying 3) 2 ['a', 'b', 'c'] js).1) ['c', 'a'] = 6⁻¹ := by
  have hpool : ['a', 'b', 'c'].Nodup := by decide
  have hpicked : IsArrangement 2 ['a', 'b', 'c'] ['c', 'a'] := ⟨rfl, ['b'], by decide⟩
  refine ⟨hpool, hpicked, by decide, ?_⟩
  exact (samples_fairly hpool 2).2.2.2 _ hpicked

end Stencil.Sample
