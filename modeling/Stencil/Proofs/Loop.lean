/-!
# Loops

A loop is a turn that is taken again and again: each turn ends the loop with a result or leads to
another state.

* `EndsIn turn n s r`: from the state `s` the loop ends in `n` turns with the result `r`.
* `Advances`: every turn that does not end the loop makes the state smaller, so that there are no
  more turns than the size allows (`Advances.endsIn`).
* `Computes`: every turn that does not end the loop also keeps the value of a function, which is
  then what the loop ends with (`Computes.endsIn`).
* `EndsIn.invariant`: what every turn keeps holds when the loop ends; if it makes every turn go on,
  the loop never does (`not_endsIn_of_invariant`).
-/

namespace Stencil

/-- What a turn of a loop leads to. -/
inductive Turn (σ ρ : Type) where
  | ends (result : ρ)
  | goesOn (next : σ)

variable {σ ρ : Type} {turn : σ → Turn σ ρ} {n : Nat} {s next : σ} {r : ρ}

/-- From a state the loop ends in a number of turns with a result. -/
inductive EndsIn (turn : σ → Turn σ ρ) : Nat → σ → ρ → Prop where
  | now {s : σ} {r : ρ} (h : turn s = .ends r) : EndsIn turn 1 s r
  | later {n : Nat} {s next : σ} {r : ρ} (h : turn s = .goesOn next)
    (hnext : EndsIn turn n next r) : EndsIn turn (n + 1) s r

/-- Every turn ends the loop or makes the state smaller. -/
def Advances (turn : σ → Turn σ ρ) (size : σ → Nat) : Prop :=
  ∀ s next, turn s = .goesOn next → size next < size s

/-- **A loop that advances ends**, in at most one turn more than the size of the state. -/
theorem Advances.endsIn {size : σ → Nat} (h : Advances turn size) (s : σ) :
    ∃ n r, n ≤ size s + 1 ∧ EndsIn turn n s r := by
  induction hsize : size s using Nat.strongRecOn generalizing s with
  | ind k ih =>
    cases hturn : turn s with
    | ends r => exact ⟨1, r, Nat.le_add_left _ _, .now hturn⟩
    | goesOn next =>
      have hlt : size next < k := hsize ▸ h s next hturn
      obtain ⟨n, r, hn, hnext⟩ := ih (size next) hlt next rfl
      exact ⟨n + 1, r, by omega, .later hturn hnext⟩

/-- Every turn ends the loop with the value of `f`, or leads to a smaller state that has the same
value. -/
structure Computes (turn : σ → Turn σ ρ) (size : σ → Nat) (f : σ → ρ) : Prop where
  of_ends : ∀ s r, turn s = .ends r → f s = r
  of_goesOn : ∀ s next, turn s = .goesOn next → size next < size s ∧ f s = f next

namespace Computes

variable {size : σ → Nat} {f : σ → ρ}

theorem advances (h : Computes turn size f) : Advances turn size :=
  fun s next hturn => (h.of_goesOn s next hturn).1

theorem eq_result (h : Computes turn size f) (hends : EndsIn turn n s r) : f s = r := by
  induction hends with
  | now hturn => exact h.of_ends _ _ hturn
  | later hturn _ ih => exact (h.of_goesOn _ _ hturn).2.trans ih

/-- The loop ends with the value of the function. -/
theorem endsIn (h : Computes turn size f) (s : σ) :
    ∃ n, n ≤ size s + 1 ∧ EndsIn turn n s (f s) := by
  obtain ⟨n, r, hn, hr⟩ := h.advances.endsIn s
  exact ⟨n, hn, h.eq_result hr ▸ hr⟩

end Computes

/-- What holds at first and is kept by every turn holds of the state in which the loop ends. -/
theorem EndsIn.invariant {P : σ → Prop} (hP : ∀ s next, P s → turn s = .goesOn next → P next)
    (h : EndsIn turn n s r) (hs : P s) : ∃ last, P last ∧ turn last = .ends r := by
  induction h with
  | now hturn => exact ⟨_, hs, hturn⟩
  | later hturn _ ih => exact ih (hP _ _ hs hturn)

/-- **A loop never ends** if something holds at first that makes every turn go on and is kept. -/
theorem not_endsIn_of_invariant {P : σ → Prop}
    (hP : ∀ s, P s → ∃ next, turn s = .goesOn next ∧ P next) (hs : P s) : ¬ EndsIn turn n s r := by
  intro h
  have hkeeps : ∀ s next, P s → turn s = .goesOn next → P next := by
    intro s next hs hturn
    obtain ⟨next', hturn', hnext⟩ := hP s hs
    exact Turn.goesOn.inj (hturn'.symm.trans hturn) ▸ hnext
  obtain ⟨last, hlast, hturn⟩ := h.invariant hkeeps hs
  obtain ⟨next, hturn', -⟩ := hP last hlast
  exact nomatch hturn.symm.trans hturn'

end Stencil
