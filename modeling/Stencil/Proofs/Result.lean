/-!
# Results and errors

A computation with a result has had a result at each of its steps, and one that fails has failed at
one of them. `Yields` says what the result is like if there is one, `Refines` that it is the result
of another computation as well, and `Agree` that of two computations both have related results or
both fail.
-/

namespace Stencil

variable {ε ε' α β : Type}

theorem bind_eq_ok_iff {x : Except ε α} {f : α → Except ε β} {b : β} :
    (x >>= f) = .ok b ↔ ∃ a, x = .ok a ∧ f a = .ok b := by
  cases x with
  | error e => exact ⟨nofun, fun ⟨_, h, _⟩ => nomatch h⟩
  | ok a => exact ⟨fun h => ⟨a, rfl, h⟩, fun ⟨_, ha, hf⟩ => Except.ok.inj ha ▸ hf⟩

theorem bind_eq_error_iff {x : Except ε α} {f : α → Except ε β} {e : ε} :
    (x >>= f) = .error e ↔ x = .error e ∨ ∃ a, x = .ok a ∧ f a = .error e := by
  cases x with
  | error e' =>
    exact ⟨fun h => .inl (congrArg _ (Except.error.inj h)), fun h => h.elim
      (fun h => congrArg _ (Except.error.inj h)) fun ⟨_, ha, _⟩ => nomatch ha⟩
  | ok a =>
    exact ⟨fun h => .inr ⟨a, rfl, h⟩, fun h => h.elim (fun h => nomatch h)
      fun ⟨_, ha, hf⟩ => Except.ok.inj ha ▸ hf⟩

theorem map_eq_ok_iff {x : Except ε α} {f : α → β} {b : β} :
    x.map f = .ok b ↔ ∃ a, x = .ok a ∧ f a = b := by
  cases x with
  | error e => exact ⟨nofun, fun ⟨_, h, _⟩ => nomatch h⟩
  | ok a =>
    exact ⟨fun h => ⟨a, rfl, Except.ok.inj h⟩, fun ⟨_, ha, hf⟩ => by cases ha; rw [← hf]; rfl⟩

@[simp]
theorem mapError_ok (a : α) (f : ε → ε') : (.ok a : Except ε α).mapError f = .ok a := rfl

theorem mapError_eq_ok_iff {x : Except ε α} {f : ε → ε'} {a : α} :
    x.mapError f = .ok a ↔ x = .ok a := by
  cases x with
  | error e => exact ⟨nofun, nofun⟩
  | ok b => exact ⟨fun h => congrArg _ (Except.ok.inj h), fun h => congrArg _ (Except.ok.inj h)⟩

theorem mapError_eq_error_iff {x : Except ε α} {f : ε → ε'} {e' : ε'} :
    x.mapError f = .error e' ↔ ∃ e, x = .error e ∧ f e = e' := by
  cases x with
  | error e =>
    exact ⟨fun h => ⟨e, rfl, Except.error.inj h⟩, fun ⟨_, he, hf⟩ => by cases he; rw [← hf]; rfl⟩
  | ok a => exact ⟨nofun, fun ⟨_, he, _⟩ => nomatch he⟩

/-! ## What a result is like -/

/-- A property of the result of a computation, if there is one. -/
def Yields (P : α → Prop) (x : Except ε α) : Prop := ∀ a, x = .ok a → P a

variable {P : α → Prop} {Q : β → Prop} {x : Except ε α}

theorem yields_ok {a : α} (h : P a) : Yields P (.ok a : Except ε α) :=
  fun _ ha => Except.ok.inj ha ▸ h

theorem yields_error (e : ε) : Yields P (.error e) := nofun

theorem Yields.bind {f : α → Except ε β} (hx : Yields P x) (hf : ∀ a, P a → Yields Q (f a)) :
    Yields Q (x >>= f) := by
  intro b hb
  obtain ⟨a, ha, hfa⟩ := bind_eq_ok_iff.mp hb
  exact hf a (hx a ha) b hfa

/-- What holds of every result after the first step, whatever that gives. -/
theorem Yields.bind_any {f : α → Except ε β} (hf : ∀ a, Yields Q (f a)) : Yields Q (x >>= f) := by
  intro b hb
  obtain ⟨a, -, hfa⟩ := bind_eq_ok_iff.mp hb
  exact hf a b hfa

theorem Yields.imp {P' : α → Prop} (hx : Yields P x) (h : ∀ a, P a → P' a) : Yields P' x :=
  fun a ha => h a (hx a ha)

/-! ## Computations that give the same result -/

/-- The result of one computation, if there is one, is that of another as well. -/
def Refines (x y : Except ε α) : Prop := ∀ a, x = .ok a → y = .ok a

theorem Refines.refl (x : Except ε α) : Refines x x := fun _ h => h

theorem refines_error (e : ε) (x : Except ε α) : Refines (.error e) x := nofun

theorem Refines.bind {y : Except ε α} {f g : α → Except ε β} (hx : Refines x y)
    (hf : ∀ a, Refines (f a) (g a)) : Refines (x >>= f) (y >>= g) := by
  intro b hb
  obtain ⟨a, ha, hfa⟩ := bind_eq_ok_iff.mp hb
  rw [hx a ha]
  exact hf a b hfa

/-! ## Computations that give related results -/

variable {α' β' : Type}

/-- Either both computations have results, which are related, or both fail. -/
inductive Agree (R : α → α' → Prop) : Except ε α → Except ε α' → Prop
  | ok {a : α} {a' : α'} : R a a' → Agree R (.ok a) (.ok a')
  | error {e e' : ε} : Agree R (.error e) (.error e')

theorem Agree.bind {R : α → α' → Prop} {S : β → β' → Prop} {x' : Except ε α'}
    {f : α → Except ε β} {f' : α' → Except ε β'} (hx : Agree R x x')
    (hf : ∀ a a', R a a' → Agree S (f a) (f' a')) : Agree S (x >>= f) (x' >>= f') := by
  cases hx with
  | ok h => exact hf _ _ h
  | error => exact .error

/-- What follows the same step. -/
theorem Agree.bind_same {S : β → β' → Prop} {f : α → Except ε β} {f' : α → Except ε β'}
    (x : Except ε α) (hf : ∀ a, Agree S (f a) (f' a)) : Agree S (x >>= f) (x >>= f') := by
  cases x with
  | ok a => exact hf a
  | error e => exact .error

/-- Where related results are equal, one computation gives a result exactly if the other does. -/
theorem Agree.eq_ok_iff {x' : Except ε α} (h : Agree Eq x x') (a : α) :
    x = .ok a ↔ x' = .ok a := by
  cases h with
  | ok h => rw [h]
  | error => exact ⟨nofun, nofun⟩

end Stencil
