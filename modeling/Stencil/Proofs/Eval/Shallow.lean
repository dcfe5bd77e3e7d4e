import Stencil.Helper.Standard
import Stencil.Proofs.Dictionary
import Stencil.Proofs.Eval.Evaluation

/-!
# Errors other than that of the depth

An expression that is nested too deeply has an error of its own. Operators, look-ups and functions
do not know how deep they are evaluated, and never give it.

* `Shallow`: whether a result is not that error.
* `shallow_unary`, `shallow_binary`, `shallow_run` and so on: what is done with values.
* `Helper.shallow_standard`: none of the standard helpers gives it.
* `finish_failsShallow`: so an expression whose parts are evaluated already does not.
-/

namespace Stencil

open Script

/-- Whether a result is not the error of evaluations that are too deep. -/
def Shallow {α : Type} (r : Except EvalError α) : Prop := r ≠ .error .tooDeep

section Shallow

variable {α β : Type}

theorem shallow_ok (a : α) : Shallow (.ok a) := nofun

theorem shallow_error {error : EvalError} (h : error ≠ .tooDeep) :
    Shallow (.error error : Except EvalError α) := fun heq => h (Except.error.inj heq)

theorem Shallow.bind {r : Except EvalError α} {f : α → Except EvalError β} (hr : Shallow r)
    (hf : ∀ a, Shallow (f a)) : Shallow (r >>= f) := by
  intro h
  rcases bind_eq_error_iff.mp h with h | ⟨a, -, h⟩
  · exact hr h
  · exact hf a h

theorem shallow_nameValue (env : Environment) (name : String) : Shallow (nameValue env name) := by
  unfold nameValue
  split
  · exact shallow_ok _
  · split
    · exact shallow_ok _
    · exact shallow_error nofun

namespace Value

theorem shallow_member (v : Value) (field : String) : Shallow (v.member field) := by
  unfold member
  split
  · exact shallow_ok _
  · exact shallow_error nofun

theorem shallow_index (v w : Value) : Shallow (v.index w) := by
  unfold index
  split
  · exact shallow_ok _
  · split <;> exact shallow_ok _
  · exact shallow_ok _
  · exact shallow_member _ _
  · exact shallow_member _ _
  · exact shallow_error nofun

theorem shallow_toNumber (v : Value) : Shallow v.toNumber := by
  unfold toNumber
  split
  · exact shallow_ok _
  · split
    · exact shallow_ok _
    · exact shallow_error nofun
  · exact shallow_error nofun

theorem shallow_onNumbers {f : Float → Float → Except EvalError Float}
    (hf : ∀ x y, Shallow (f x y)) (v w : Value) : Shallow (onNumbers f v w) :=
  (shallow_toNumber v).bind fun x => (shallow_toNumber w).bind fun y =>
    (hf x y).bind fun _ => shallow_ok _

theorem shallow_nonzero (f : Float → Float → Float) (x y : Float) : Shallow (nonzero f x y) := by
  unfold nonzero
  split
  · exact shallow_error nofun
  · exact shallow_ok _

theorem shallow_moveDate (d : Calendar.Date) (days : Float) : Shallow (moveDate d days) := by
  unfold moveDate
  dsimp only
  split
  · exact shallow_ok _
  · exact shallow_error nofun

theorem shallow_plus (v w : Value) : Shallow (v.plus w) := by
  unfold plus
  split
  · exact shallow_ok _
  · exact shallow_moveDate _ _
  · exact shallow_ok _
  · exact shallow_ok _
  · exact shallow_ok _
  · exact shallow_error nofun

theorem shallow_minus (v w : Value) : Shallow (v.minus w) := by
  unfold minus
  split
  · exact shallow_moveDate _ _
  · exact shallow_ok _
  · exact shallow_onNumbers (fun _ _ => shallow_ok _) _ _

theorem shallow_compareBy (test : Ordering → Bool) (v w : Value) :
    Shallow (compareBy test v w) := by
  have horder : Shallow (order? v w) := by
    unfold order?
    split
    · exact shallow_ok _
    · exact shallow_ok _
    · exact (shallow_toNumber _).bind fun _ => (shallow_toNumber _).bind fun _ => shallow_ok _
  exact horder.bind fun _ => shallow_ok _

end Value

theorem shallow_unary (op : UnaryOp) (v : Value) : Shallow (op.apply v) := by
  cases op with
  | negate => exact v.shallow_toNumber.bind fun _ => shallow_ok _
  | not => exact shallow_ok _

theorem shallow_binary (op : BinaryOp) (v w : Value) : Shallow (op.apply v w) := by
  cases op with
  | add => exact v.shallow_plus w
  | subtract => exact v.shallow_minus w
  | multiply => exact Value.shallow_onNumbers (fun _ _ => shallow_ok _) v w
  | divide | modulo => exact Value.shallow_onNumbers (Value.shallow_nonzero _) v w
  | greater | less | greaterEqual | lessEqual => exact Value.shallow_compareBy _ v w
  | equal | notEqual | and | or | coalesce => exact shallow_ok _

theorem shallow_run (b : Builtin) (args : List Value) (s : Effects) : Shallow (b.run args s) := by
  cases b with
  | setUuid =>
    rw [Builtin.run]
    split
    · exact shallow_error EvalError.noConfusion
    · exact shallow_ok _
  | cursor | spawn | append => exact shallow_ok _

end Shallow

/-! ## The helpers -/

/-- Whether no helper gives the error of evaluations that are too deep. -/
def Helpers.Shallow (helpers : Helpers) (settings : Settings) : Prop :=
  ∀ (name : String) (h : Helper), helpers.get? name = some h →
    ∀ args : List Value, h args settings ≠ .error .tooDeep

namespace Helper

theorem shallow_widthAt (name : String) (args : List Value) (i : Nat) :
    Shallow (widthAt name args i) := by
  have hrefuse (message : String) :
      Shallow (.error (.helper name message) : Except EvalError Nat) := shallow_error nofun
  unfold widthAt
  dsimp only
  repeat' split
  all_goals first | exact hrefuse _ | exact shallow_ok _

theorem shallow_dateOf? (s : Settings) (v : Option Value) : Shallow (dateOf? s v) := by
  unfold dateOf?
  split
  · exact shallow_ok _
  · split
    · exact shallow_error nofun
    · exact shallow_ok _
  · split <;> exact shallow_ok _
  · exact shallow_ok _

theorem shallow_reference (args : List Value) (s : Settings) : Shallow (reference args s) := by
  unfold reference
  split <;> exact shallow_ok _

theorem shallow_writeDate (args : List Value) (s : Settings) : Shallow (writeDate args s) := by
  refine (shallow_dateOf? s _).bind fun d => ?_
  split
  · exact shallow_ok _
  · split <;> exact shallow_ok _

theorem shallow_size (args : List Value) (s : Settings) : Shallow (size args s) := by
  unfold size
  split
  case h_7 => exact shallow_error nofun
  all_goals exact shallow_ok _

theorem shallow_join (args : List Value) (s : Settings) : Shallow (join args s) := by
  unfold join
  dsimp only
  split <;> exact shallow_ok _

theorem shallow_choose (args : List Value) (s : Settings) : Shallow (choose args s) := by
  unfold choose
  dsimp only
  split
  · exact shallow_ok _
  · split <;> exact shallow_ok _

theorem shallow_readFlag (args : List Value) (s : Settings) : Shallow (readFlag args s) := by
  unfold readFlag
  split
  · exact shallow_ok _
  · exact shallow_ok _
  · dsimp only
    split
    · exact shallow_ok _
    · split <;> exact shallow_ok _
  · exact shallow_ok _

theorem shallow_standard (settings : Settings) : standard.Shallow settings := by
  intro name h hget args
  rw [standard, Dictionary.get?_ofList] at hget
  obtain ⟨entry, hlast, rfl⟩ := Option.map_eq_some_iff.mp hget
  have hmem := List.mem_of_mem_filter (List.mem_of_getLast? hlast)
  simp only [List.mem_cons, List.not_mem_nil, or_false] at hmem
  rcases hmem with rfl | rfl | rfl | rfl | rfl | rfl | rfl | rfl | rfl | rfl | rfl | rfl | rfl |
    rfl | rfl
  · exact shallow_reference args settings
  · exact shallow_ok _
  · exact (shallow_dateOf? settings _).bind fun _ => shallow_ok _
  · exact shallow_writeDate args settings
  · exact shallow_ok _
  · exact shallow_ok _
  · exact shallow_ok _
  · exact shallow_size args settings
  · exact shallow_join args settings
  · exact shallow_ok _
  · exact shallow_choose args settings
  · exact (shallow_widthAt _ args _).bind fun _ => shallow_ok _
  · exact (shallow_widthAt _ args _).bind fun _ => shallow_ok _
  · exact (shallow_widthAt _ args _).bind fun _ => shallow_ok _
  · exact shallow_readFlag args settings

end Helper

/-! ## Finishing an expression -/

namespace Action

variable {α : Type} {site : Site} {span : Span}

/-- Whether a computation does not fail with the error of evaluations that are too deep. -/
def FailsShallow (m : Action α) : Prop :=
  ∀ (s s' : Effects) (failure : Failure), m s = (.error failure, s') → failure.error ≠ .tooDeep

theorem failsShallow_pure (a : α) : FailsShallow (pure a : Action α) :=
  fun _ _ _ h => nomatch (Prod.mk.inj h).1

theorem failsShallow_ofResult {r : Except EvalError α} (hr : Shallow r) :
    FailsShallow (ofResult site span r) := by
  intro s s' failure h
  obtain ⟨error, rfl, rfl⟩ := ofResult_eq_error h
  exact fun heq => hr (congrArg _ heq)

theorem failsShallow_fail {error : EvalError} (herror : error ≠ .tooDeep) :
    FailsShallow (fail site span error : Action α) :=
  failsShallow_ofResult (shallow_error herror)

theorem failsShallow_perform (b : Builtin) (args : List Value) :
    FailsShallow (perform site span b args) := by
  intro s s' failure h
  obtain ⟨error, hrun, rfl⟩ := perform_eq_error h
  exact fun heq => shallow_run b args s (hrun.trans (congrArg _ heq))

end Action

open Stencil.Action

variable {site : Site}

/-- A function without effects that is called is one of the helpers. -/
theorem exists_get?_of_ofCall? {helpers : Helpers} {callee : Expr} {args all : List Expr}
    {h : Helper} (hcall : Target.ofCall? helpers callee args = some (.function h, all)) :
    ∃ name, helpers.get? name = some h := by
  unfold Target.ofCall? at hcall
  split at hcall
  · next target htarget =>
    obtain ⟨rfl, -⟩ := Prod.mk.inj (Option.some.inj hcall)
    obtain ⟨path, -, hpath⟩ := Option.bind_eq_some_iff.mp htarget
    unfold Target.ofPath? at hpath
    split at hpath
    · cases Option.some.inj hpath
    · obtain ⟨h', hget, heq⟩ := Option.map_eq_some_iff.mp hpath
      exact ⟨path, hget.trans (congrArg _ (Target.function.inj heq))⟩
  · split at hcall
    · obtain ⟨h', hget, heq⟩ := Option.map_eq_some_iff.mp hcall
      exact ⟨_, hget.trans (congrArg _ (Target.function.inj (Prod.mk.inj heq).1))⟩
    · cases hcall

theorem failsShallow_call {callee : Expr} {args all : List Expr} {target : Target} {span : Span}
    (hhelpers : site.helpers.Shallow site.settings)
    (hcall : Target.ofCall? site.helpers callee args = some (target, all)) (vs : List Value) :
    FailsShallow (target.call site span vs) := by
  cases target with
  | builtin b => exact failsShallow_perform b vs
  | function h =>
    obtain ⟨name, hget⟩ := exists_get?_of_ofCall? hcall
    exact failsShallow_ofResult (hhelpers name h hget vs)

/-- Finishing an expression does not fail with the error of evaluations that are too deep. -/
theorem finish_failsShallow (hhelpers : site.helpers.Shallow site.settings) (env : Environment)
    (span : Span) (e : Expr) (vs : List Value) : FailsShallow (e.finish site env span vs) := by
  unfold Expr.finish
  split
  case h_6 => exact failsShallow_ofResult (shallow_nameValue env _)
  case h_7 => exact failsShallow_ofResult (Value.shallow_member _ _)
  case h_8 => exact failsShallow_ofResult (Value.shallow_index _ _)
  case h_9 =>
    split
    · next hcall => exact failsShallow_call hhelpers hcall _
    · exact failsShallow_fail nofun
  case h_10 => exact failsShallow_ofResult (shallow_unary _ _)
  case h_12 => exact failsShallow_ofResult (shallow_binary _ _ _)
  all_goals exact failsShallow_pure _

end Stencil
