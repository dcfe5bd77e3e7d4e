import Stencil.Proofs.Eval.Effects
import Stencil.Proofs.Script.Spans

/-!
# Where code fails

A failure names the file of the code that failed and a span that the code carries there. Code is
evaluated at the span of what it is part of, and some of it carries a span of its own.

* `FailsAt`: whether the failures of a computation are in a file and at given spans.
* `evaluate_failsAt`, `run_failsAt`, `instruction_failsAt`: expressions, statements and steps.
* `execute_failed`: a program fails where the first of its steps fails that does.
-/

namespace Stencil

open Script

/-- Whether a computation fails, if it does, in a file and at one of the given spans. -/
def FailsAt {σ α : Type} (file : Nat) (spans : List Span) (m : ExceptT Failure (StateM σ) α) :
    Prop :=
  ∀ (s s' : σ) (failure : Failure), m s = (.error failure, s') →
    failure.file = file ∧ failure.span ∈ spans

section Computations

variable {σ α β : Type} {file : Nat} {spans : List Span}

theorem failsAt_pure (a : α) : FailsAt file spans (pure a : ExceptT Failure (StateM σ) α) :=
  fun _ _ _ h => nomatch (Prod.mk.inj h).1

theorem FailsAt.bind {m : ExceptT Failure (StateM σ) α} {f : α → ExceptT Failure (StateM σ) β}
    (hm : FailsAt file spans m) (hf : ∀ a, FailsAt file spans (f a)) :
    FailsAt file spans (m >>= f) := by
  intro s s' failure h
  rcases bind_apply_eq_error_iff.mp h with h | ⟨a, s₁, -, h⟩
  · exact hm s s' failure h
  · exact hf a s₁ s' failure h

end Computations

/-! ## Expressions -/

namespace Action

variable {site : Site} {spans : List Span} {span : Span} {α : Type}

theorem failsAt_ofResult (hspan : span ∈ spans) (r : Except EvalError α) :
    FailsAt site.file spans (ofResult site span r) := by
  intro s s' failure h
  obtain ⟨error, -, rfl⟩ := ofResult_eq_error h
  exact ⟨rfl, hspan⟩

theorem failsAt_fail (hspan : span ∈ spans) (error : EvalError) :
    FailsAt site.file spans (fail site span error : Action α) :=
  failsAt_ofResult hspan (.error error)

theorem failsAt_perform (hspan : span ∈ spans) (b : Builtin) (args : List Value) :
    FailsAt site.file spans (perform site span b args) := by
  intro s s' failure h
  obtain ⟨error, -, rfl⟩ := perform_eq_error h
  exact ⟨rfl, hspan⟩

theorem failsAt_callHelper (hspan : span ∈ spans) (h : Helper) (args : List Value) :
    FailsAt site.file spans (callHelper site span h args) := failsAt_ofResult hspan _

end Action

namespace Script

open Stencil.Action

variable {site : Site} {env : Environment} {spans : List Span}

mutual

/-- **An expression fails at the span that it is evaluated at or at one of its own.** -/
theorem evaluate_failsAt : ∀ (e : Expr) (depth : Nat) {span : Span}, span ∈ spans →
    e.spans ⊆ spans → FailsAt site.file spans (e.evaluate site env depth span)
  | e, depth, span, hspan, he => by
    unfold Expr.evaluate
    split
    · exact failsAt_fail hspan _
    match e with
    | .number _ | .text _ | .flag _ | .null => exact failsAt_pure _
    | .list items => exact (evaluateList_failsAt items _ hspan he).bind fun _ => failsAt_pure _
    | .template parts => exact (evaluateParts_failsAt parts _ hspan he).bind fun _ => failsAt_pure _
    | .identifier _ own =>
      have hown := he List.mem_cons_self
      refine failsAt_ofResult ?_ _
      split
      · exact hspan
      · exact hown
    | .member object _ own =>
      obtain ⟨hown, hobject⟩ := List.cons_subset.mp he
      exact (evaluate_failsAt object _ hspan hobject).bind fun _ => failsAt_ofResult hown _
    | .index object index own =>
      obtain ⟨hown, hparts⟩ := List.cons_subset.mp he
      obtain ⟨hobject, hindex⟩ := List.append_subset.mp hparts
      exact (evaluate_failsAt object _ hspan hobject).bind fun _ =>
        (evaluate_failsAt index _ hspan hindex).bind fun _ => failsAt_ofResult hown _
    | .call callee args own =>
      obtain ⟨hown, hparts⟩ := List.cons_subset.mp he
      obtain ⟨hcallee, hargs⟩ := List.append_subset.mp hparts
      -- The arguments are evaluated at the span of the call.
      have hargs := evaluateList_failsAt args (depth + 1) hown hargs
      dsimp only
      split
      · exact hargs.bind fun _ => failsAt_perform hown _ _
      · exact hargs.bind fun _ => failsAt_callHelper hown _ _
      · match callee, hcallee with
        | .member object _ _, hcallee =>
          dsimp only
          split
          · exact (evaluate_failsAt object _ hown (List.cons_subset.mp hcallee).2).bind fun _ =>
              hargs.bind fun _ => failsAt_callHelper hown _ _
          · exact failsAt_fail hown _
        | .identifier .., _ | .index .., _ | .call .., _ | .unary .., _ | .binary .., _
        | .conditional .., _ | .number _, _ | .text _, _ | .flag _, _ | .null, _ | .list _, _
        | .template _, _ => exact failsAt_fail hown _
    | .unary _ operand =>
      exact (evaluate_failsAt operand _ hspan he).bind fun _ => failsAt_ofResult hspan _
    | .binary _ left right =>
      obtain ⟨hleft, hright⟩ := List.append_subset.mp he
      refine (evaluate_failsAt left _ hspan hleft).bind fun v => ?_
      split
      · exact failsAt_pure _
      · exact (evaluate_failsAt right _ hspan hright).bind fun _ => failsAt_ofResult hspan _
    | .conditional condition yes no =>
      obtain ⟨hcondition, hbranches⟩ := List.append_subset.mp he
      obtain ⟨hyes, hno⟩ := List.append_subset.mp hbranches
      refine (evaluate_failsAt condition _ hspan hcondition).bind fun v => ?_
      split
      · exact evaluate_failsAt yes _ hspan hyes
      · exact evaluate_failsAt no _ hspan hno

theorem evaluateList_failsAt : ∀ (es : List Expr) (depth : Nat) {span : Span}, span ∈ spans →
    Expr.spansAll es ⊆ spans → FailsAt site.file spans (evaluateList site env depth span es)
  | [], _, _, _, _ => failsAt_pure _
  | e :: es, depth, span, hspan, he => by
    obtain ⟨hhead, htail⟩ := List.append_subset.mp he
    exact (evaluate_failsAt e depth hspan hhead).bind fun _ =>
      (evaluateList_failsAt es depth hspan htail).bind fun _ => failsAt_pure _

theorem evaluateParts_failsAt : ∀ (parts : List Part) (depth : Nat) {span : Span}, span ∈ spans →
    Part.spansAll parts ⊆ spans → FailsAt site.file spans (evaluateParts site env depth span parts)
  | [], _, _, _, _ => failsAt_pure _
  | .literal _ :: parts, depth, span, hspan, he =>
    (evaluateParts_failsAt parts depth hspan he).bind fun _ => failsAt_pure _
  | .hole e :: parts, depth, span, hspan, he => by
    obtain ⟨hhead, htail⟩ := List.append_subset.mp he
    exact (evaluate_failsAt e depth hspan hhead).bind fun _ =>
      (evaluateParts_failsAt parts depth hspan htail).bind fun _ => failsAt_pure _

end

end Script

/-! ## Programs -/

/-- The spans in the code of a step. -/
def Instruction.spans : Instruction → List Span
  | .literal _ => []
  | .emit value _ _ => value.spans
  | .execute body _ => Statement.spansAll body

namespace Run

variable {site : Site} {spans : List Span} {span : Span} {α : Type}

theorem failsAt_evaluate (hspan : span ∈ spans) {e : Expr} (he : e.spans ⊆ spans) :
    FailsAt site.file spans (evaluate site span e) := by
  intro m m' failure h
  obtain ⟨hresult, -⟩ := Prod.mk.inj h
  exact evaluate_failsAt e 0 hspan he _ _ failure (Prod.ext hresult rfl)

theorem failsAt_bind (hspan : span ∈ spans)
    (change : Environment → Except EvalError Environment) :
    FailsAt site.file spans (Run.bind site span change) := by
  intro m m' failure h
  unfold Run.bind at h
  cases hchange : change m.env with
  | ok env =>
    rw [hchange] at h
    exact nomatch (Prod.mk.inj h).1
  | error error =>
    rw [hchange] at h
    obtain rfl := Except.error.inj (Prod.mk.inj h).1
    exact ⟨rfl, hspan⟩

theorem failsAt_inScope {file : Nat} {body : Run α} (h : FailsAt file spans body) :
    FailsAt file spans (inScope body) := by
  intro m m' failure hfails
  obtain ⟨hresult, -⟩ := Prod.mk.inj hfails
  exact h _ _ failure (Prod.ext hresult rfl)

end Run

section Programs

open Run

variable {site : Site} {spans : List Span}

mutual

theorem run_failsAt : ∀ (s : Statement), s.spans ⊆ spans → FailsAt site.file spans (s.run site)
  | .assign _ value _ span, hs => by
    obtain ⟨hspan, hvalue⟩ := List.cons_subset.mp hs
    exact (failsAt_evaluate hspan hvalue).bind fun _ => failsAt_bind hspan _
  | .expr value span, hs => by
    obtain ⟨hspan, hvalue⟩ := List.cons_subset.mp hs
    exact (failsAt_evaluate hspan hvalue).bind fun _ => failsAt_pure _
  | .branch condition yes no span, hs => by
    obtain ⟨hspan, hparts⟩ := List.cons_subset.mp hs
    obtain ⟨hcondition, hbranches⟩ := List.append_subset.mp hparts
    obtain ⟨hyes, hno⟩ := List.append_subset.mp hbranches
    refine (failsAt_evaluate hspan hcondition).bind fun v => ?_
    split
    · exact failsAt_inScope (runAll_failsAt yes hyes)
    · exact failsAt_inScope (runAll_failsAt no hno)

theorem runAll_failsAt : ∀ (ss : List Statement), Statement.spansAll ss ⊆ spans →
    FailsAt site.file spans (runAll site ss)
  | [], _ => failsAt_pure _
  | s :: ss, h => by
    obtain ⟨hhead, htail⟩ := List.append_subset.mp h
    exact (run_failsAt s hhead).bind fun _ => runAll_failsAt ss htail

end

/-- A step fails at its own span or at one in its code. -/
theorem instruction_failsAt (step : Instruction) :
    FailsAt site.file (step.span?.toList ++ step.spans) (step.run site) := by
  cases step with
  | literal text => exact failsAt_pure _
  | emit value filter span =>
    have hvalue := @failsAt_evaluate site _ span List.mem_cons_self value
      (List.subset_cons_self span value.spans)
    exact hvalue.bind fun _ => failsAt_pure _
  | execute body span =>
    exact (runAll_failsAt body (List.subset_cons_self _ _)).bind fun _ => failsAt_pure _

/-- Steps fail where the first of them fails that does. -/
theorem runSteps_failed : ∀ {steps : List Instruction} {m m' : Memory} {failure : Failure},
    runSteps site steps m = (.error failure, m') →
    ∃ before step after text mid, steps = before ++ step :: after ∧
      runSteps site before m = (.ok text, mid) ∧ step.run site mid = (.error failure, m')
  | [], _, _, _, h => nomatch (Prod.mk.inj h).1
  | step :: steps, m, m', failure, h => by
    rw [runSteps, bind_apply] at h
    cases hstep : step.run site m with
    | mk result mid =>
      rw [hstep] at h
      cases result with
      | error e =>
        obtain ⟨he, rfl⟩ := Prod.mk.inj h
        obtain rfl := Except.error.inj he
        exact ⟨[], step, steps, "", m, rfl, rfl, hstep⟩
      | ok text =>
        dsimp only at h
        rw [bind_apply] at h
        cases hsteps : runSteps site steps mid with
        | mk result mid' =>
          rw [hsteps] at h
          cases result with
          | ok rest => exact nomatch (Prod.mk.inj h).1
          | error e =>
            obtain ⟨he, rfl⟩ := Prod.mk.inj h
            obtain rfl := Except.error.inj he
            obtain ⟨before, failed, after, rest, last, hsplit, hbefore, hfailed⟩ :=
              runSteps_failed hsteps
            refine ⟨step :: before, failed, after, text ++ rest, last, by rw [hsplit]; rfl, ?_,
              hfailed⟩
            rw [runSteps, bind_apply, hstep]
            dsimp only
            rw [bind_apply, hbefore]
            rfl

/-- **A program fails where the first of its steps fails that does**: in the file of the program, at
the span of this step or at one in its code. -/
theorem execute_failed {p : Program} {helpers : Helpers} {settings : Settings}
    {env : Environment} {failure : Failure}
    (h : (p.execute helpers settings env).1 = .error failure) :
    failure.file = p.file ∧ ∃ before step after text m, p.steps = before ++ step :: after ∧
      runSteps ⟨helpers, settings, p.file⟩ before ⟨env.push, {}⟩ = (.ok text, m) ∧
      (step.run ⟨helpers, settings, p.file⟩ m).1 = .error failure ∧
      failure.span ∈ step.span?.toList ++ step.spans := by
  unfold Program.execute inScope at h
  cases hsteps : runSteps ⟨helpers, settings, p.file⟩ p.steps ⟨env.push, {}⟩ with
  | mk result m' =>
    dsimp only at h
    rw [hsteps] at h
    cases result with
    | ok text => exact nomatch h
    | error e =>
      obtain rfl := Except.error.inj h
      obtain ⟨before, step, after, text, m, hsplit, hbefore, hfailed⟩ := runSteps_failed hsteps
      obtain ⟨hfile, hspan⟩ := instruction_failsAt step _ _ _ hfailed
      exact ⟨hfile, before, step, after, text, m, hsplit, hbefore, congrArg Prod.fst hfailed, hspan⟩

end Programs

end Stencil
