import Stencil.Proofs.Eval.Effects

/-!
# What an evaluation evaluates on the way

Every evaluation has the same shape. The operands are evaluated in order, then possibly one more
expression that their values select, and then the expression is finished, which evaluates nothing.

* `Expr.operands`, `Expr.selected` and `Expr.finish` are these three, and `evaluate_eq` says that
  evaluating is just that. A method call differs in its operands only: the object comes first
  (`Target.ofCall?`).
* `Evaluation` is an evaluation of an expression at a depth, and `Enters` relates it to those that
  it starts itself: each one after the ones before it had values.
* `run_eq_error_iff`: an evaluation fails as one that it starts, or as it is finished. Nothing
  catches a failure (`Enters.run_eq`).
-/

namespace Stencil

open Script Stencil.Action

/-! ## The shape of an evaluation -/

/-- Makes a call. -/
def Target.call (site : Site) (span : Span) : Target → List Value → Action Value
  | .builtin b, args => perform site span b args
  | .function h, args => callHelper site span h args

/-- What a call refers to, with the expressions whose values it gets: the arguments, behind the
object if only the last member of the callee names a helper. -/
def Target.ofCall? (helpers : Helpers) (callee : Expr) (args : List Expr) :
    Option (Target × List Expr) :=
  match ofCallee? helpers callee with
  | some target => some (target, args)
  | none =>
    match callee with
    | .member object field _ => (helpers.get? field).map fun h => (.function h, object :: args)
    | _ => none

namespace Script

/-- The expressions in the holes of a template literal. -/
def Part.holes : List Part → List Expr
  | [] => []
  | .literal _ :: parts => Part.holes parts
  | .hole e :: parts => e :: Part.holes parts

/-- The text of a template literal with the values of its holes. -/
def Part.fill : List Part → List Value → String
  | .literal s :: parts, vs => s ++ Part.fill parts vs
  | .hole _ :: parts, v :: vs => v.display ++ Part.fill parts vs
  | _, _ => ""

/-- The expressions that are evaluated whatever their values are, in order, unless one fails. -/
def Expr.operands (helpers : Helpers) : Expr → List Expr
  | .list items => items
  | .template parts => Part.holes parts
  | .member object _ _ => [object]
  | .index object place _ => [object, place]
  | .call callee args _ => ((Target.ofCall? helpers callee args).map Prod.snd).getD []
  | .unary _ operand => [operand]
  | .binary _ left _ => [left]
  | .conditional condition _ _ => [condition]
  | .number _ | .text _ | .flag _ | .null | .identifier _ _ => []

/-- The span at which the operands are evaluated: calls have their own. -/
def Expr.operandSpan (span : Span) : Expr → Span
  | .call _ _ own => own
  | _ => span

/-- The expression that is evaluated because of the values of the operands, if any: the second
operand of an operator that does not stop at the first, or a branch. -/
def Expr.selected : Expr → List Value → List Expr
  | .binary op _ right, [v] => if op.stopsAt v then [] else [right]
  | .conditional _ yes no, [v] => if v.isTruthy then [yes] else [no]
  | _, _ => []

/-- The value of an expression from the values of what is evaluated in it. -/
def Expr.finish (site : Site) (env : Environment) (span : Span) : Expr → List Value → Action Value
  | .number x, _ => pure (.number x)
  | .text s, _ => pure (.text s)
  | .flag b, _ => pure (.flag b)
  | .list _, vs => pure (.list vs)
  | .template parts, vs => pure (.text (Part.fill parts vs))
  | .identifier name own, _ =>
    ofResult site (if own.isEmpty then span else own) (nameValue env name)
  | .member _ field own, [v] => ofResult site own (v.member field)
  | .index _ _ own, [v, w] => ofResult site own (v.index w)
  | .call callee args own, vs =>
    match Target.ofCall? site.helpers callee args with
    | some (target, _) => target.call site own vs
    | none => fail site own (.ofCallee callee)
  | .unary op _, [v] => ofResult site span (op.apply v)
  | .binary _ _ _, [v] => pure v
  | .binary op _ _, [v, w] => ofResult site span (op.apply v w)
  | .conditional _ _ _, [_, v] => pure v
  | _, _ => pure .null

variable {site : Site} {env : Environment} {depth : Nat} {span : Span}

theorem evaluateParts_eq (parts : List Part) :
    evaluateParts site env depth span parts = do
      return Part.fill parts (← evaluateList site env depth span (Part.holes parts)) := by
  induction parts with
  | nil => rfl
  | cons part parts ih =>
    cases part with
    | literal s => simp [evaluateParts, ih, Part.holes, Part.fill]
    | hole e => simp [evaluateParts, evaluateList, ih, Part.holes, Part.fill]

theorem evaluate_of_lt (e : Expr) (h : maxDepth < depth) :
    e.evaluate site env depth span = fail site span .tooDeep := by
  rw [Expr.evaluate.eq_def, if_pos h]

/-- **Every evaluation has the same shape.** -/
theorem evaluate_eq (e : Expr) (h : depth ≤ maxDepth) :
    e.evaluate site env depth span = (do
      let vs ← evaluateList site env (depth + 1) (e.operandSpan span) (e.operands site.helpers)
      let ws ← evaluateList site env (depth + 1) span (e.selected vs)
      e.finish site env span (vs ++ ws)) := by
  rw [Expr.evaluate.eq_def, if_neg (Nat.not_lt.mpr h)]
  cases e with
  | number _ | text _ | flag _ | null | identifier _ _ =>
    simp [Expr.operands, Expr.selected, Expr.finish, evaluateList]
  | list items => simp [Expr.operands, Expr.operandSpan, Expr.selected, Expr.finish, evaluateList]
  | template parts =>
    simp [Expr.operands, Expr.operandSpan, Expr.selected, Expr.finish, evaluateList,
      evaluateParts_eq]
  | member object field own =>
    simp [Expr.operands, Expr.operandSpan, Expr.selected, Expr.finish, evaluateList]
  | index object place own =>
    simp [Expr.operands, Expr.operandSpan, Expr.selected, Expr.finish, evaluateList]
  | call callee args own =>
    simp only [Expr.operands, Expr.operandSpan, Expr.selected, Expr.finish, evaluateList,
      Target.ofCall?, pure_bind, List.append_nil]
    cases Target.ofCallee? site.helpers callee with
    | some target => cases target <;> simp [Target.call]
    | none =>
      -- The callee names nothing as a whole; the object of a member is then the first operand.
      cases callee with
      | member object field _ =>
        dsimp only
        cases site.helpers.get? field <;> simp [Target.call, evaluateList]
      | _ => simp [evaluateList]
  | unary op operand =>
    simp [Expr.operands, Expr.operandSpan, Expr.selected, Expr.finish, evaluateList]
  | binary op left right =>
    simp only [Expr.operands, Expr.operandSpan, Expr.selected, evaluateList, bind_assoc, pure_bind]
    refine bind_congr fun v => ?_
    -- With one value the operator has stopped, with two it is applied.
    cases op.stopsAt v <;> simp [Expr.finish, evaluateList]
  | conditional condition yes no =>
    simp only [Expr.operands, Expr.operandSpan, Expr.selected, evaluateList, bind_assoc, pure_bind]
    refine bind_congr fun v => ?_
    cases v.isTruthy <;> simp [Expr.finish, evaluateList]

end Script

/-! ## The evaluations on the way -/

/-- An evaluation of an expression at a depth, within code at a span, from given effects. -/
structure Evaluation where
  expr : Expr
  depth : Nat
  span : Span
  effects : Effects

/-- What comes of an evaluation. -/
def Evaluation.run (site : Site) (env : Environment) (v : Evaluation) :
    Except Failure Value × Effects :=
  v.expr.evaluate site env v.depth v.span v.effects

/-- The evaluations of expressions that are evaluated in order, up to the first that fails. -/
inductive InOrder (site : Site) (env : Environment) (depth : Nat) (span : Span) :
    List Expr → Effects → Evaluation → Prop
  | here (e : Expr) (es : List Expr) (s : Effects) :
    InOrder site env depth span (e :: es) s ⟨e, depth, span, s⟩
  | later {e : Expr} {es : List Expr} {s s' : Effects} {v : Value} {w : Evaluation} :
    e.evaluate site env depth span s = (.ok v, s') → InOrder site env depth span es s' w →
    InOrder site env depth span (e :: es) s w

/-- Whether an evaluation starts another one itself, as one of its operands or for what their values
select. -/
def Enters (site : Site) (env : Environment) (v w : Evaluation) : Prop :=
  v.depth ≤ maxDepth ∧
    (InOrder site env (v.depth + 1) (v.expr.operandSpan v.span) (v.expr.operands site.helpers)
        v.effects w ∨
      ∃ vs s,
        evaluateList site env (v.depth + 1) (v.expr.operandSpan v.span)
          (v.expr.operands site.helpers) v.effects = (.ok vs, s) ∧
        InOrder site env (v.depth + 1) v.span (v.expr.selected vs) s w)

section Failures

variable {site : Site} {env : Environment} {depth : Nat} {span : Span} {s s' : Effects}
  {failure : Failure} {v w : Evaluation}

/-- Expressions that are evaluated in order fail as the evaluation fails at which they stop. -/
theorem evaluateList_eq_error_iff (es : List Expr) :
    evaluateList site env depth span es s = (.error failure, s') ↔
      ∃ w, InOrder site env depth span es s w ∧ w.run site env = (.error failure, s') := by
  induction es generalizing s with
  | nil => exact ⟨fun h => (nomatch (Prod.mk.inj h).1), fun ⟨_, hw, _⟩ => nomatch hw⟩
  | cons e es ih =>
    rw [evaluateList, bind_apply_eq_error_iff]
    constructor
    · rintro (h | ⟨v, s₁, hv, h⟩)
      · exact ⟨_, .here e es s, h⟩
      · rcases bind_apply_eq_error_iff.mp h with h | ⟨_, _, -, h⟩
        · obtain ⟨w, hw, hrun⟩ := ih.mp h
          exact ⟨w, .later hv hw, hrun⟩
        · exact nomatch (Prod.mk.inj h).1
    · rintro ⟨w, hw, hrun⟩
      cases hw with
      | here => exact .inl hrun
      | later hv hw =>
        exact .inr ⟨_, _, hv, bind_apply_eq_error_iff.mpr (.inl (ih.mpr ⟨w, hw, hrun⟩))⟩

/-- **An evaluation fails as one that it starts**, or as it is finished. -/
theorem run_eq_error_iff (hdepth : v.depth ≤ maxDepth) :
    v.run site env = (.error failure, s') ↔
      (∃ w, Enters site env v w ∧ w.run site env = (.error failure, s')) ∨
      ∃ vs s₁ ws s₂,
        evaluateList site env (v.depth + 1) (v.expr.operandSpan v.span)
          (v.expr.operands site.helpers) v.effects = (.ok vs, s₁) ∧
        evaluateList site env (v.depth + 1) v.span (v.expr.selected vs) s₁ = (.ok ws, s₂) ∧
        v.expr.finish site env v.span (vs ++ ws) s₂ = (.error failure, s') := by
  rw [Evaluation.run, evaluate_eq v.expr hdepth, bind_apply_eq_error_iff]
  simp only [bind_apply_eq_error_iff, evaluateList_eq_error_iff]
  constructor
  · rintro (⟨w, hw, hrun⟩ | ⟨vs, s₁, hvs, ⟨w, hw, hrun⟩ | ⟨ws, s₂, hws, h⟩⟩)
    · exact .inl ⟨w, ⟨hdepth, .inl hw⟩, hrun⟩
    · exact .inl ⟨w, ⟨hdepth, .inr ⟨vs, s₁, hvs, hw⟩⟩, hrun⟩
    · exact .inr ⟨vs, s₁, ws, s₂, hvs, hws, h⟩
  · rintro (⟨w, ⟨-, hw | ⟨vs, s₁, hvs, hw⟩⟩, hrun⟩ | ⟨vs, s₁, ws, s₂, hvs, hws, h⟩)
    · exact .inl ⟨w, hw, hrun⟩
    · exact .inr ⟨vs, s₁, hvs, .inl ⟨w, hw, hrun⟩⟩
    · exact .inr ⟨vs, s₁, hvs, .inr ⟨ws, s₂, hws, h⟩⟩

/-- Nothing catches a failure. -/
theorem Enters.run_eq (h : Enters site env v w) (hrun : w.run site env = (.error failure, s')) :
    v.run site env = (.error failure, s') :=
  (run_eq_error_iff h.1).mpr (.inl ⟨w, h, hrun⟩)

end Failures

end Stencil
