import Stencil.Eval.Program
import Stencil.Proofs.Result

/-!
# Effects are only written

Expressions see nothing of the effects of their node: they add to them, and what they add does not
depend on what was there.

* `Effects.append` adds effects to others.
* `Action.Writes`: whatever the effects are, the same result comes and the same effects of a class
  are added. `evaluate_writes` says so of expressions, for any class closed under `append` that has
  what the functions add that the expression calls (`Expr.builtins`).
* `effects_only_written`: so no result depends on the effects, and what no function is called for
  stays as it was.
* `execute_effects`: the effects of a program are in every class that has what any function adds.
-/

namespace Stencil

open Script

/-- A computation that may fail goes on in the state that the one before it left, if that one did
not fail. -/
theorem bind_apply {ε σ α β : Type} (m : ExceptT ε (StateM σ) α) (f : α → ExceptT ε (StateM σ) β)
    (s : σ) : (m >>= f) s =
      match m s with
      | (.ok a, s) => f a s
      | (.error e, s) => (.error e, s) := by
  show ExceptT.bindCont f (m s).1 (m s).2 = _
  cases m s with
  | mk result s =>
    cases result with
    | ok a => rfl
    | error e => rfl

/-- A failure of two computations is one of the first, or one of the second where the first gave a
result. -/
theorem bind_apply_eq_error_iff {ε σ α β : Type} {m : ExceptT ε (StateM σ) α}
    {f : α → ExceptT ε (StateM σ) β} {s s' : σ} {e : ε} :
    (m >>= f) s = (.error e, s') ↔
      m s = (.error e, s') ∨ ∃ a s₁, m s = (.ok a, s₁) ∧ f a s₁ = (.error e, s') := by
  rw [bind_apply]
  cases m s with
  | mk result s₁ =>
    cases result with
    | ok a =>
      constructor
      · exact fun h => .inr ⟨a, s₁, rfl, h⟩
      · rintro (h | ⟨a', s₂, heq, h⟩)
        · exact nomatch (Prod.mk.inj h).1
        · obtain ⟨ha, rfl⟩ := Prod.mk.inj heq
          exact Except.ok.inj ha ▸ h
    | error e' =>
      constructor
      · intro h
        obtain ⟨he, rfl⟩ := Prod.mk.inj h
        exact .inl (Except.error.inj he ▸ rfl)
      · rintro (h | ⟨_, _, heq, -⟩)
        · obtain ⟨he, rfl⟩ := Prod.mk.inj h
          exact Except.error.inj he ▸ rfl
        · exact nomatch (Prod.mk.inj heq).1

namespace Effects

/-- Effects and then others: the later identifier counts. -/
def append (s d : Effects) : Effects where
  uuid := d.uuid.or s.uuid
  spawned := s.spawned ++ d.spawned
  appended := s.appended ++ d.appended

@[simp]
theorem append_empty (s : Effects) : s.append {} = s := by simp [append]

theorem append_assoc (s d e : Effects) : (s.append d).append e = s.append (d.append e) := by
  simp only [append, List.append_assoc, Option.or_assoc]

end Effects

/-- What calling a function adds to the effects. -/
def Builtin.adds (b : Builtin) (args : List Value) : Effects :=
  match b with
  | .cursor => {}
  | .setUuid =>
    let id := trimmed ((args.head?.map Value.display).getD "")
    if id.isEmpty then {} else { uuid := some id }
  | .spawn => { spawned := Value.allNodes args }
  | .append => { appended := Value.allNodes args }

/-- A call of a function with effects gives the same whatever the effects are, and adds to them. -/
theorem Builtin.run_eq (b : Builtin) (args : List Value) (s : Effects) :
    b.run args s = (b.run args {}).map fun result => (result.1, s.append (b.adds args)) := by
  cases b with
  | cursor => simp [run, adds, Except.map]
  | setUuid =>
    simp only [run, adds]
    split
    · rfl
    · simp [Except.map, Effects.append]
  | spawn => simp [run, adds, Except.map, Effects.append]
  | append => simp [run, adds, Except.map, Effects.append]

/-- A class of effects: it has no effects at all, what each function with effects adds, and with two
effects their sum. -/
structure Effects.Class (P : Effects → Prop) : Prop where
  empty : P {}
  append : ∀ {s d}, P s → P d → P (s.append d)
  adds : ∀ (b : Builtin) (args : List Value), P (b.adds args)

/-- A class of effects for some of the functions with effects. -/
structure Effects.ClassOf (bs : List Builtin) (P : Effects → Prop) : Prop where
  empty : P {}
  append : ∀ {s d}, P s → P d → P (s.append d)
  adds : ∀ b ∈ bs, ∀ args : List Value, P (b.adds args)

theorem Effects.Class.classOf {P : Effects → Prop} (hP : Effects.Class P) (bs : List Builtin) :
    Effects.ClassOf bs P := ⟨hP.empty, hP.append, fun b _ => hP.adds b⟩

/-- Whether effects have only what some functions with effects can add. -/
structure Effects.OnlyOf (bs : List Builtin) (d : Effects) : Prop where
  uuid : .setUuid ∉ bs → d.uuid = none
  spawned : .spawn ∉ bs → d.spawned = []
  appended : .append ∉ bs → d.appended = []

theorem Effects.onlyOf_empty (bs : List Builtin) : OnlyOf bs {} :=
  ⟨fun _ => rfl, fun _ => rfl, fun _ => rfl⟩

theorem Effects.onlyOf_classOf (bs : List Builtin) : ClassOf bs (OnlyOf bs) where
  empty := onlyOf_empty bs
  append {s d} hs hd := by
    refine ⟨fun h => ?_, fun h => ?_, fun h => ?_⟩
    · rw [append, hs.uuid h, hd.uuid h, Option.none_or]
    · rw [append, hs.spawned h, hd.spawned h, List.nil_append]
    · rw [append, hs.appended h, hd.appended h, List.nil_append]
  adds b hb args := by
    cases b with
    | cursor => exact onlyOf_empty bs
    | setUuid =>
      simp only [Builtin.adds]
      split
      · exact onlyOf_empty bs
      · exact { onlyOf_empty bs with uuid := fun h => absurd hb h }
    | spawn => exact { onlyOf_empty bs with spawned := fun h => absurd hb h }
    | append => exact { onlyOf_empty bs with appended := fun h => absurd hb h }

namespace Action

variable {α β : Type} {P : Effects → Prop} {bs : List Builtin} {site : Site} {span : Span}

/-- Whether a computation gives the same result from all effects and adds the same to them, which
satisfies `P`. -/
def Writes (P : Effects → Prop) (m : Action α) : Prop :=
  ∃ result added, P added ∧ ∀ s : Effects, m s = (result, s.append added)

theorem perform_apply (b : Builtin) (args : List Value) (s : Effects) :
    perform site span b args s =
      match b.run args s with
      | .ok (v, s) => (.ok v, s)
      | .error error => (.error ⟨error, span, site.file⟩, s) := by
  show (ofResult site span (b.run args s) >>= fun result => _ : Action Value) s = _
  rw [bind_apply]
  cases b.run args s with
  | ok result => rfl
  | error error => rfl

/-- A result that is no error is gone on with. -/
theorem ofResult_eq_error {r : Except EvalError α} {s s' : Effects} {failure : Failure}
    (h : ofResult site span r s = (.error failure, s')) :
    ∃ error, r = .error error ∧ failure = ⟨error, span, site.file⟩ := by
  cases r with
  | ok a => exact nomatch (Prod.mk.inj h).1
  | error error => exact ⟨error, rfl, (Except.error.inj (Prod.mk.inj h).1).symm⟩

theorem perform_eq_error {b : Builtin} {args : List Value} {s s' : Effects} {failure : Failure}
    (h : perform site span b args s = (.error failure, s')) :
    ∃ error, b.run args s = .error error ∧ failure = ⟨error, span, site.file⟩ := by
  rw [perform_apply] at h
  cases hrun : b.run args s with
  | ok result =>
    rw [hrun] at h
    exact nomatch (Prod.mk.inj h).1
  | error error =>
    rw [hrun] at h
    exact ⟨error, rfl, (Except.error.inj (Prod.mk.inj h).1).symm⟩

variable (hP : Effects.ClassOf bs P)
include hP

theorem writes_ofResult (r : Except EvalError α) : Writes P (ofResult site span r) := by
  refine ⟨r.mapError fun error => ⟨error, span, site.file⟩, {}, hP.empty, fun s => ?_⟩
  rw [Effects.append_empty]
  cases r <;> rfl

theorem writes_fail (error : EvalError) : Writes P (fail site span error : Action α) :=
  writes_ofResult hP (.error error)

theorem writes_pure (a : α) : Writes P (pure a : Action α) :=
  ⟨.ok a, {}, hP.empty, fun s => by rw [Effects.append_empty]; rfl⟩

theorem Writes.bind {m : Action α} {f : α → Action β} (hm : Writes P m)
    (hf : ∀ a, Writes P (f a)) : Writes P (m >>= f) := by
  obtain ⟨result, added, hadded, heq⟩ := hm
  cases result with
  | error e => exact ⟨.error e, added, hadded, fun s => by rw [bind_apply, heq]⟩
  | ok a =>
    obtain ⟨result, more, hmore, heq'⟩ := hf a
    refine ⟨result, added.append more, hP.append hadded hmore, fun s => ?_⟩
    rw [bind_apply, heq]
    dsimp only
    rw [heq', Effects.append_assoc]

theorem writes_perform {b : Builtin} (hb : b ∈ bs) (args : List Value) :
    Writes P (perform site span b args) := by
  cases hrun : b.run args {} with
  | ok result =>
    refine ⟨.ok result.1, b.adds args, hP.adds b hb args, fun s => ?_⟩
    rw [perform_apply, b.run_eq, hrun]
    rfl
  | error error =>
    refine ⟨.error ⟨error, span, site.file⟩, {}, hP.empty, fun s => ?_⟩
    rw [perform_apply, b.run_eq, hrun, Effects.append_empty]
    rfl

theorem writes_callHelper (h : Helper) (args : List Value) :
    Writes P (callHelper site span h args) := writes_ofResult hP _

end Action

/-! ## Expressions -/

namespace Script

open Stencil.Action

mutual

/-- The functions with effects that are called in an expression. -/
def Expr.builtins : Expr → List Builtin
  | .text _ | .number _ | .flag _ | .null | .identifier .. => []
  | .list items => Expr.builtinsAll items
  | .template parts => Part.builtinsAll parts
  | .member object _ _ => object.builtins
  | .index object place _ => object.builtins ++ place.builtins
  | .call callee args _ =>
    (callee.path?.bind Builtin.ofName?).toList ++ (callee.builtins ++ Expr.builtinsAll args)
  | .unary _ operand => operand.builtins
  | .binary _ left right => left.builtins ++ right.builtins
  | .conditional condition yes no => condition.builtins ++ (yes.builtins ++ no.builtins)

/-- The functions with effects that are called in expressions. -/
def Expr.builtinsAll : List Expr → List Builtin
  | [] => []
  | e :: es => e.builtins ++ Expr.builtinsAll es

/-- The functions with effects that are called in the parts of a template literal. -/
def Part.builtinsAll : List Part → List Builtin
  | [] => []
  | .literal _ :: parts => Part.builtinsAll parts
  | .hole e :: parts => e.builtins ++ Part.builtinsAll parts

end

/-- The function with effects that a callee refers to is one of those that are called. -/
theorem mem_of_ofCallee? {helpers : Helpers} {callee : Expr} {b : Builtin}
    (h : Target.ofCallee? helpers callee = some (.builtin b)) :
    b ∈ (callee.path?.bind Builtin.ofName?).toList := by
  obtain ⟨path, hpath, htarget⟩ := Option.bind_eq_some_iff.mp h
  rw [hpath, Option.bind_some]
  unfold Target.ofPath? at htarget
  split at htarget
  · next b' hb =>
    obtain rfl : b' = b := Target.builtin.inj (Option.some.inj htarget)
    rw [hb]
    exact List.mem_singleton_self b'
  · obtain ⟨h, -, hne⟩ := Option.map_eq_some_iff.mp htarget
    exact nomatch hne

variable {P : Effects → Prop} {bs : List Builtin} (hP : Effects.ClassOf bs P) {site : Site}
  {env : Environment}
include hP

mutual

/-- **Expressions only write effects**, those of the functions that they call. -/
theorem evaluate_writes : ∀ (e : Expr) (depth : Nat) (span : Span), e.builtins ⊆ bs →
    Writes P (e.evaluate site env depth span)
  | e, depth, span, he => by
    unfold Expr.evaluate
    split
    · exact writes_fail hP _
    match e with
    | .number _ | .text _ | .flag _ | .null => exact writes_pure hP _
    | .list items =>
      exact (evaluateList_writes items _ _ he).bind hP fun _ => writes_pure hP _
    | .template parts =>
      exact (evaluateParts_writes parts _ _ he).bind hP fun _ => writes_pure hP _
    | .identifier _ _ => exact writes_ofResult hP _
    | .member object _ _ =>
      exact (evaluate_writes object _ _ he).bind hP fun _ => writes_ofResult hP _
    | .index object index _ =>
      obtain ⟨hobject, hindex⟩ := List.append_subset.mp he
      exact (evaluate_writes object _ _ hobject).bind hP fun _ =>
        (evaluate_writes index _ _ hindex).bind hP fun _ => writes_ofResult hP _
    | .call callee args own =>
      obtain ⟨hcalled, hparts⟩ := List.append_subset.mp he
      obtain ⟨hcallee, hargs⟩ := List.append_subset.mp hparts
      have hargs := evaluateList_writes args (depth + 1) own hargs
      dsimp only
      split
      · next htarget =>
        have hb := hcalled (mem_of_ofCallee? htarget)
        exact hargs.bind hP fun _ => writes_perform hP hb _
      · exact hargs.bind hP fun _ => writes_callHelper hP _ _
      · -- The callee names nothing as a whole; its last member may still name a helper.
        match callee, hcallee with
        | .member object _ _, hobject =>
          dsimp only
          split
          · exact (evaluate_writes object _ _ hobject).bind hP fun _ =>
              hargs.bind hP fun _ => writes_callHelper hP _ _
          · exact writes_fail hP _
        | .identifier .., _ | .index .., _ | .call .., _ | .unary .., _ | .binary .., _
        | .conditional .., _ | .number _, _ | .text _, _ | .flag _, _ | .null, _ | .list _, _
        | .template _, _ => exact writes_fail hP _
    | .unary _ operand =>
      exact (evaluate_writes operand _ _ he).bind hP fun _ => writes_ofResult hP _
    | .binary _ left right =>
      obtain ⟨hleft, hright⟩ := List.append_subset.mp he
      refine (evaluate_writes left _ _ hleft).bind hP fun v => ?_
      split
      · exact writes_pure hP _
      · exact (evaluate_writes right _ _ hright).bind hP fun _ => writes_ofResult hP _
    | .conditional condition yes no =>
      obtain ⟨hcondition, hbranches⟩ := List.append_subset.mp he
      obtain ⟨hyes, hno⟩ := List.append_subset.mp hbranches
      refine (evaluate_writes condition _ _ hcondition).bind hP fun v => ?_
      split
      · exact evaluate_writes yes _ _ hyes
      · exact evaluate_writes no _ _ hno

theorem evaluateList_writes : ∀ (es : List Expr) (depth : Nat) (span : Span),
    Expr.builtinsAll es ⊆ bs → Writes P (evaluateList site env depth span es)
  | [], _, _, _ => writes_pure hP _
  | e :: es, depth, span, h => by
    obtain ⟨hhead, htail⟩ := List.append_subset.mp h
    exact (evaluate_writes e depth span hhead).bind hP fun _ =>
      (evaluateList_writes es depth span htail).bind hP fun _ => writes_pure hP _

theorem evaluateParts_writes : ∀ (parts : List Part) (depth : Nat) (span : Span),
    Part.builtinsAll parts ⊆ bs → Writes P (evaluateParts site env depth span parts)
  | [], _, _, _ => writes_pure hP _
  | .literal _ :: parts, depth, span, h =>
    (evaluateParts_writes parts depth span h).bind hP fun _ => writes_pure hP _
  | .hole e :: parts, depth, span, h => by
    obtain ⟨hhead, htail⟩ := List.append_subset.mp h
    exact (evaluate_writes e depth span hhead).bind hP fun _ =>
      (evaluateParts_writes parts depth span htail).bind hP fun _ => writes_pure hP _

end

end Script

/-- **Expressions see nothing of the effects and only add to them.** From all effects an expression
gives the same result, and adds the same nodes behind the others and the same identifier, if any.
Where it does not call the function for them, it adds none. -/
theorem effects_only_written (site : Site) (env : Environment) (depth : Nat) (span : Span)
    (e : Expr) :
    ∃ (result : Except Failure Value) (uuid : Option String) (spawned appended : List Node),
      (∀ s : Effects, e.evaluate site env depth span s =
        (result, { uuid := uuid.or s.uuid, spawned := s.spawned ++ spawned,
                   appended := s.appended ++ appended })) ∧
      (.setUuid ∉ e.builtins → uuid = none) ∧ (.spawn ∉ e.builtins → spawned = []) ∧
      (.append ∉ e.builtins → appended = []) := by
  have hwrites : Action.Writes (Effects.OnlyOf e.builtins) (e.evaluate site env depth span) :=
    evaluate_writes (Effects.onlyOf_classOf e.builtins) e depth span (List.Subset.refl _)
  obtain ⟨result, added, honly, heq⟩ := hwrites
  exact ⟨result, added.uuid, added.spawned, added.appended, heq, honly.uuid, honly.spawned,
    honly.appended⟩

/-! ## Programs -/

/-- Whether running code leaves the effects in a class in which they were. -/
def Run.Keeps {α : Type} (P : Effects → Prop) (m : Run α) : Prop :=
  ∀ memory : Memory, P memory.effects → P (m memory).2.effects

namespace Run

variable {α β : Type} {P : Effects → Prop} {site : Site}

theorem keeps_pure (a : α) : Keeps P (pure a : Run α) := fun _ h => h

theorem Keeps.bind {m : Run α} {f : α → Run β} (hm : Keeps P m) (hf : ∀ a, Keeps P (f a)) :
    Keeps P (m >>= f) := by
  intro memory h
  have hmid := hm memory h
  rw [bind_apply]
  cases heq : m memory with
  | mk result memory =>
    rw [heq] at hmid
    cases result with
    | ok a => exact hf a memory hmid
    | error e => exact hmid

theorem keeps_evaluate (hP : Effects.Class P) (span : Span) (e : Expr) :
    Keeps P (evaluate site span e) := by
  intro memory h
  have hwrites : Action.Writes P (e.evaluate site memory.env 0 span) :=
    evaluate_writes (hP.classOf e.builtins) e 0 span (List.Subset.refl _)
  obtain ⟨result, added, hadded, heq⟩ := hwrites
  show P (e.evaluate site memory.env 0 span memory.effects).2
  rw [heq]
  exact hP.append h hadded

theorem keeps_bind (span : Span) (change : Environment → Except EvalError Environment) :
    Keeps P (Run.bind site span change) := by
  intro memory h
  unfold Run.bind
  cases change memory.env with
  | ok env => exact h
  | error error => exact h

theorem Keeps.inScope {m : Run α} (hm : Keeps P m) : Keeps P (inScope m) :=
  fun memory h => hm { memory with env := memory.env.push } h

end Run

section Programs

open Run

variable {P : Effects → Prop} {site : Site}

mutual

theorem run_keeps (hP : Effects.Class P) : ∀ s : Statement, Keeps P (s.run site)
  | .assign _ value _ span =>
    (keeps_evaluate hP span value).bind fun _ => keeps_bind span _
  | .expr value span => (keeps_evaluate hP span value).bind fun _ => keeps_pure ()
  | .branch condition yes no span => by
    refine (keeps_evaluate hP span condition).bind fun v => ?_
    split
    · exact (runAll_keeps hP yes).inScope
    · exact (runAll_keeps hP no).inScope

theorem runAll_keeps (hP : Effects.Class P) : ∀ ss : List Statement, Keeps P (runAll site ss)
  | [] => keeps_pure ()
  | s :: ss => (run_keeps hP s).bind fun _ => runAll_keeps hP ss

end

variable (hP : Effects.Class P)
include hP

theorem instruction_keeps (step : Instruction) : Keeps P (step.run site) := by
  cases step with
  | literal text => exact keeps_pure text
  | emit value filter span => exact (keeps_evaluate hP span value).bind fun v => keeps_pure _
  | execute body span => exact (runAll_keeps hP body).bind fun _ => keeps_pure ""

theorem runSteps_keeps : ∀ steps : List Instruction, Keeps P (runSteps site steps)
  | [] => keeps_pure ""
  | step :: steps =>
    (instruction_keeps hP step).bind fun _ => (runSteps_keeps steps).bind fun _ => keeps_pure _

/-- **The effects of a program are in every class of effects.** -/
theorem execute_effects {p : Program} {helpers : Helpers} {settings : Settings}
    {env env' : Environment} {rendered : Rendered}
    (h : p.execute helpers settings env = (.ok rendered, env')) : P rendered.effects := by
  have hkeeps : Keeps P (inScope (runSteps ⟨helpers, settings, p.file⟩ p.steps)) :=
    (runSteps_keeps hP p.steps).inScope
  have heffects := hkeeps ⟨env, {}⟩ hP.empty
  obtain ⟨hrendered, -⟩ := Prod.mk.inj h
  obtain ⟨text, -, rfl⟩ := map_eq_ok_iff.mp hrendered
  exact heffects

end Programs

end Stencil
