import Stencil.Proofs.Eval.Effects
import Stencil.Proofs.Eval.Scopes

/-!
# What a run leaves in the environment

Code changes the environment by writes, some of them in scopes that it opens itself.

* `Write.outward`: the plain assignments among writes whose name the code has not declared itself.
  What is done in a scope leaves exactly these behind (`inScope_eq`).
* `Performs.outward`: an assignment to a name that is not bound anywhere is one of them.
* `Statement.writes`, `Program.writes`: the writes of a run, which are what it does to the
  environment, whether it fails or not (`run_env`, `runSteps_env`).
* `execute_leaves`, `branch_leaves`: what a program and a branch leave.
-/

namespace Stencil

open Script Environment Scope

/-! ## Writes -/

/-- What running code does to the environment. -/
inductive Write where
  | assign (name : String) (v : Value)
  | declare (name : String) (v : Value)
  /-- Writes in a scope of their own, which is closed behind them. -/
  | inScope (writes : List Write)

namespace Write

mutual

/-- The environment after a write. -/
def apply : Write → Environment → Environment
  | .assign name v, e => e.put name v
  | .declare name v, e => e.putInner name v
  | .inScope writes, e => (applyAll writes e.push).pop

/-- The environment after writes in order. -/
def applyAll : List Write → Environment → Environment
  | [], e => e
  | w :: ws, e => applyAll ws (w.apply e)

end

/-- The names that a write declares in the scope in which it is done. -/
def declared : Write → List String
  | .declare name _ => [name]
  | .assign _ _ | .inScope _ => []

mutual

/-- The plain assignments of a write to names that are not among the code's own. -/
def outward : Write → List String → List (String × Value)
  | .assign name v, own => if own.contains name then [] else [(name, v)]
  | .declare _ _, _ => []
  | .inScope writes, own => outwardAll writes own

/-- The plain assignments of writes to names that are not among the code's own, to which come those
that the writes declare. -/
def outwardAll : List Write → List String → List (String × Value)
  | [], _ => []
  | w :: ws, own => w.outward own ++ outwardAll ws (w.declared ++ own)

end

theorem applyAll_append (ws ws' : List Write) (e : Environment) :
    applyAll (ws ++ ws') e = applyAll ws' (applyAll ws e) := by
  induction ws generalizing e with
  | nil => rfl
  | cons w ws ih => exact ih (w.apply e)

mutual

/-- A write in code with scopes of its own changes these, and outside of them only what it assigns
to names that they do not bind. -/
theorem apply_under : ∀ (w : Write) (own : List String) (s : Scope) (rest : List Scope)
    (e : Environment), (∀ name, own.contains name = (s :: rest).any (·.contains name)) →
    ∃ s' rest', AllSameNames rest rest' ∧
      (∀ name, s'.contains name = (w.declared.contains name || s.contains name)) ∧
      w.apply (e.under (s :: rest)) = (e.putAll (w.outward own)).under (s' :: rest')
  | .assign name v, own, s, rest, e, hown => by
    rw [outward, apply, hown]
    cases hbound : (s :: rest).any (·.contains name) with
    | true =>
      obtain ⟨front', hnames, heq⟩ := put_under_of_bound (v := v) hbound
      cases hnames with
      | cons hs hrest => exact ⟨_, _, hrest, hs, heq⟩
    | false => exact ⟨s, rest, .refl rest, fun _ => rfl, put_under_of_unbound hbound⟩
  | .declare name v, own, s, rest, e, hown => by
    refine ⟨s.insert name v, rest, .refl rest, fun other => ?_, rfl⟩
    rw [Dictionary.contains_insert, declared, List.contains_cons, List.contains_nil, Bool.or_false,
      beq_eq_decide]
    exact congrArg (· || _) (decide_eq_decide.mpr eq_comm)
  | .inScope writes, own, s, rest, e, hown => by
    -- The scope that is opened binds nothing yet, so the names that count as the code's own stay.
    have hpush : ∀ name, own.contains name = (.empty :: s :: rest).any (·.contains name) :=
      fun name => by rw [List.any_cons, hown]; rfl
    obtain ⟨_, front, hnames, heq⟩ := applyAll_under writes own .empty (s :: rest) e hpush
    cases hnames with
    | cons hs hrest =>
      refine ⟨_, _, hrest, hs, ?_⟩
      rw [apply, outward]
      show (applyAll writes (e.under (.empty :: s :: rest))).pop = _
      rw [heq]
      rfl

theorem applyAll_under : ∀ (ws : List Write) (own : List String) (s : Scope) (rest : List Scope)
    (e : Environment), (∀ name, own.contains name = (s :: rest).any (·.contains name)) →
    ∃ s' rest', AllSameNames rest rest' ∧
      applyAll ws (e.under (s :: rest)) = (e.putAll (outwardAll ws own)).under (s' :: rest')
  | [], own, s, rest, e, hown => ⟨s, rest, .refl rest, rfl⟩
  | w :: ws, own, s, rest, e, hown => by
    obtain ⟨s₁, rest₁, hrest₁, hs₁, heq₁⟩ := apply_under w own s rest e hown
    have hown₁ : ∀ name, (w.declared ++ own).contains name = (s₁ :: rest₁).any (·.contains name) :=
      fun name => by
        rw [List.any_cons, hs₁, hrest₁.any_eq, List.contains_append, hown, List.any_cons,
          Bool.or_assoc]
    obtain ⟨s₂, rest₂, hrest₂, heq₂⟩ :=
      applyAll_under ws (w.declared ++ own) s₁ rest₁ (e.putAll (w.outward own)) hown₁
    refine ⟨s₂, rest₂, hrest₁.trans hrest₂, ?_⟩
    rw [applyAll, heq₁, heq₂, outwardAll, putAll_append]

end

/-- **What is done in a scope leaves its outward assignments and nothing else.** -/
theorem inScope_eq (writes : List Write) (e : Environment) :
    (Write.inScope writes).apply e = e.putAll (outwardAll writes []) := by
  have hown : ∀ name,
      ([] : List String).contains name = ([.empty] : List Scope).any (·.contains name) :=
    fun _ => rfl
  obtain ⟨s, rest, hrest, heq⟩ := applyAll_under writes [] .empty [] e hown
  cases hrest
  rw [apply]
  show (applyAll writes (e.under [.empty])).pop = _
  rw [heq]
  rfl

theorem mem_outwardAll_append {ws ws' : List Write} {own : List String} {entry : String × Value}
    (h : entry ∈ outwardAll (ws ++ ws') own) :
    entry ∈ outwardAll ws own ∨ ∃ own', entry ∈ outwardAll ws' own' := by
  induction ws generalizing own with
  | nil => exact .inr ⟨own, h⟩
  | cons w ws ih =>
    rcases List.mem_append.mp h with h | h
    · exact .inl (List.mem_append_left _ h)
    · exact (ih h).imp (List.mem_append_right _) id

end Write

/-- Whether writes, done from an environment on, assign a value to a name in another environment
without declaring the name. -/
inductive Performs (e' : Environment) (name : String) (v : Value) :
    List Write → Environment → Prop where
  | here {ws : List Write} : Performs e' name v (.assign name v :: ws) e'
  | later {w : Write} {ws : List Write} {e : Environment} :
    Performs e' name v ws (w.apply e) → Performs e' name v (w :: ws) e
  | inScope {ws ws' : List Write} {e : Environment} :
    Performs e' name v ws e.push → Performs e' name v (.inScope ws :: ws') e

namespace Write

theorem binds_apply {e : Environment} {name : String} (w : Write) (h : e.Binds name) :
    (w.apply e).Binds name := by
  cases w with
  | assign other v => exact (put_balanced e other v).binds h
  | declare other v => exact binds_putInner_iff.mpr (.inr h)
  | inScope ws =>
    rw [inScope_eq]
    exact (putAll_balanced e _).binds h

theorem binds_declared {e : Environment} {name : String} {w : Write} (h : name ∈ w.declared) :
    (w.apply e).Binds name := by
  cases w with
  | declare other v => exact binds_putInner_iff.mpr (.inl (List.mem_singleton.mp h).symm)
  | assign _ _ | inScope _ => exact nomatch h

end Write

namespace Performs

variable {e e' : Environment} {name : String} {v : Value} {ws : List Write}

/-- An assignment to a name that is not bound is an outward one, as long as the code's own names are
bound. -/
theorem outward (h : Performs e' name v ws e) {own : List String}
    (hown : ∀ other ∈ own, e.Binds other) (hname : ¬ e'.Binds name) :
    (name, v) ∈ Write.outwardAll ws own := by
  induction h generalizing own with
  | here =>
    have hfree : own.contains name = false :=
      Bool.eq_false_iff.mpr fun hmem => hname (hown name (List.contains_iff_mem.mp hmem))
    rw [Write.outwardAll, Write.outward, hfree]
    exact List.mem_cons_self
  | @later w ws e _ ih =>
    have hown' : ∀ other ∈ w.declared ++ own, (w.apply e).Binds other := fun other hother =>
      (List.mem_append.mp hother).elim Write.binds_declared fun hmem =>
        w.binds_apply (hown other hmem)
    exact List.mem_append_right _ (ih hown')
  | inScope _ ih => exact List.mem_append_left _ (ih hown)

end Performs

/-! ## The writes of a run -/

theorem Run.evaluate_env {site : Site} {span : Span} {e : Expr} {m m' : Memory}
    {result : Except Failure Value} (h : Run.evaluate site span e m = (result, m')) :
    m'.env = m.env := congrArg (·.2.env) h.symm

/-- A change that is refused for reserved names happens to other names. -/
theorem Run.bind_env {site : Site} {span : Span} {m : Memory} {name : String}
    {change : Environment → Except EvalError Environment} {env : Environment}
    (h : change m.env =
      if Environment.isReserved name then .error (.readOnly name) else .ok env) :
    (Run.bind site span change m).2.env =
      if Environment.isReserved name then m.env else env := by
  rw [Run.bind, h]
  cases Environment.isReserved name <;> rfl

mutual

/-- The writes of a statement that runs. -/
def Script.Statement.writes (site : Site) : Statement → Memory → List Write
  | .assign name value declare span, m =>
    match Run.evaluate site span value m with
    | (.error _, _) => []
    | (.ok v, _) =>
      if Environment.isReserved name then []
      else if declare then [.declare name v] else [.assign name v]
  | .expr _ _, _ => []
  | .branch condition yes no span, m =>
    match Run.evaluate site span condition m with
    | (.error _, _) => []
    | (.ok v, m) =>
      let m := { m with env := m.env.push }
      [.inScope (if v.isTruthy then writesAll site yes m else writesAll site no m)]

/-- The writes of statements that run in order, as far as they come. -/
def writesAll (site : Site) : List Statement → Memory → List Write
  | [], _ => []
  | s :: ss, m => s.writes site m ++
    match s.run site m with
    | (.error _, _) => []
    | (.ok _, m) => writesAll site ss m

end

/-- The writes of a step of a program. -/
def Instruction.writes (site : Site) : Instruction → Memory → List Write
  | .literal _, _ | .emit _ _ _, _ => []
  | .execute body _, m => writesAll site body m

/-- The writes of steps that run in order, as far as they come. -/
def stepWrites (site : Site) : List Instruction → Memory → List Write
  | [], _ => []
  | step :: steps, m => step.writes site m ++
    match step.run site m with
    | (.error _, _) => []
    | (.ok _, m) => stepWrites site steps m

/-- The writes of a program in its scope. -/
def Program.writes (p : Program) (helpers : Helpers) (settings : Settings) (env : Environment) :
    List Write := stepWrites ⟨helpers, settings, p.file⟩ p.steps ⟨env.push, {}⟩

mutual

/-- The names that a statement assigns without declaring them. -/
def Script.Statement.assigned : Statement → List String
  | .assign name _ declare _ => if declare then [] else [name]
  | .expr _ _ => []
  | .branch _ yes no _ => assignedAll yes ++ assignedAll no

/-- The names that statements assign without declaring them. -/
def assignedAll : List Statement → List String
  | [] => []
  | s :: ss => s.assigned ++ assignedAll ss

end

/-- The names that a step of a program assigns without declaring them. -/
def Instruction.assigned : Instruction → List String
  | .literal _ | .emit _ _ _ => []
  | .execute body _ => assignedAll body

/-- The names that a program assigns without declaring them. -/
def Program.assigned (p : Program) : List String := p.steps.flatMap Instruction.assigned

section Runs

variable {site : Site}

mutual

/-- A statement that runs does its writes to the environment. -/
theorem run_env : ∀ (s : Statement) (m : Memory),
    (s.run site m).2.env = Write.applyAll (s.writes site m) m.env
  | .assign name value declare span, m => by
    rw [Statement.run, bind_apply, Statement.writes]
    cases heq : Run.evaluate site span value m with
    | mk result m' =>
      have henv := Run.evaluate_env heq
      cases result with
      | error e => exact henv
      | ok v =>
        dsimp only
        cases declare with
        | true =>
          rw [Run.bind_env (declare_eq m'.env name v), henv]
          cases Environment.isReserved name <;> rfl
        | false =>
          rw [Run.bind_env (assign_eq m'.env name v), henv]
          cases Environment.isReserved name <;> rfl
  | .expr value span, m => by
    rw [Statement.run, bind_apply, Statement.writes]
    cases heq : Run.evaluate site span value m with
    | mk result m' =>
      have henv := Run.evaluate_env heq
      cases result with
      | error e => exact henv
      | ok v => exact henv
  | .branch condition yes no span, m => by
    rw [Statement.run, bind_apply, Statement.writes]
    cases heq : Run.evaluate site span condition m with
    | mk result m' =>
      have henv := Run.evaluate_env heq
      cases result with
      | error e => exact henv
      | ok v =>
        dsimp only
        rw [← henv]
        cases v.isTruthy with
        | true => exact congrArg Environment.pop (runAll_env yes { m' with env := m'.env.push })
        | false => exact congrArg Environment.pop (runAll_env no { m' with env := m'.env.push })

theorem runAll_env : ∀ (ss : List Statement) (m : Memory),
    (runAll site ss m).2.env = Write.applyAll (writesAll site ss m) m.env
  | [], m => rfl
  | s :: ss, m => by
    have hs := run_env s m
    rw [runAll, bind_apply, writesAll, Write.applyAll_append, ← hs]
    cases s.run site m with
    | mk result m' =>
      cases result with
      | error e => rfl
      | ok _ => exact runAll_env ss m'

end

theorem instruction_env (step : Instruction) (m : Memory) :
    (step.run site m).2.env = Write.applyAll (step.writes site m) m.env := by
  cases step with
  | literal text => rfl
  | emit value filter span =>
    rw [Instruction.run, bind_apply]
    cases heq : Run.evaluate site span value m with
    | mk result m' =>
      have henv := Run.evaluate_env heq
      cases result with
      | error e => exact henv
      | ok v => exact henv
  | execute body span =>
    rw [Instruction.run, bind_apply, Instruction.writes, ← runAll_env body m]
    cases runAll site body m with
    | mk result m' => cases result <;> rfl

theorem runSteps_env (steps : List Instruction) (m : Memory) :
    (runSteps site steps m).2.env = Write.applyAll (stepWrites site steps m) m.env := by
  induction steps generalizing m with
  | nil => rfl
  | cons step steps ih =>
    have hstep : (step.run site m).2.env = _ := instruction_env step m
    rw [runSteps, bind_apply, stepWrites, Write.applyAll_append, ← hstep]
    cases step.run site m with
    | mk result m' =>
      cases result with
      | error e => rfl
      | ok text =>
        have hrest := ih m'
        dsimp only
        rw [bind_apply, ← hrest]
        cases runSteps site steps m' with
        | mk result m'' => cases result <;> rfl

/-! ## Assigned names -/

mutual

theorem mem_assigned : ∀ (s : Statement) {m : Memory} {own : List String} {name : String}
    {v : Value}, (name, v) ∈ Write.outwardAll (s.writes site m) own → name ∈ s.assigned
  | .assign other value declare span, m, own, name, v, h => by
    rw [Statement.writes] at h
    rw [Statement.assigned]
    cases hrun : Run.evaluate site span value m with
    | mk result m' =>
      rw [hrun] at h
      cases result with
      | error e => exact nomatch h
      | ok w =>
        dsimp only at h
        cases hreserved : Environment.isReserved other with
        | true => rw [hreserved] at h; exact nomatch h
        | false =>
          rw [hreserved] at h
          cases declare with
          | true => exact nomatch h
          | false =>
            rw [if_neg Bool.false_ne_true, if_neg Bool.false_ne_true, Write.outwardAll,
              Write.outward] at h
            split at h
            · exact nomatch h
            · rw [(Prod.mk.inj (List.mem_singleton.mp h)).1]
              exact List.mem_singleton_self other
  | .expr _ _, _, _, _, _, h => nomatch h
  | .branch condition yes no span, m, own, name, v, h => by
    rw [Statement.writes] at h
    rw [Statement.assigned]
    cases hrun : Run.evaluate site span condition m with
    | mk result m' =>
      rw [hrun] at h
      cases result with
      | error e => exact nomatch h
      | ok w =>
        dsimp only at h
        rw [Write.outwardAll, Write.outward, Write.outwardAll, List.append_nil] at h
        split at h
        · exact List.mem_append_left _ (mem_assignedAll yes h)
        · exact List.mem_append_right _ (mem_assignedAll no h)

theorem mem_assignedAll : ∀ (ss : List Statement) {m : Memory} {own : List String} {name : String}
    {v : Value}, (name, v) ∈ Write.outwardAll (writesAll site ss m) own → name ∈ assignedAll ss
  | [], _, _, _, _, h => nomatch h
  | s :: ss, m, own, name, v, h => by
    rw [writesAll] at h
    rcases Write.mem_outwardAll_append h with h | ⟨own', h⟩
    · exact List.mem_append_left _ (mem_assigned s h)
    · refine List.mem_append_right _ ?_
      cases hrun : s.run site m with
      | mk result m' =>
        rw [hrun] at h
        cases result with
        | error e => exact nomatch h
        | ok _ => exact mem_assignedAll ss h

end

theorem mem_assigned_step {step : Instruction} {m : Memory} {own : List String} {name : String}
    {v : Value} (h : (name, v) ∈ Write.outwardAll (step.writes site m) own) :
    name ∈ step.assigned := by
  cases step with
  | literal text | emit value filter span => exact nomatch h
  | execute body span => exact mem_assignedAll body h

theorem mem_assigned_steps {steps : List Instruction} {m : Memory} {own : List String}
    {name : String} {v : Value} (h : (name, v) ∈ Write.outwardAll (stepWrites site steps m) own) :
    name ∈ steps.flatMap Instruction.assigned := by
  induction steps generalizing m own with
  | nil => exact nomatch h
  | cons step steps ih =>
    rw [stepWrites] at h
    rw [List.flatMap_cons]
    rcases Write.mem_outwardAll_append h with h | ⟨own', h⟩
    · exact List.mem_append_left _ (mem_assigned_step h)
    · refine List.mem_append_right _ ?_
      cases hrun : step.run site m with
      | mk result m' =>
        rw [hrun] at h
        cases result with
        | error e => exact nomatch h
        | ok _ => exact ih h

/-! ## What code leaves -/

/-- What code with a scope of its own leaves, given the names that it assigns and its writes. -/
structure Leaves (names : List String) (writes : List Write) (e e' : Environment) : Prop where
  /-- The environment is balanced. -/
  balanced : Balanced e e'
  /-- It is what the outward assignments alone make of it. -/
  outward : e' = e.putAll (Write.outwardAll writes [])
  /-- These are among the plain assignments in the code. -/
  assigned : ∀ name v, (name, v) ∈ Write.outwardAll writes [] → name ∈ names
  /-- Every other name means what it meant before, whatever the code declares. -/
  others : ∀ name, name ∉ names → e'.get? name = e.get? name

theorem Leaves.of_eq {names : List String} {writes : List Write} {e e' : Environment}
    (h : e' = e.putAll (Write.outwardAll writes []))
    (hassigned : ∀ name v, (name, v) ∈ Write.outwardAll writes [] → name ∈ names) :
    Leaves names writes e e' where
  balanced := h ▸ putAll_balanced e _
  outward := h
  assigned := hassigned
  others name hname := by rw [h, get?_putAll fun v hmem => hname (hassigned name v hmem)]

/-- **A program leaves its outward assignments and nothing else**, whether it fails or not. -/
theorem execute_leaves (p : Program) (helpers : Helpers) (settings : Settings) (env : Environment) :
    Leaves p.assigned (p.writes helpers settings env) env (p.execute helpers settings env).2 := by
  refine .of_eq ?_ fun name v => mem_assigned_steps
  rw [← Write.inScope_eq, Write.apply, Program.writes, ← runSteps_env]
  rfl

/-- A branch leaves its outward assignments and nothing else, whether it fails or not. -/
theorem branch_leaves (condition : Expr) (yes no : List Statement) (span : Span) (m : Memory) :
    Leaves (assignedAll yes ++ assignedAll no)
      ((Statement.branch condition yes no span).writes site m) m.env
      ((Statement.branch condition yes no span).run site m).2.env := by
  refine .of_eq ?_ fun name v => mem_assigned (.branch condition yes no span)
  rw [run_env, Statement.writes]
  cases Run.evaluate site span condition m with
  | mk result m' =>
    cases result with
    | error e => rfl
    | ok v =>
      dsimp only
      rw [Write.applyAll, Write.inScope_eq, Write.applyAll, Write.outwardAll, Write.outward,
        Write.outwardAll, List.append_nil]

/-- A declaration changes the innermost scope, and there one name. -/
theorem declare_local (name : String) (value : Expr) (span : Span) (m : Memory) {s : Scope}
    {rest : List Scope} (h : m.env.inner = s :: rest) :
    ∃ s', ((Statement.assign name value true span).run site m).2.env =
        { m.env with inner := s' :: rest } ∧
      ∀ other, other ≠ name → s'.get? other = s.get? other := by
  have hself : m.env = { m.env with inner := s :: rest } := by rw [← h]
  rw [run_env, Statement.writes]
  cases Run.evaluate site span value m with
  | mk result m' =>
    cases result with
    | error e => exact ⟨s, hself, fun _ _ => rfl⟩
    | ok v =>
      dsimp only
      split
      · exact ⟨s, hself, fun _ _ => rfl⟩
      · refine ⟨s.insert name v, ?_, fun other hne => ?_⟩
        · rw [if_pos rfl, Write.applyAll, Write.applyAll, Write.apply, putInner, h]
        · rw [Dictionary.get?_insert, if_neg hne.symm]

end Runs

end Stencil
