import Mathlib.Data.List.Induction
import Stencil.Proofs.Eval.Writes

/-!
# Reserved names

Scopes are searched before the reserved names are, so a reserved name keeps the value that the host
gave it only as long as no scope binds it. That no scope ever does is an invariant of everything
that happens to an environment.

* `Environment.Closed`: classes of environments that code does not leave. A program ends in the
  class in which it started, whether it fails or not (`execute_closed`).
* `Environment.Unshadowed`: no scope binds a reserved name; `unshadowed_closed`: code keeps it so.
* `Operation` is what can happen to an environment, and `after` what it is like then.
* `reserved_names_kept`: reserved names have the values that they were given last.
-/

namespace Stencil

open Script Environment

/-! ## Classes of environments -/

/-- A class of environments that is closed under opening and closing scopes and under the writes
that are not refused. -/
structure Environment.Closed (P : Environment → Prop) : Prop where
  push : ∀ {e}, P e → P e.push
  pop : ∀ {e}, P e → P e.pop
  assign : ∀ {e e' name v}, e.assign name v = .ok e' → P e → P e'
  declare : ∀ {e e' name v}, e.declare name v = .ok e' → P e → P e'

/-- Whether running code leaves the environment in a class in which it was. -/
def Run.Stays {α : Type} (P : Environment → Prop) (m : Run α) : Prop :=
  ∀ memory : Memory, P memory.env → P (m memory).2.env

namespace Run

variable {α β : Type} {P : Environment → Prop} {site : Site}

theorem stays_pure (a : α) : Stays P (pure a : Run α) := fun _ h => h

theorem Stays.bind {m : Run α} {f : α → Run β} (hm : Stays P m) (hf : ∀ a, Stays P (f a)) :
    Stays P (m >>= f) := by
  intro memory h
  have hmid := hm memory h
  rw [bind_apply]
  cases heq : m memory with
  | mk result memory =>
    rw [heq] at hmid
    cases result with
    | ok a => exact hf a memory hmid
    | error e => exact hmid

theorem stays_evaluate (span : Span) (e : Expr) : Stays P (evaluate site span e) := fun _ h => h

theorem stays_bind (span : Span) {change : Environment → Except EvalError Environment}
    (hchange : ∀ {e e'}, change e = .ok e' → P e → P e') : Stays P (Run.bind site span change) := by
  intro memory h
  unfold Run.bind
  cases heq : change memory.env with
  | ok env => exact hchange heq h
  | error error => exact h

theorem Stays.inScope {m : Run α} (hP : Closed P) (hm : Stays P m) : Stays P (inScope m) :=
  fun memory h => hP.pop (hm { memory with env := memory.env.push } (hP.push h))

end Run

section Programs

open Run

variable {P : Environment → Prop} {site : Site}

mutual

theorem run_stays (hP : Closed P) : ∀ s : Statement, Stays P (s.run site)
  | .assign _ value declare span => by
    refine (stays_evaluate span value).bind fun v => stays_bind span ?_
    cases declare with
    | true => exact hP.declare
    | false => exact hP.assign
  | .expr value span => (stays_evaluate span value).bind fun _ => stays_pure ()
  | .branch condition yes no span => by
    refine (stays_evaluate span condition).bind fun v => ?_
    split
    · exact (runAll_stays hP yes).inScope hP
    · exact (runAll_stays hP no).inScope hP

theorem runAll_stays (hP : Closed P) : ∀ ss : List Statement, Stays P (runAll site ss)
  | [] => stays_pure ()
  | s :: ss => (run_stays hP s).bind fun _ => runAll_stays hP ss

end

variable (hP : Closed P)
include hP

theorem instruction_stays (step : Instruction) : Stays P (step.run site) := by
  cases step with
  | literal text => exact stays_pure text
  | emit value filter span => exact (stays_evaluate span value).bind fun _ => stays_pure _
  | execute body span => exact (runAll_stays hP body).bind fun _ => stays_pure ""

theorem runSteps_stays : ∀ steps : List Instruction, Stays P (runSteps site steps)
  | [] => stays_pure ""
  | step :: steps =>
    (instruction_stays hP step).bind fun _ => (runSteps_stays steps).bind fun _ => stays_pure _

/-- A program leaves the environment in every class in which it was, whether it fails or not. -/
theorem execute_closed (p : Program) (helpers : Helpers) (settings : Settings) {env : Environment}
    (h : P env) : P (p.execute helpers settings env).2 :=
  (runSteps_stays hP p.steps).inScope hP ⟨env, {}⟩ h

end Programs

/-! ## Names that no scope binds -/

namespace Environment

variable {e e' : Environment} {name other : String} {v : Value}

/-- Whether no scope binds a reserved name. -/
def Unshadowed (e : Environment) : Prop := ∀ name, isReserved name = true → ¬ e.Binds name

/-- An assignment binds no name but its own. -/
theorem binds_of_binds_put (h : (e.put name v).Binds other) : name = other ∨ e.Binds other := by
  unfold put at h
  split at h
  · next inner hinner =>
    have hnames := (update?_sameNames hinner).any_eq other
    simp only [Binds, scopes, List.any_append, hnames] at h ⊢
    exact .inr h
  · simp only [Binds, scopes, List.any_append, List.any_cons, List.any_nil, Bool.or_false,
      Dictionary.contains_insert, Bool.or_eq_true, decide_eq_true_eq] at h ⊢
    rcases h with h | h | h
    · exact .inr (.inl h)
    · exact .inl h
    · exact .inr (.inr h)

theorem find?_eq_none {ss : List Scope} (h : ss.any (·.contains name) = false) :
    find? name ss = none := by
  induction ss with
  | nil => rfl
  | cons s ss ih =>
    rw [List.any_cons, Bool.or_eq_false_iff] at h
    have hs : s.get? name = none := Option.not_isSome_iff_eq_none.mp (Bool.eq_false_iff.mp h.1)
    rw [find?, hs, ih h.2, Option.or_none]

/-- A name that no scope binds has its reserved value. -/
theorem get?_of_not_binds (h : ¬ e.Binds name) : e.get? name = e.globals.get? name := by
  rw [get?, find?_eq_none (Bool.eq_false_iff.mpr h), Option.none_or]

/-- A write that is not refused concerns a name that is not reserved. -/
theorem assign_eq_ok_iff :
    e.assign name v = .ok e' ↔ isReserved name = false ∧ e' = e.put name v := by
  rw [assign_eq]
  cases isReserved name <;> simp [eq_comm]

theorem declare_eq_ok_iff :
    e.declare name v = .ok e' ↔ isReserved name = false ∧ e' = e.putInner name v := by
  rw [declare_eq]
  cases isReserved name <;> simp [eq_comm]

/-- A write to a reserved name is refused. -/
theorem assign_of_reserved (h : isReserved name = true) :
    e.assign name v = .error (.readOnly name) := by
  rw [assign_eq, if_pos h]

theorem declare_of_reserved (h : isReserved name = true) :
    e.declare name v = .error (.readOnly name) := by
  rw [declare_eq, if_pos h]

theorem Unshadowed.bindGlobal (h : e.Unshadowed) (name : String) (v : Value) :
    (e.bindGlobal name v).Unshadowed := h

theorem Unshadowed.push (h : e.Unshadowed) : e.push.Unshadowed := h

theorem Unshadowed.pop (h : e.Unshadowed) : e.pop.Unshadowed := by
  intro name hname hbinds
  refine h name hname ?_
  obtain ⟨s, hs, hbound⟩ := List.any_eq_true.mp hbinds
  refine List.any_eq_true.mpr ⟨s, ?_, hbound⟩
  rw [scopes, List.mem_append] at hs ⊢
  exact hs.imp_left List.mem_of_mem_tail

theorem Unshadowed.assign (h : e.Unshadowed) (hassign : e.assign name v = .ok e') :
    e'.Unshadowed := by
  obtain ⟨hfree, rfl⟩ := assign_eq_ok_iff.mp hassign
  intro other hother hbinds
  rcases binds_of_binds_put hbinds with rfl | hbinds
  · exact absurd (hfree.symm.trans hother) Bool.false_ne_true
  · exact h other hother hbinds

theorem Unshadowed.declare (h : e.Unshadowed) (hdeclare : e.declare name v = .ok e') :
    e'.Unshadowed := by
  obtain ⟨hfree, rfl⟩ := declare_eq_ok_iff.mp hdeclare
  intro other hother hbinds
  rcases binds_putInner_iff.mp hbinds with rfl | hbinds
  · exact absurd (hfree.symm.trans hother) Bool.false_ne_true
  · exact h other hother hbinds

theorem globals_putInner : (e.putInner name v).globals = e.globals := by
  unfold putInner
  cases e.inner <;> rfl

/-- **Code shadows no reserved name**, and it changes the value of none. -/
theorem unshadowed_closed (globals : Scope) :
    Closed fun e => e.Unshadowed ∧ e.globals = globals where
  push h := ⟨h.1.push, h.2⟩
  pop h := ⟨h.1.pop, h.2⟩
  assign hassign h := by
    refine ⟨h.1.assign hassign, ?_⟩
    obtain ⟨-, rfl⟩ := assign_eq_ok_iff.mp hassign
    exact (put_balanced _ _ _).globals.trans h.2
  declare hdeclare h := by
    refine ⟨h.1.declare hdeclare, ?_⟩
    obtain ⟨-, rfl⟩ := declare_eq_ok_iff.mp hdeclare
    exact globals_putInner.trans h.2

end Environment

/-! ## What happens to an environment -/

/-- Something that happens to an environment. -/
inductive Operation where
  | bindGlobal (name : String) (v : Value)
  | push
  | pop
  | assign (name : String) (v : Value)
  | declare (name : String) (v : Value)
  | execute (p : Program) (helpers : Helpers) (settings : Settings)

namespace Operation

/-- The environment after an operation. One that is refused leaves the environment as it was. -/
def apply (e : Environment) : Operation → Environment
  | .bindGlobal name v => e.bindGlobal name v
  | .push => e.push
  | .pop => (e.pop?.map (·.2)).getD e
  | .assign name v => (e.assign name v).toOption.getD e
  | .declare name v => (e.declare name v).toOption.getD e
  | .execute p helpers settings => (p.execute helpers settings e).2

/-- The value that an operation gives a reserved name. -/
def given? (name : String) : Operation → Option Value
  | .bindGlobal other v => if other = name then some v else none
  | _ => none

end Operation

/-- The environment after operations in order, from the one that binds nothing on. -/
def Environment.after (ops : List Operation) : Environment := ops.foldl Operation.apply .empty

/-- The value that operations give a reserved name last. -/
def lastGiven? (name : String) (ops : List Operation) : Option Value :=
  (ops.filterMap (Operation.given? name)).getLast?

section Histories

variable {e : Environment} {name : String}

theorem Operation.apply_pop (e : Environment) : Operation.apply e .pop = e.pop := by
  obtain ⟨globals, inner, base⟩ := e
  cases inner <;> rfl

/-- An operation leaves reserved names unshadowed and gives at most one of them a value. -/
theorem Operation.apply_unshadowed (h : e.Unshadowed) (op : Operation) :
    (op.apply e).Unshadowed ∧
      ∀ name, (op.apply e).globals.get? name = (op.given? name).or (e.globals.get? name) := by
  have hclosed := unshadowed_closed e.globals
  have hsame : ∀ {e' : Environment}, e'.globals = e.globals →
      ∀ name, e'.globals.get? name = (none : Option Value).or (e.globals.get? name) :=
    fun heq name => by rw [heq, Option.none_or]
  cases op with
  | bindGlobal name v =>
    refine ⟨h.bindGlobal name v, fun other => ?_⟩
    show (e.globals.insert name v).get? other = _
    rw [Dictionary.get?_insert, given?]
    split <;> rfl
  | push => exact ⟨h.push, hsame rfl⟩
  | pop => exact apply_pop e ▸ ⟨h.pop, hsame rfl⟩
  | assign name v =>
    rw [apply]
    cases hassign : e.assign name v with
    | error error => exact ⟨h, hsame rfl⟩
    | ok e' =>
      have hkept := hclosed.assign hassign ⟨h, rfl⟩
      exact ⟨hkept.1, hsame hkept.2⟩
  | declare name v =>
    rw [apply]
    cases hdeclare : e.declare name v with
    | error error => exact ⟨h, hsame rfl⟩
    | ok e' =>
      have hkept := hclosed.declare hdeclare ⟨h, rfl⟩
      exact ⟨hkept.1, hsame hkept.2⟩
  | execute p helpers settings =>
    have hkept := execute_closed hclosed p helpers settings ⟨h, rfl⟩
    exact ⟨hkept.1, hsame hkept.2⟩

theorem after_append (ops : List Operation) (op : Operation) :
    Environment.after (ops ++ [op]) = op.apply (Environment.after ops) := by
  rw [Environment.after, List.foldl_append]
  rfl

theorem lastGiven?_append (ops : List Operation) (op : Operation) :
    lastGiven? name (ops ++ [op]) = (op.given? name).or (lastGiven? name ops) := by
  rw [lastGiven?, List.filterMap_append, List.getLast?_append]
  cases hgiven : op.given? name <;> simp [hgiven, lastGiven?]

/-- Whatever happens to an environment, no scope binds a reserved name, and the reserved names have
the values that they were given last. -/
theorem after_unshadowed (ops : List Operation) :
    (Environment.after ops).Unshadowed ∧
      ∀ name, (Environment.after ops).globals.get? name = lastGiven? name ops := by
  induction ops using List.reverseRecOn with
  | nil => exact ⟨fun _ _ => Bool.false_ne_true, fun _ => rfl⟩
  | append_singleton ops op ih =>
    obtain ⟨hunshadowed, hglobals⟩ := op.apply_unshadowed ih.1
    rw [after_append]
    exact ⟨hunshadowed, fun name => by rw [hglobals, ih.2, lastGiven?_append]⟩

/-- A statement that writes to a reserved name fails and leaves the environment as it was: if its
value can be had, for the name. -/
theorem run_assign_of_reserved (hreserved : isReserved name = true) (site : Site) (value : Expr)
    (declare : Bool) (span : Span) (effects : Effects) :
    ∃ failure effects', (Statement.assign name value declare span).run site ⟨e, effects⟩ =
        (.error failure, ⟨e, effects'⟩) ∧
      ∀ v m, Run.evaluate site span value ⟨e, effects⟩ = (.ok v, m) →
        failure = ⟨.readOnly name, span, site.file⟩ := by
  rw [Statement.run, bind_apply]
  cases hvalue : Run.evaluate site span value ⟨e, effects⟩ with
  | mk result m =>
    have henv : m.env = e := Run.evaluate_env hvalue
    obtain ⟨env, effects'⟩ := m
    obtain rfl : env = e := henv
    cases result with
    | error failure => exact ⟨failure, effects', rfl, nofun⟩
    | ok v =>
      refine ⟨_, effects', ?_, fun _ _ _ => rfl⟩
      cases declare with
      | true => simp [Run.bind, declare_of_reserved hreserved]
      | false => simp [Run.bind, assign_of_reserved hreserved]

/-- **Reserved names are neither shadowed nor changed by code.** Whatever has happened to an
environment, runs of programs that failed included: no scope binds a reserved name, so that its
value is the one that it was given last; writing to it is refused and leaves everything as it was,
and so does a statement that does so. -/
theorem reserved_names_kept (ops : List Operation) {name : String} (hname : name ∈ hostNames) :
    let e := Environment.after ops
    (∀ scope ∈ e.scopes, scope.contains name = false) ∧ e.get? name = lastGiven? name ops ∧
    (∀ v, e.assign name v = .error (.readOnly name) ∧
      e.declare name v = .error (.readOnly name) ∧
      Environment.after (ops ++ [.assign name v]) = e ∧
      Environment.after (ops ++ [.declare name v]) = e) ∧
    ∀ (site : Site) (value : Expr) (declare : Bool) (span : Span) (effects : Effects),
      ∃ failure effects', (Statement.assign name value declare span).run site ⟨e, effects⟩ =
          (.error failure, ⟨e, effects'⟩) ∧
        ∀ v m, Run.evaluate site span value ⟨e, effects⟩ = (.ok v, m) →
          failure = ⟨.readOnly name, span, site.file⟩ := by
  intro e
  have hreserved : isReserved name = true := List.contains_iff_mem.mpr hname
  obtain ⟨hunshadowed, hglobals⟩ := after_unshadowed ops
  have hunbound : ¬ e.Binds name := hunshadowed name hreserved
  refine ⟨fun scope hscope => ?_, (get?_of_not_binds hunbound).trans (hglobals name), fun v =>
    ⟨assign_of_reserved hreserved, declare_of_reserved hreserved, ?_, ?_⟩,
    run_assign_of_reserved hreserved⟩
  · exact Bool.eq_false_iff.mpr fun hbound =>
      hunbound (List.any_eq_true.mpr ⟨scope, hscope, hbound⟩)
  · rw [after_append, Operation.apply, assign_of_reserved hreserved]
    rfl
  · rw [after_append, Operation.apply, declare_of_reserved hreserved]
    rfl

/-- A program declares a reserved name, in vain. -/
theorem reserved_names_kept_self :
    let declaration : Statement := .assign "self" (.text "b") true ⟨3, 17⟩
    let ops : List Operation := [.bindGlobal "self" (.text "a"), .push,
      .execute ⟨[.execute [declaration] ⟨0, 20⟩], 0⟩ .empty { today := Calendar.Date.epoch }]
    "self" ∈ hostNames ∧ (Environment.after ops).get? "self" = some (.text "a") ∧
      (declaration.run ⟨.empty, { today := Calendar.Date.epoch }, 0⟩
        ⟨Environment.after ops, {}⟩).1 = .error ⟨.readOnly "self", ⟨3, 17⟩, 0⟩ := by
  intro declaration ops
  have hname : "self" ∈ hostNames := by decide
  obtain ⟨-, hvalue, -, hrun⟩ := reserved_names_kept ops hname
  obtain ⟨failure, effects', hfails, hfailure⟩ :=
    hrun ⟨.empty, { today := Calendar.Date.epoch }, 0⟩ (.text "b") true ⟨3, 17⟩ {}
  exact ⟨hname, hvalue, by rw [hfails, hfailure (.text "b") _ rfl]⟩

end Histories

end Stencil
