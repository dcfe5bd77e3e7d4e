import Mathlib.Logic.Function.Iterate
import Stencil.Invocation

/-!
# The stages of an invocation

An invocation as the steps that other invocations can come between: the lock is taken, the nodes are
found out, they are inserted, and the lock is given back.

* `Call` is one call, `Stage` how far it has come, `Call.step` its next step.
* `iterate_step`: four steps in a row are `Invocation.invoke`.
* `Call.Move` is all that a step can do; `Move.guard` and `Move.insertion` say what that means for
  the locks and for the store.
-/

namespace Stencil

/-- One call of `Invocation.invoke`. -/
structure Call where
  renderer : Renderer
  settings : Settings
  template : TemplateReference
  destination : String
  args : List String

/-- How far a call has come. -/
inductive Stage where
  | waiting
  /-- The destination is locked. -/
  | locked
  /-- The nodes to insert are known. -/
  | ready (nodes : List Node)
  /-- How the call ends is settled, and the lock is to be given back. -/
  | leaving (result : Except InvocationError Outcome)
  | done (result : Except InvocationError Outcome)

namespace Stage

/-- Whether the call holds the lock of its destination. -/
def HoldsGuard : Stage → Prop
  | .locked | .ready _ | .leaving _ => True
  | .waiting | .done _ => False

/-- How many steps a call can still need. -/
def stepsLeft : Stage → Nat
  | .waiting => 4
  | .locked => 3
  | .ready _ => 2
  | .leaving _ => 1
  | .done _ => 0

/-- The nodes that a call with this result has inserted, once for each time. -/
def deliveredBy : Except InvocationError Outcome → List (List Node)
  | .ok (.rendered nodes) => [nodes]
  | _ => []

/-- The nodes that the call has inserted so far, once for each time. -/
def delivered : Stage → List (List Node)
  | .leaving result | .done result => deliveredBy result
  | _ => []

theorem exists_done_of_stepsLeft_eq_zero {stage : Stage} (h : stage.stepsLeft = 0) :
    ∃ result, stage = .done result := by
  cases stage with
  | done result => exact ⟨result, rfl⟩
  | _ => simp [stepsLeft] at h

theorem stepsLeft_le (stage : Stage) : stage.stepsLeft ≤ 4 := by
  cases stage <;> simp [stepsLeft]

end Stage

namespace Call

variable {σ : Type}

/-- The invocation that a call is made on. -/
def invocation (q : Call) (store : Store σ) : Invocation σ := ⟨store, q.renderer, q.settings⟩

/-- The next step of a call; a call that is done stays as it is. -/
def step (q : Call) (store : Store σ) (stage : Stage) (shared : Shared σ) :
    Stage × Shared σ :=
  match stage with
  | .waiting =>
    match shared.locks.acquire? q.destination with
    | none => (.done (.ok .skipped), shared)
    | some locks => (.locked, { shared with locks })
  | .locked =>
    match (q.invocation store).nodesFor shared.store q.template q.destination q.args with
    | .error error => (.leaving (.error error), shared)
    | .ok none => (.leaving (.ok .empty), shared)
    | .ok (some nodes) => (.ready nodes, shared)
  | .ready nodes =>
    match store.insert shared.store q.destination nodes with
    | .error message => (.leaving (.error (.store message)), shared)
    | .ok s => (.leaving (.ok (.rendered nodes)), { shared with store := s })
  | .leaving result => (.done result, { shared with locks := shared.locks.release q.destination })
  | .done result => (.done result, shared)

/-- A call whose steps nothing comes between is an invocation. -/
theorem iterate_step (q : Call) (store : Store σ) (shared : Shared σ) :
    (fun s => q.step store s.1 s.2)^[4] (.waiting, shared) =
      (.done ((q.invocation store).invoke q.template q.destination q.args shared).1,
        ((q.invocation store).invoke q.template q.destination q.args shared).2) := by
  simp only [Function.iterate_succ, Function.iterate_zero, Function.comp_apply, id_eq,
    Invocation.invoke, step]
  cases shared.locks.acquire? q.destination with
  | none => rfl
  | some locks =>
    simp only [Invocation.renderInto, bind, Except.bind]
    cases (q.invocation store).nodesFor shared.store q.template q.destination q.args with
    | error e => rfl
    | ok found =>
      cases found with
      | none => rfl
      | some nodes =>
        simp only [invocation, Invocation.called]
        cases store.insert shared.store q.destination nodes <;> rfl

/-- All that a step of a call can do. -/
inductive Move (q : Call) (store : Store σ) : Stage → Shared σ → Stage → Shared σ → Prop where
  | refuse {shared : Shared σ} (h : shared.locks.isLocked q.destination = true) :
    Move q store .waiting shared (.done (.ok .skipped)) shared
  | acquire {shared : Shared σ} (h : shared.locks.isLocked q.destination = false) :
    Move q store .waiting shared .locked
      { shared with locks := ⟨q.destination :: shared.locks.held⟩ }
  | decide {shared : Shared σ} (nodes : List Node) :
    Move q store .locked shared (.ready nodes) shared
  /-- A look-up or the render failed, or the template was empty. -/
  | giveUp {shared : Shared σ} {result : Except InvocationError Outcome}
    (h : Stage.deliveredBy result = []) : Move q store .locked shared (.leaving result) shared
  /-- The store refused the nodes. -/
  | reject {shared : Shared σ} (nodes : List Node) (message : String) :
    Move q store (.ready nodes) shared (.leaving (.error (.store message))) shared
  | insert {shared : Shared σ} {nodes : List Node} {s : σ}
    (h : store.insert shared.store q.destination nodes = .ok s) :
    Move q store (.ready nodes) shared (.leaving (.ok (.rendered nodes))) { shared with store := s }
  | release {shared : Shared σ} (result : Except InvocationError Outcome) :
    Move q store (.leaving result) shared (.done result)
      { shared with locks := shared.locks.release q.destination }
  | rest {shared : Shared σ} (result : Except InvocationError Outcome) :
    Move q store (.done result) shared (.done result) shared

theorem move_step (q : Call) (store : Store σ) (stage : Stage) (shared : Shared σ) :
    Move q store stage shared (q.step store stage shared).1 (q.step store stage shared).2 := by
  cases stage with
  | waiting =>
    simp only [step, Locks.acquire?]
    cases h : shared.locks.isLocked q.destination with
    | true => exact .refuse h
    | false => exact .acquire h
  | locked =>
    simp only [step]
    split
    · exact .giveUp rfl
    · exact .giveUp rfl
    · exact .decide _
  | ready nodes =>
    simp only [step]
    split
    · exact .reject nodes _
    · next h => exact .insert h
  | leaving result => exact .release result
  | done result => exact .rest result

variable {q : Call} {store : Store σ} {stage stage' : Stage} {shared shared' : Shared σ}

/-- A step leaves the locks alone, or takes the free lock of its destination, or gives it back. -/
theorem Move.guard (h : Move q store stage shared stage' shared') :
    ((stage'.HoldsGuard ↔ stage.HoldsGuard) ∧ shared'.locks = shared.locks) ∨
    (¬ stage.HoldsGuard ∧ stage'.HoldsGuard ∧ shared.locks.isLocked q.destination = false ∧
      shared'.locks = ⟨q.destination :: shared.locks.held⟩) ∨
    (stage.HoldsGuard ∧ ¬ stage'.HoldsGuard ∧
      shared'.locks = shared.locks.release q.destination) := by
  cases h with
  | refuse => exact .inl ⟨Iff.rfl, rfl⟩
  | acquire hfree => exact .inr (.inl ⟨id, trivial, hfree, rfl⟩)
  | decide => exact .inl ⟨Iff.rfl, rfl⟩
  | giveUp => exact .inl ⟨Iff.rfl, rfl⟩
  | reject => exact .inl ⟨Iff.rfl, rfl⟩
  | insert => exact .inl ⟨Iff.rfl, rfl⟩
  | release => exact .inr (.inr ⟨trivial, id, rfl⟩)
  | rest => exact .inl ⟨Iff.rfl, rfl⟩

/-- A step leaves the store alone and delivers nothing, or it inserts nodes into its destination
while the call holds the lock, and they are what the call has delivered from then on. -/
theorem Move.insertion (h : Move q store stage shared stage' shared') :
    (stage'.delivered = stage.delivered ∧ shared'.store = shared.store) ∨
    ∃ nodes, stage = .ready nodes ∧ stage'.delivered = [nodes] ∧
      store.insert shared.store q.destination nodes = .ok shared'.store := by
  cases h with
  | refuse => exact .inl ⟨rfl, rfl⟩
  | acquire => exact .inl ⟨rfl, rfl⟩
  | decide => exact .inl ⟨rfl, rfl⟩
  | giveUp hresult => exact .inl ⟨hresult, rfl⟩
  | reject => exact .inl ⟨rfl, rfl⟩
  | insert hinsert => exact .inr ⟨_, rfl, rfl, hinsert⟩
  | release => exact .inl ⟨rfl, rfl⟩
  | rest => exact .inl ⟨rfl, rfl⟩

/-- A call comes nearer to its end with every step. -/
theorem Move.stepsLeft_le (h : Move q store stage shared stage' shared') :
    stage'.stepsLeft ≤ stage.stepsLeft - 1 := by
  cases h <;> simp [Stage.stepsLeft]

end Call

end Stencil
