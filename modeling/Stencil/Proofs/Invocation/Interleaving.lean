import Mathlib.Logic.Function.Basic
import Stencil.Proofs.Invocation.Stage
import Stencil.Store.Graph

/-!
# Interleaved invocations

Any number of calls share the locks and a store, and their steps come in any order. A schedule names
the call of each step; it may leave calls unfinished and name calls that are done.

* `Interplay` is the state of all calls, `Interplay.run` runs a schedule. `Interplay.history`
  remembers the insertions in the order in which they were made.
* `Consistent` is the invariant: the locks are those of the calls that hold one, every call has made
  exactly the insertions that its stage tells, and the store holds what was inserted, in order.
* `consistent_run`: it holds after every schedule, for every store that appends what is inserted.
* `interleaved_invocations`: the same for graphs, with what it means when a call inserts and when
  all calls are done.
-/

namespace Stencil

/-- An insertion that was made: the call and the nodes. -/
structure Insertion (ι : Type) where
  call : ι
  nodes : List Node

/-- The state of calls that share locks and a store. -/
structure Interplay (ι σ : Type) where
  shared : Shared σ
  stages : ι → Stage
  /-- The insertions made so far, in order. -/
  history : List (Insertion ι)

/-- The store adds nodes to those that `view` shows at their destination, and nowhere else. -/
def Store.Appends {σ : Type} (store : Store σ) (view : σ → String → List Node) : Prop :=
  ∀ {s s' : σ} {destination : String} {nodes : List Node},
    store.insert s destination nodes = .ok s' → ∀ d,
      view s' d = view s d ++ if destination = d then nodes else []

namespace Interplay

variable {ι σ : Type} [DecidableEq ι] (calls : ι → Call) (store : Store σ)

/-- No call has begun. -/
def start (s : σ) : Interplay ι σ := ⟨⟨s, .empty⟩, fun _ => .waiting, []⟩

/-- One step of a call. What the call has delivered by it enters the history. -/
def step (s : Interplay ι σ) (i : ι) : Interplay ι σ :=
  let next := (calls i).step store (s.stages i) s.shared
  { shared := next.2
    stages := Function.update s.stages i next.1
    history := s.history ++
      (next.1.delivered.drop (s.stages i).delivered.length).map fun nodes => ⟨i, nodes⟩ }

/-- The steps of a schedule. -/
def run (schedule : List ι) (s : Interplay ι σ) : Interplay ι σ :=
  schedule.foldl (step calls store) s

theorem run_append (first rest : List ι) (s : Interplay ι σ) :
    run calls store (first ++ rest) s = run calls store rest (run calls store first s) :=
  List.foldl_append

/-- The insertions into a destination, in order. -/
def insertionsAt (s : Interplay ι σ) (d : String) : List (Insertion ι) :=
  s.history.filter fun e => (calls e.call).destination = d

/-- The insertions of a call, in order. -/
def insertionsOf (s : Interplay ι σ) (i : ι) : List (Insertion ι) :=
  s.history.filter fun e => e.call = i

end Interplay

/-- What holds at every moment of an interplay that started with the store `first`. -/
structure Consistent {ι σ : Type} [DecidableEq ι] (calls : ι → Call)
    (view : σ → String → List Node) (first : σ) (s : Interplay ι σ) : Prop where
  /-- The locked destinations are those of the calls that hold a guard. -/
  isLocked_iff : ∀ key, s.shared.locks.isLocked key = true ↔
    ∃ i, (s.stages i).HoldsGuard ∧ (calls i).destination = key
  /-- Two calls do not hold guards of one destination. -/
  exclusive : ∀ i j, (s.stages i).HoldsGuard → (s.stages j).HoldsGuard →
    (calls i).destination = (calls j).destination → i = j
  /-- A call has inserted what its stage tells, each time once. -/
  insertionsOf_eq : ∀ i, s.insertionsOf i = (s.stages i).delivered.map fun nodes => ⟨i, nodes⟩
  /-- The store holds what was inserted, in order. -/
  view_eq : ∀ d, view s.shared.store d =
    view first d ++ (s.insertionsAt calls d).flatMap Insertion.nodes

section Invariant

variable {ι σ : Type} [DecidableEq ι] {calls : ι → Call} {store : Store σ}
  {view : σ → String → List Node} {first : σ} {s : Interplay ι σ}

open Interplay

theorem Locks.isLocked_iff {l : Locks} {key : String} : l.isLocked key = true ↔ key ∈ l.held := by
  unfold Locks.isLocked
  exact List.contains_iff_mem

theorem Locks.mem_release {l : Locks} {key other : String} :
    other ∈ (l.release key).held ↔ other ∈ l.held ∧ other ≠ key := by
  simp only [Locks.release, List.mem_filter, decide_eq_true_eq]

theorem consistent_start (first : σ) : Consistent calls view first (start first) where
  isLocked_iff _ := ⟨fun h => absurd h Bool.false_ne_true, fun ⟨_, h, _⟩ => h.elim⟩
  exclusive _ _ h := h.elim
  insertionsOf_eq _ := rfl
  view_eq _ := (List.append_nil _).symm

/-- The call that steps makes its move, all others stay where they are. -/
theorem stages_step_of_ne {i j : ι} (h : j ≠ i) : (step calls store s i).stages j = s.stages j :=
  Function.update_of_ne h _ _

theorem move_step_self (calls : ι → Call) (store : Store σ) (s : Interplay ι σ) (i : ι) :
    (calls i).Move store (s.stages i) s.shared
      ((step calls store s i).stages i) (step calls store s i).shared := by
  have hself : (step calls store s i).stages i =
      ((calls i).step store (s.stages i) s.shared).1 := Function.update_self _ _ _
  rw [hself]
  exact (calls i).move_step store (s.stages i) s.shared

/-- A step that delivers nothing changes neither the store nor the history; one that delivers nodes
inserts them and remembers that. -/
theorem step_delivery (calls : ι → Call) (store : Store σ) (s : Interplay ι σ) (i : ι) :
    let s' := step calls store s i
    (s'.history = s.history ∧ s'.shared.store = s.shared.store ∧
      (s'.stages i).delivered = (s.stages i).delivered) ∨
    ∃ nodes, s.stages i = .ready nodes ∧ (s'.stages i).delivered = [nodes] ∧
      s'.history = s.history ++ [⟨i, nodes⟩] ∧
      store.insert s.shared.store (calls i).destination nodes = .ok s'.shared.store := by
  intro s'
  have hhistory : s'.history = s.history ++ ((s'.stages i).delivered.drop
      (s.stages i).delivered.length).map fun nodes => ⟨i, nodes⟩ := by
    simp only [s', step, Function.update_self]
  rcases (move_step_self calls store s i).insertion with
    ⟨hdelivered, hstore⟩ | ⟨nodes, hready, hdelivered, hins⟩
  · refine .inl ⟨?_, hstore, hdelivered⟩
    rw [hhistory, hdelivered, List.drop_length, List.map_nil, List.append_nil]
  · refine .inr ⟨nodes, hready, hdelivered, ?_, hins⟩
    rw [hhistory, hdelivered, hready]
    rfl

/-! ## Locks -/

/-- After a step the locks are still those of the calls that hold a guard. -/
theorem isLocked_step (h : Consistent calls view first s) (i : ι) (key : String) :
    (step calls store s i).shared.locks.isLocked key = true ↔
      ∃ j, ((step calls store s i).stages j).HoldsGuard ∧ (calls j).destination = key := by
  have hother : ∀ j, j ≠ i → (((step calls store s i).stages j).HoldsGuard ↔
      (s.stages j).HoldsGuard) := fun j hj => by rw [stages_step_of_ne hj]
  rcases (move_step_self calls store s i).guard with
    ⟨hsame, hlocks⟩ | ⟨hfree, hnow, -, hlocks⟩ | ⟨hheld, hnow, hlocks⟩
  · rw [hlocks, h.isLocked_iff key]
    refine exists_congr fun j => and_congr_left fun _ => ?_
    by_cases hj : j = i
    · rw [hj, hsame]
    · rw [hother j hj]
  · rw [hlocks, Locks.isLocked_iff, List.mem_cons, ← Locks.isLocked_iff, h.isLocked_iff key]
    constructor
    · rintro (rfl | ⟨j, hj, hkey⟩)
      · exact ⟨i, hnow, rfl⟩
      · have hne : j ≠ i := fun e => hfree (e ▸ hj)
        exact ⟨j, (hother j hne).mpr hj, hkey⟩
    · rintro ⟨j, hj, hkey⟩
      by_cases hne : j = i
      · exact .inl (hne ▸ hkey.symm)
      · exact .inr ⟨j, (hother j hne).mp hj, hkey⟩
  · rw [hlocks, Locks.isLocked_iff, Locks.mem_release, ← Locks.isLocked_iff, h.isLocked_iff key]
    constructor
    · rintro ⟨⟨j, hj, hkey⟩, hdest⟩
      have hne : j ≠ i := fun e => hdest (by rw [← hkey, e])
      exact ⟨j, (hother j hne).mpr hj, hkey⟩
    · rintro ⟨j, hj, hkey⟩
      have hne : j ≠ i := fun e => hnow (e ▸ hj)
      have hj' := (hother j hne).mp hj
      exact ⟨⟨j, hj', hkey⟩, fun e => hne (h.exclusive j i hj' hheld (hkey.trans e))⟩

/-- After a step two calls still do not hold guards of one destination: a call gets a guard only
while nobody else has it. -/
theorem exclusive_step (h : Consistent calls view first s) (i : ι) (a b : ι)
    (ha : ((step calls store s i).stages a).HoldsGuard)
    (hb : ((step calls store s i).stages b).HoldsGuard)
    (hdest : (calls a).destination = (calls b).destination) : a = b := by
  have happart : ∀ c, c ≠ i → ((step calls store s i).stages c).HoldsGuard →
      ((step calls store s i).stages i).HoldsGuard →
      (calls c).destination ≠ (calls i).destination := by
    intro c hc hguard hi heq
    rw [stages_step_of_ne hc] at hguard
    rcases (move_step_self calls store s i).guard with
      ⟨hsame, -⟩ | ⟨-, -, hfree, -⟩ | ⟨-, hnow, -⟩
    · exact hc (h.exclusive c i hguard (hsame.mp hi) heq)
    · have hlocked := (h.isLocked_iff (calls i).destination).mpr ⟨c, hguard, heq⟩
      rw [hfree] at hlocked
      exact absurd hlocked Bool.false_ne_true
    · exact hnow hi
  by_cases hai : a = i
  · by_cases hbi : b = i
    · rw [hai, hbi]
    · exact absurd (hai ▸ hdest.symm) (happart b hbi hb (hai ▸ ha))
  · by_cases hbi : b = i
    · exact absurd (hbi ▸ hdest) (happart a hai ha (hbi ▸ hb))
    · rw [stages_step_of_ne hai] at ha
      rw [stages_step_of_ne hbi] at hb
      exact h.exclusive a b ha hb hdest

/-! ## Insertions -/

/-- A step of a call adds to the insertions of that call what it delivers, and to no others. -/
theorem insertionsOf_step (h : Consistent calls view first s) (i j : ι) :
    (step calls store s i).insertionsOf j =
      ((step calls store s i).stages j).delivered.map fun nodes => ⟨j, nodes⟩ := by
  have ih := h.insertionsOf_eq j
  unfold insertionsOf at ih ⊢
  by_cases hj : j = i
  · subst hj
    rcases step_delivery calls store s j with
      ⟨hhistory, -, hdelivered⟩ | ⟨nodes, hready, hdelivered, hhistory, -⟩
    · rw [hhistory, hdelivered, ih]
    · rw [hhistory, hdelivered, List.filter_append, ih, hready]
      simp [Stage.delivered]
  · rw [stages_step_of_ne hj, ← ih]
    rcases step_delivery calls store s i with
      ⟨hhistory, -, -⟩ | ⟨nodes, -, -, hhistory, -⟩
    · rw [hhistory]
    · rw [hhistory, List.filter_append]
      simp [Ne.symm hj]

/-- After a step the store still holds what was inserted, in order. -/
theorem view_step (hstore : store.Appends view) (h : Consistent calls view first s) (i : ι)
    (d : String) : view (step calls store s i).shared.store d =
      view first d ++ ((step calls store s i).insertionsAt calls d).flatMap Insertion.nodes := by
  have ih := h.view_eq d
  unfold insertionsAt at ih ⊢
  rcases step_delivery calls store s i with
    ⟨hhistory, hsame, -⟩ | ⟨nodes, -, -, hhistory, hinsert⟩
  · rw [hhistory, hsame, ih]
  · rw [hhistory, hstore hinsert d, ih, List.filter_append, List.flatMap_append, List.append_assoc]
    by_cases hd : (calls i).destination = d <;> simp [hd]

/-- **One step of any call keeps the invariant.** -/
theorem consistent_step (hstore : store.Appends view) (h : Consistent calls view first s) (i : ι) :
    Consistent calls view first (step calls store s i) where
  isLocked_iff := isLocked_step h i
  exclusive := exclusive_step h i
  insertionsOf_eq := insertionsOf_step h i
  view_eq := view_step hstore h i

/-- The invariant holds after every schedule. -/
theorem consistent_run (hstore : store.Appends view) :
    ∀ (schedule : List ι) (s : Interplay ι σ), Consistent calls view first s →
      Consistent calls view first (run calls store schedule s)
  | [], _, h => h
  | i :: schedule, _, h => consistent_run hstore schedule _ (consistent_step hstore h i)

/-- When no call holds a guard, nothing is locked. -/
theorem held_eq_nil (h : Consistent calls view first s) (hfree : ∀ i, ¬ (s.stages i).HoldsGuard) :
    s.shared.locks.held = [] := by
  refine List.eq_nil_iff_forall_not_mem.mpr fun key hkey => ?_
  obtain ⟨i, hi, -⟩ := (h.isLocked_iff key).mp (Locks.isLocked_iff.mpr hkey)
  exact hfree i hi

/-! ## Endings -/

/-- A call that is given `n` more steps is `n` steps nearer to its end. -/
theorem stepsLeft_run_replicate (calls : ι → Call) (store : Store σ) (i : ι) :
    ∀ (n : Nat) (s : Interplay ι σ),
    ((run calls store (List.replicate n i) s).stages i).stepsLeft ≤ (s.stages i).stepsLeft - n
  | 0, _ => Nat.le_refl _
  | n + 1, s => by
    have hstep := (move_step_self calls store s i).stepsLeft_le
    have hrest := stepsLeft_run_replicate calls store i n (step calls store s i)
    show ((run calls store (List.replicate n i) (step calls store s i)).stages i).stepsLeft ≤ _
    omega

/-- Whatever happened before, four more steps bring a call to its end. -/
theorem exists_done_run (calls : ι → Call) (store : Store σ) (schedule : List ι)
    (s : Interplay ι σ) (i : ι) :
    ∃ result, (run calls store (schedule ++ List.replicate 4 i) s).stages i = .done result := by
  apply Stage.exists_done_of_stepsLeft_eq_zero
  have h := stepsLeft_run_replicate calls store i 4 (run calls store schedule s)
  have hle := Stage.stepsLeft_le ((run calls store schedule s).stages i)
  rw [run_append]
  omega

end Invariant

/-- A graph adds what is inserted to the nodes at the destination. -/
theorem WorkingGraph.appends_calls : WorkingGraph.calls.Appends WorkingGraph.insertedAt := by
  rintro s s' destination nodes h d
  obtain rfl := Except.ok.inj h
  simp only [WorkingGraph.insertedAt, WorkingGraph.add, Dictionary.get?_insert]
  by_cases hd : destination = d <;> simp [hd]

/-- **Interleaved invocations insert once each, under their locks, and leave no lock behind.** Any
calls that share the locks and a graph take their steps in any order.

* At every moment the locks are those of the calls that hold a guard, no destination has two guards,
  and a destination shows the nodes inserted into it, in the order of the insertions (`Consistent`).
* A call that has rendered nodes has made one insertion, of these nodes; one that ended otherwise
  has made none.
* The next step of any call leaves graph and history alone, or the call holds the lock of its
  destination and inserts nodes there.
* When all calls are done nothing is locked, and four more steps bring any call to its end.
* A call whose steps nothing comes between is `Invocation.invoke`. -/
theorem interleaved_invocations {ι : Type} [DecidableEq ι] (calls : ι → Call) (g : WorkingGraph)
    (schedule : List ι) :
    let store := WorkingGraph.calls
    let s := Interplay.run calls store schedule (Interplay.start g)
    Consistent calls WorkingGraph.insertedAt g s ∧
    (∀ i result, s.stages i = .done result → s.insertionsOf i =
      match result with
      | .ok (.rendered nodes) => [⟨i, nodes⟩]
      | _ => []) ∧
    (∀ i, let s' := s.step calls store i
      (s'.history = s.history ∧ s'.shared.store = s.shared.store) ∨
      ((s.stages i).HoldsGuard ∧ s.shared.locks.isLocked (calls i).destination = true ∧
        ∃ nodes, s'.history = s.history ++ [⟨i, nodes⟩] ∧
          store.insert s.shared.store (calls i).destination nodes = .ok s'.shared.store)) ∧
    ((∀ i, ∃ result, s.stages i = .done result) → s.shared.locks.held = []) ∧
    (∀ i, ∃ result, (s.run calls store (List.replicate 4 i)).stages i = .done result) ∧
    ∀ i shared, (fun s => (calls i).step store s.1 s.2)^[4] (.waiting, shared) =
      let ended := ((calls i).invocation store).invoke (calls i).template (calls i).destination
        (calls i).args shared
      (.done ended.1, ended.2) := by
  intro store s
  have h : Consistent calls WorkingGraph.insertedAt g s :=
    consistent_run WorkingGraph.appends_calls schedule _ (consistent_start g)
  refine ⟨h, fun i result hdone => ?_, fun i => ?_, fun hdone => ?_, fun i => ?_,
    fun i shared => ?_⟩
  · rw [h.insertionsOf_eq i, hdone]
    rcases result with _ | _ | _ | _ <;> rfl
  · rcases step_delivery calls store s i with
      ⟨hhistory, hsame, -⟩ | ⟨nodes, hready, -, hhistory, hinsert⟩
    · exact .inl ⟨hhistory, hsame⟩
    · have hguard : (s.stages i).HoldsGuard := by rw [hready]; trivial
      exact .inr ⟨hguard, (h.isLocked_iff _).mpr ⟨i, hguard, rfl⟩, nodes, hhistory, hinsert⟩
  · refine held_eq_nil h fun i hguard => ?_
    obtain ⟨result, hresult⟩ := hdone i
    rw [hresult] at hguard
    exact hguard
  · have hdone := exists_done_run calls store schedule (Interplay.start g) i
    rwa [Interplay.run_append] at hdone
  · exact (calls i).iterate_step store shared

/-- Two calls of one destination: the second comes while the first holds the lock and is skipped. -/
theorem interleaved_invocations_same_destination :
    ∃ (calls : Bool → Call) (g : WorkingGraph) (nodes : List Node),
      let s := Interplay.run calls WorkingGraph.calls [true, false, true, true, true]
        (Interplay.start g)
      nodes.map Node.content = ["hi"] ∧
      s.stages true = .done (.ok (.rendered nodes)) ∧ s.insertionsOf true = [⟨true, nodes⟩] ∧
      s.stages false = .done (.ok .skipped) ∧ s.insertionsOf false = [] ∧
      s.shared.locks.held = [] := by
  let page : Page := { id := 0, uuid := "p", name := "p", title := "p" }
  let item : Block := { id := 3, uuid := "c", content := "hi", page }
  let blocks : List Block := [{ id := 1, uuid := "d", content := "", page },
    { id := 2, uuid := "t", content := "", page, children := .expanded [item] }]
  let call : Call := {
    renderer := ⟨.empty, .empty⟩
    settings := { today := ⟨2024, 1, 1, by decide⟩ }
    template := .block "t"
    destination := "d"
    args := [] }
  let s := Interplay.run (fun _ : Bool => call) WorkingGraph.calls [true, false, true, true, true]
    (Interplay.start { graph := [⟨page, blocks⟩] })
  have hended : (s.stages true).stepsLeft = 0 := by decide +kernel
  have hcontent : (s.stages true).delivered.map (List.map Node.content) = [["hi"]] := by
    decide +kernel
  have hskipped : s.stages false = .done (.ok .skipped) := rfl
  obtain ⟨-, hinserted, -, hfree, -, -⟩ := interleaved_invocations (fun _ : Bool => call)
    { graph := [⟨page, blocks⟩] } [true, false, true, true, true]
  obtain ⟨result, hdone⟩ := Stage.exists_done_of_stepsLeft_eq_zero hended
  rw [hdone] at hcontent
  rcases result with error | nodes | _ | _
  · cases hcontent
  · refine ⟨fun _ => call, { graph := [⟨page, blocks⟩] }, nodes, (List.cons.inj hcontent).1, hdone,
      hinserted true _ hdone, hskipped, hinserted false _ hskipped, hfree fun i => ?_⟩
    cases i with
    | false => exact ⟨_, hskipped⟩
    | true => exact ⟨_, hdone⟩
  · cases hcontent
  · cases hcontent

end Stencil
