import Stencil.Proofs.Render.Settling
import Stencil.Render.Basic

/-!
# The forest of a template

Rendering records what is appended as paths into a forest that is not complete yet, and settles the
paths at the end. The result is defined here a second time, without paths: every node is put where
it belongs at once.

* `Node.preorder` lists the nodes of a template in the order in which they are run, with their
  depths; `Template.firstError?` is the error of the first of them that fails.
* `Template.structuralTree` renders a tree to its node and the nodes that follow it: spawned nodes
  come before the children, and what a child appends comes directly after that child.
* `renderForest_structural`: rendering gives the structural forest, and it fails exactly when a node
  fails, with the error of the first one.
-/

namespace Stencil

/-! ## The structural forest -/

mutual

/-- The nodes of a tree in pre-order, each with its depth. -/
def Node.preorder (level : Nat) : Node → List (Nat × Node)
  | ⟨content, children, origin, uuid, cursor⟩ =>
    (level, ⟨content, children, origin, uuid, cursor⟩) :: Node.preorderAll (level + 1) children

/-- The nodes of a forest in pre-order, each with its depth. -/
def Node.preorderAll (level : Nat) : List Node → List (Nat × Node)
  | [] => []
  | n :: ns => n.preorder level ++ Node.preorderAll level ns

end

namespace Template

variable (t : Template) (r : Renderer)

/-- The error of the first node that fails, when each is run at its depth and with its origin, in
the environment that the one before it left. -/
def firstError? (settings : Settings) : List (Nat × Node) → Environment → Option RenderError
  | [], _ => none
  | (level, n) :: rest, env =>
    match t.runContent r settings level n.content n.origin env with
    | .error e => some e
    | .ok (_, env) => firstError? settings rest env

mutual

/-- A rendered tree and the nodes that are to follow it. -/
def structuralTree (settings : Settings) (level : Nat) :
    Node → Environment → Except RenderError ((Node × List Node) × Environment)
  | ⟨content, children, origin, _, _⟩, env => do
    let (rendered, env) ← t.runContent r settings level content origin env
    let (below, env) ← structuralChildren settings (level + 1) children env
    let node : Node :=
      { content := rendered.text, children := rendered.effects.spawned ++ below, origin
        uuid := rendered.effects.uuid }
    return ((node, rendered.effects.appended), env)

/-- Rendered trees in order, each with the nodes that follow it directly after it. -/
def structuralChildren (settings : Settings) (level : Nat) :
    List Node → Environment → Except RenderError (List Node × Environment)
  | [], env => .ok ([], env)
  | n :: ns, env => do
    let ((first, appended), env) ← structuralTree settings level n env
    let (others, env) ← structuralChildren settings level ns env
    return (first :: appended ++ others, env)

end

/-- The forest of a template, every node put in place at once: the root or else its children, and
then what the root appends. -/
def structuralForest (scene : Scene) : Except RenderError (List Node) := do
  let ((root, appended), _) ←
    t.structuralTree r scene.settings 0 t.root (Environment.empty.bindScene scene)
  return if t.includingParent then root :: appended else root.children ++ appended

end Template

/-! ## Failures -/

section Walk

variable {t : Template} {r : Renderer} {settings : Settings}

mutual

/-- A tree fails with the error of its first node that fails; else its nodes are run before what
comes after them. -/
theorem firstError?_preorder (level : Nat) : ∀ (n : Node) (rest : List (Nat × Node))
    (env : Environment), t.firstError? r settings (n.preorder level ++ rest) env =
      match t.structuralTree r settings level n env with
      | .error e => some e
      | .ok (_, env) => t.firstError? r settings rest env
  | ⟨content, children, origin, uuid, cursor⟩, rest, env => by
    have ih := firstError?_preorderAll (level + 1) children rest
    rw [Node.preorder, List.cons_append, Template.firstError?, Template.structuralTree]
    cases t.runContent r settings level content origin env with
    | error e => rfl
    | ok result =>
      simp only [ih, bind, Except.bind, pure, Except.pure]
      cases t.structuralChildren r settings (level + 1) children result.2 with
      | error e => rfl
      | ok below => rfl

/-- The same for a forest. -/
theorem firstError?_preorderAll (level : Nat) : ∀ (ns : List Node) (rest : List (Nat × Node))
    (env : Environment), t.firstError? r settings (Node.preorderAll level ns ++ rest) env =
      match t.structuralChildren r settings level ns env with
      | .error e => some e
      | .ok (_, env) => t.firstError? r settings rest env
  | [], rest, env => rfl
  | n :: ns, rest, env => by
    have ih := firstError?_preorderAll level ns rest
    rw [Node.preorderAll, List.append_assoc, firstError?_preorder level n,
      Template.structuralChildren]
    cases t.structuralTree r settings level n env with
    | error e => rfl
    | ok result =>
      simp only [ih, bind, Except.bind, pure, Except.pure]
      cases t.structuralChildren r settings level ns result.2 with
      | error e => rfl
      | ok others => rfl

end

/-! ## Rendering with paths -/

theorem Walking.pure_apply {α : Type} (a : α) (walk : Traversal) :
    (pure a : Walking α) walk = .ok (a, walk) := rfl

/-- A walk goes on where the one before it ended, if it did not fail. -/
theorem Walking.bind_apply {α β : Type} (m : Walking α) (f : α → Walking β) (walk : Traversal) :
    (m >>= f) walk =
      match m walk with
      | .error e => .error e
      | .ok (a, walk) => f a walk := by
  show StateT.bind m f walk = _
  unfold StateT.bind
  cases m walk with
  | error e => rfl
  | ok result => rfl

/-- Running the content of a node leaves behind what the node asks to be appended. -/
theorem visit_eq (path : List Nat) (level : Nat) (content : String) (origin : Option String)
    (env : Environment) (pending : List Pending) :
    t.visit r settings path level content origin ⟨env, pending⟩ =
      match t.runContent r settings level content origin env with
      | .error e => .error e
      | .ok (rendered, env) =>
        .ok (rendered, ⟨env, pending ++ Pending.ofNode path rendered.effects.appended⟩) := by
  unfold Template.visit Pending.ofNode
  cases t.runContent r settings level content origin env with
  | error e => rfl
  | ok result =>
    simp only [bind, Except.bind, pure, Except.pure]
    split
    · rw [List.append_nil]
    · rfl

mutual

/-- A tree that renders with paths gives the structural tree before its children are settled, and
leaves behind what settles them. It fails as the structural tree does. -/
theorem renderTree_eq (level : Nat) : ∀ (n : Node) (env : Environment),
    match t.structuralTree r settings level n env with
    | .error e => ∀ path pending, t.renderTree r settings path level n ⟨env, pending⟩ = .error e
    | .ok ((out, appended), env') => ∃ u : Unsettled out.children, ∀ path pending,
        t.renderTree r settings path level n ⟨env, pending⟩ =
          .ok ({ out with children := u.nodes }, ⟨env', pending ++
            (Pending.ofNode path appended ++ u.pending.map (Pending.under path))⟩)
  | ⟨content, children, origin, uuid, cursor⟩, env => by
    rw [Template.structuralTree]
    cases hrun : t.runContent r settings level content origin env with
    | error e =>
      intro path pending
      simp only [Template.renderTree, Walking.bind_apply, visit_eq, hrun]
    | ok result =>
      obtain ⟨rendered, env₁⟩ := result
      have ih := renderChildren_eq (level + 1) children env₁
      simp only [bind, Except.bind]
      cases hbelow : t.structuralChildren r settings (level + 1) children env₁ with
      | error e =>
        intro path pending
        rw [hbelow] at ih
        simp only [Template.renderTree, Walking.bind_apply, visit_eq, hrun, ih]
      | ok below =>
        rw [hbelow] at ih
        obtain ⟨u, hu⟩ := ih
        refine ⟨u.behind rendered.effects.spawned, fun path pending => ?_⟩
        simp only [Template.renderTree, Walking.bind_apply, Walking.pure_apply, visit_eq, hrun, hu]
        simp only [Unsettled.behind, List.append_assoc]

/-- Siblings that render with paths from a position on. -/
theorem renderChildren_eq (level : Nat) : ∀ (ns : List Node) (env : Environment),
    match t.structuralChildren r settings level ns env with
    | .error e => ∀ path position pending,
        t.renderChildren r settings path position level ns ⟨env, pending⟩ = .error e
    | .ok (out, env') => ∃ u : Unsettled out, ∀ path position pending,
        t.renderChildren r settings path position level ns ⟨env, pending⟩ =
          .ok (u.nodes, ⟨env', pending ++
            (u.pending.map (Pending.slide position)).map (Pending.under path)⟩)
  | [], env => ⟨Unsettled.empty, fun path position pending => by
      simp [Template.renderChildren, Unsettled.empty, Walking.pure_apply]⟩
  | n :: ns, env => by
    have ihn := renderTree_eq level n env
    rw [Template.structuralChildren]
    cases hfirst : t.structuralTree r settings level n env with
    | error e =>
      intro path position pending
      rw [hfirst] at ihn
      simp only [Template.renderChildren, Walking.bind_apply, ihn]
    | ok result =>
      obtain ⟨⟨first, appended⟩, env₁⟩ := result
      rw [hfirst] at ihn
      obtain ⟨u, hu⟩ := ihn
      have ihs := renderChildren_eq level ns env₁
      simp only [bind, Except.bind]
      cases hothers : t.structuralChildren r settings level ns env₁ with
      | error e =>
        intro path position pending
        rw [hothers] at ihs
        simp only [Template.renderChildren, Walking.bind_apply, hu, ihs]
      | ok others =>
        rw [hothers] at ihs
        obtain ⟨v, hv⟩ := ihs
        refine ⟨Unsettled.cons first u appended v, fun path position pending => ?_⟩
        simp only [Template.renderChildren, Walking.bind_apply, Walking.pure_apply, hu, hv]
        simp only [Unsettled.cons, List.map_append, List.map_map,
          Pending.map_slide_ofNode, Pending.map_under_ofNode, Function.comp_def,
          Pending.slide_under, Pending.slide_slide, Pending.under_under, Nat.zero_add,
          Nat.add_comm 1, List.append_assoc]

end

end Walk

/-- **Rendering gives the structural forest.** Whatever is spawned and appended at whatever depth,
settling the recorded paths puts every node where it belongs; and rendering fails exactly when a
node of the template fails, with the error of the first such node in pre-order. -/
theorem renderForest_structural (t : Template) (r : Renderer) (scene : Scene) :
    t.renderForest r scene = t.structuralForest r scene ∧
      ∀ e, t.renderForest r scene = .error e ↔
        t.firstError? r scene.settings (t.root.preorder 0)
          (Environment.empty.bindScene scene) = some e := by
  have htree := @renderTree_eq t r scene.settings 0 t.root
    (Environment.empty.bindScene scene)
  have hfirst := @firstError?_preorder t r scene.settings 0 t.root []
    (Environment.empty.bindScene scene)
  rw [List.append_nil] at hfirst
  rw [hfirst]
  unfold Template.renderForest Template.renderRoot Template.structuralForest
  cases hroot : t.structuralTree r scene.settings 0 t.root (Environment.empty.bindScene scene) with
  | error e =>
    rw [hroot] at htree
    simp only [htree [0] [], bind, Except.bind, Except.error.injEq, Option.some.injEq, implies_true,
      and_self]
  | ok result =>
    obtain ⟨⟨root, appended⟩, env⟩ := result
    rw [hroot] at htree
    obtain ⟨u, hu⟩ := htree
    -- The root stands alone at position 0 of the forest, in front of nothing.
    have hsettled := (Unsettled.cons root u appended Unsettled.empty).settles []
    simp only [Unsettled.cons, Unsettled.empty, List.length_nil, List.map_nil, List.append_nil,
      List.nil_append, List.map_congr_left fun p _ => Pending.slide_zero p, List.map_id']
      at hsettled
    simp only [hu, bind, Except.bind, List.nil_append, hsettled]
    cases t.includingParent with
    | true => exact ⟨rfl, fun e => ⟨nofun, nofun⟩⟩
    | false => exact ⟨rfl, fun e => ⟨nofun, nofun⟩⟩

end Stencil
