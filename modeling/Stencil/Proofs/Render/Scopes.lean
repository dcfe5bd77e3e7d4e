import Stencil.Proofs.Dictionary
import Stencil.Proofs.Eval.Reserved
import Stencil.Proofs.Render.Finished

/-!
# Variables from node to node

The nodes of a template run one after the other in the environment that the one before left. No
scope is open between them, so what they share are the variables of the render.

* `Template.visits` lists the nodes that are run, each with the environment in which it is.
* `visits_base`: when a node is run, the variables of the render are what the outward assignments of
  the nodes before it have made them.
* `scopes_balanced`: no code opens a scope that it does not close.
* `visits_self`: what a node sees as `self` are its own origin and depth.
-/

namespace Stencil

open Script Environment

/-- A node that is run, and the environment in which its code is. -/
structure Visit where
  level : Nat
  node : Node
  env : Environment

namespace Visit

/-- The writes of the code of a node. There are none where the content does not compile. -/
def writes (r : Renderer) (settings : Settings) (visit : Visit) : List Write :=
  match Program.compile r.tags visit.node.content 0 with
  | .error _ => []
  | .ok program => program.writes r.helpers settings visit.env

/-- The outward assignments of the code of a node. -/
def outward (r : Renderer) (settings : Settings) (visit : Visit) : List (String × Value) :=
  Write.outwardAll (visit.writes r settings) []

end Visit

namespace Template

variable (t : Template) (r : Renderer) (settings : Settings)

/-- The nodes of a list that are run: all up to the first that fails, each in the environment that
the one before it left, with the name for the part being rendered bound to it. -/
def visits : List (Nat × Node) → Environment → List Visit
  | [], _ => []
  | (level, n) :: rest, env =>
    ⟨level, n, env.bindNode ⟨n.origin, t.page, level⟩⟩ ::
      match t.runContent r settings level n.content n.origin env with
      | .error _ => []
      | .ok (_, env) => visits rest env

end Template

section Visits

variable {t : Template} {r : Renderer} {settings : Settings}

/-- Where no node fails, all are run. -/
theorem visits_complete {nodes : List (Nat × Node)} {env : Environment}
    (h : t.firstError? r settings nodes env = none) :
    (t.visits r settings nodes env).map (fun visit => (visit.level, visit.node)) = nodes := by
  induction nodes generalizing env with
  | nil => rfl
  | cons entry nodes ih =>
    obtain ⟨level, n⟩ := entry
    rw [Template.firstError?] at h
    rw [Template.visits, List.map_cons]
    cases hrun : t.runContent r settings level n.content n.origin env with
    | error e => rw [hrun] at h; exact nomatch h
    | ok result =>
      rw [hrun] at h
      exact congrArg _ (ih h)

/-- Running the content of a node leaves its outward assignments. -/
theorem runContent_env {level : Nat} {n : Node} {env env' : Environment} {rendered : Rendered}
    (h : t.runContent r settings level n.content n.origin env = .ok (rendered, env')) :
    env' = (env.bindNode ⟨n.origin, t.page, level⟩).putAll
      (Visit.outward r settings ⟨level, n, env.bindNode ⟨n.origin, t.page, level⟩⟩) := by
  rw [Visit.outward, Visit.writes]
  rw [Template.runContent] at h
  cases hcompile : Program.compile r.tags n.content 0 with
  | error e => rw [hcompile] at h; cases h
  | ok program =>
    rw [hcompile] at h
    dsimp only at h ⊢
    generalize env.bindNode ⟨n.origin, t.page, level⟩ = start at h ⊢
    have hleaves := execute_leaves program r.helpers settings start
    cases hexecute : program.execute r.helpers settings start with
    | mk result after =>
      rw [hexecute] at h hleaves
      cases result with
      | error failure => cases h
      | ok rendered' =>
        rw [← (Prod.mk.inj (Except.ok.inj h)).2]
        exact hleaves.outward

/-- Entries inserted in order. -/
def insertAll (d : Scope) (entries : List (String × Value)) : Scope :=
  entries.foldl (fun d entry => d.insert entry.1 entry.2) d

theorem contains_insertAll {entries : List (String × Value)} {name : String} {v : Value}
    (h : (name, v) ∈ entries) (d : Scope) : (insertAll d entries).contains name = true := by
  have hmono : ∀ (entries : List (String × Value)) (d : Scope), d.contains name = true →
      (insertAll d entries).contains name = true := by
    intro entries
    induction entries with
    | nil => exact fun _ => id
    | cons entry entries ih =>
      intro d hd
      exact ih _ (by rw [Dictionary.contains_insert, hd, Bool.or_true])
  induction entries generalizing d with
  | nil => exact nomatch h
  | cons entry entries ih =>
    rcases List.mem_cons.mp h with rfl | h
    · exact hmono entries _ (by rw [Dictionary.contains_insert, decide_eq_true rfl, Bool.true_or])
    · exact ih h _

/-- Where no scope is open, assignments are made in the scope of the render. -/
theorem putAll_of_inner_eq_nil {e : Environment} (h : e.inner = [])
    (entries : List (String × Value)) :
    e.putAll entries = { e with base := insertAll e.base entries } := by
  induction entries generalizing e with
  | nil => rfl
  | cons entry entries ih =>
    have hput : e.put entry.1 entry.2 = { e with base := e.base.insert entry.1 entry.2 } := by
      rw [put, h, update?]
    show (e.put entry.1 entry.2).putAll entries = _
    rw [hput]
    exact ih h

/-- **What nodes share.** When a node is run, no scope is open, and the variables of the render are
what the outward assignments of the nodes before it made of those at the start. -/
theorem visits_base {nodes : List (Nat × Node)} {env : Environment} (h : env.inner = []) {i : Nat}
    {visit : Visit} (hvisit : (t.visits r settings nodes env)[i]? = some visit) :
    visit.env.inner = [] ∧
      visit.env.base = insertAll env.base
        (((t.visits r settings nodes env).take i).flatMap (Visit.outward r settings)) := by
  induction nodes generalizing env i with
  | nil => exact nomatch hvisit
  | cons entry nodes ih =>
    obtain ⟨level, n⟩ := entry
    rw [Template.visits] at hvisit ⊢
    cases i with
    | zero =>
      rw [← Option.some.inj hvisit]
      exact ⟨h, rfl⟩
    | succ i =>
      rw [List.getElem?_cons_succ] at hvisit
      rw [List.take_succ_cons, List.flatMap_cons, insertAll, List.foldl_append]
      cases hrun : t.runContent r settings level n.content n.origin env with
      | error e => rw [hrun] at hvisit; exact nomatch hvisit
      | ok result =>
        obtain ⟨rendered, env'⟩ := result
        rw [hrun] at hvisit
        have hnode : (env.bindNode ⟨n.origin, t.page, level⟩).inner = [] := h
        have henv := runContent_env hrun
        rw [putAll_of_inner_eq_nil hnode] at henv
        have hinner : env'.inner = [] := henv ▸ h
        obtain ⟨hclosed, hbase⟩ := ih hinner hvisit
        refine ⟨hclosed, hbase.trans ?_⟩
        rw [henv]
        rfl

/-- Every node of a template that renders is run. -/
theorem visits_of_renderForest {scene : Scene} {forest : List Node}
    (h : t.renderForest r scene = .ok forest) :
    (t.visits r scene.settings (t.root.preorder 0) (Environment.empty.bindScene scene)).map
      (fun visit => (visit.level, visit.node)) = t.root.preorder 0 := by
  have htree := @renderTree_eq t r scene.settings 0 t.root (Environment.empty.bindScene scene)
  have herror :=
    @firstError?_preorder t r scene.settings 0 t.root [] (Environment.empty.bindScene scene)
  rw [List.append_nil] at herror
  refine visits_complete ?_
  rw [herror]
  cases hstructural :
      t.structuralTree r scene.settings 0 t.root (Environment.empty.bindScene scene) with
  | ok result => rfl
  | error e =>
    rw [hstructural] at htree
    unfold Template.renderForest Template.renderRoot at h
    dsimp only at h
    rw [htree [0] []] at h
    exact nomatch h

/-- A variable of the render has a value in every environment without open scopes. -/
theorem get?_isSome_of_base {e : Environment} {name : String} (h : e.base.contains name = true)
    (hinner : e.inner = []) : (e.get? name).isSome = true := by
  have hfind : find? name e.scopes = e.base.get? name := by
    rw [scopes, hinner, List.nil_append, find?, find?, Option.or_none]
  rw [Dictionary.contains, Option.isSome_iff_exists] at h
  obtain ⟨v, hv⟩ := h
  rw [get?, hfind, hv]
  rfl

end Visits

/-- **Running code never unbalances or pollutes the environment.** Whether it ends well or with an
error, a program leaves its outward assignments and nothing else, and so does a branch; a
declaration changes the innermost scope only. When a node of a render is run, no scope is open, and
the variables of the render are the outward assignments of the nodes before it, so that what one of
these assigned to a name that was not bound is visible. -/
theorem scopes_balanced :
    (∀ (p : Program) (helpers : Helpers) (settings : Settings) (env : Environment),
      Leaves p.assigned (p.writes helpers settings env) env (p.execute helpers settings env).2) ∧
    (∀ (site : Site) (condition : Expr) (yes no : List Statement) (span : Span) (m : Memory),
      let branch := Statement.branch condition yes no span
      Leaves branch.assigned (branch.writes site m) m.env (branch.run site m).2.env) ∧
    (∀ (site : Site) (name : String) (value : Expr) (span : Span) (m : Memory) (s : Scope)
      (rest : List Scope), m.env.inner = s :: rest →
      ∃ s', ((Statement.assign name value true span).run site m).2.env =
          { m.env with inner := s' :: rest } ∧
        ∀ other, other ≠ name → s'.get? other = s.get? other) ∧
    ∀ (t : Template) (r : Renderer) (scene : Scene),
      let visits :=
        t.visits r scene.settings (t.root.preorder 0) (Environment.empty.bindScene scene)
      (∀ forest, t.renderForest r scene = .ok forest →
        visits.map (fun visit => (visit.level, visit.node)) = t.root.preorder 0) ∧
      ∀ (i : Nat) (visit : Visit), visits[i]? = some visit →
        visit.env.inner = [] ∧
        visit.env.base =
          .ofList ((visits.take i).flatMap (Visit.outward r scene.settings)) ∧
        ∀ earlier ∈ visits.take i, ∀ (e : Environment) (name : String) (v : Value),
          Performs e name v (earlier.writes r scene.settings) earlier.env.push →
          ¬ e.Binds name → (visit.env.get? name).isSome = true := by
  refine ⟨execute_leaves, fun site condition yes no span m => branch_leaves condition yes no span m,
    fun site name value span m s rest h => declare_local name value span m h,
    fun t r scene => ⟨fun forest => visits_of_renderForest, fun i visit hvisit => ?_⟩⟩
  obtain ⟨hinner, hbase⟩ := visits_base rfl hvisit
  refine ⟨hinner, hbase, fun earlier hearlier e name v hperforms hname => ?_⟩
  have houtward : (name, v) ∈ Visit.outward r scene.settings earlier :=
    hperforms.outward nofun hname
  have hmem := List.mem_flatMap.mpr ⟨earlier, hearlier, houtward⟩
  refine get?_isSome_of_base ?_ hinner
  rw [hbase]
  exact contains_insertAll hmem _

/-! ## What a node sees of itself -/

section Self

variable {t : Template} {r : Renderer} {settings : Settings} {env env' : Environment}

/-- Running the content of a node shadows no reserved name. -/
theorem runContent_unshadowed {level : Nat} {content : String} {origin : Option String}
    {rendered : Rendered} (h : env.Unshadowed)
    (hrun : t.runContent r settings level content origin env = .ok (rendered, env')) :
    env'.Unshadowed := by
  rw [Template.runContent] at hrun
  cases hcompile : Program.compile r.tags content 0 with
  | error e => rw [hcompile] at hrun; cases hrun
  | ok program =>
    rw [hcompile] at hrun
    dsimp only at hrun
    have hstart := h.bindGlobal "self" (SelfView.toValue ⟨origin, t.page, level⟩)
    have hkept := execute_closed (unshadowed_closed _) program r.helpers settings ⟨hstart, rfl⟩
    rw [← bindNode] at hkept
    cases hexecute : program.execute r.helpers settings (env.bindNode ⟨origin, t.page, level⟩) with
    | mk result after =>
      rw [hexecute] at hrun hkept
      cases result with
      | error failure => cases hrun
      | ok rendered' =>
        rw [← (Prod.mk.inj (Except.ok.inj hrun)).2]
        exact hkept.1

/-- The name for the part being rendered is bound to the node that is run. -/
theorem visits_bindNode {nodes : List (Nat × Node)} (h : env.Unshadowed) {visit : Visit}
    (hvisit : visit ∈ t.visits r settings nodes env) :
    visit.env.Unshadowed ∧ visit.env.globals.get? "self" =
      some (SelfView.toValue ⟨visit.node.origin, t.page, visit.level⟩) := by
  induction nodes generalizing env with
  | nil => cases hvisit
  | cons entry nodes ih =>
    obtain ⟨level, n⟩ := entry
    rw [Template.visits] at hvisit
    rcases List.mem_cons.mp hvisit with rfl | hlater
    · exact ⟨h.bindGlobal _ _, Dictionary.get?_insert_self _ _ _⟩
    · cases hrun : t.runContent r settings level n.content n.origin env with
      | error e => rw [hrun] at hlater; cases hlater
      | ok result =>
        rw [hrun] at hlater
        exact ih (runContent_unshadowed h hrun) hlater

theorem member_self (view : SelfView) :
    view.toValue.member "uuid" = .ok (.ofText? view.uuid) ∧
      view.toValue.member "level" = .ok (.ofInt view.level) := by
  simp [SelfView.toValue, Value.ofFields, Value.member, Value.member?, Dictionary.get?_ofList]

theorem evaluate_self {view : SelfView} (h : env.get? "self" = some view.toValue) (site : Site)
    (span name own : Span) (s : Effects) :
    (Expr.member (.identifier "self" name) "uuid" own).evaluate site env 0 span s =
        (.ok (.ofText? view.uuid), s) ∧
      (Expr.member (.identifier "self" name) "level" own).evaluate site env 0 span s =
        (.ok (.ofInt view.level), s) := by
  have hself : (Expr.identifier "self" name).evaluate site env 1 span = pure view.toValue := by
    rw [Expr.evaluate, if_neg (by decide), nameValue, h]
    rfl
  constructor
  · rw [Expr.evaluate, if_neg (by decide), hself, pure_bind, (member_self view).1]
    rfl
  · rw [Expr.evaluate, if_neg (by decide), hself, pure_bind, (member_self view).2]
    rfl

/-- **What a node sees of itself.** Wherever the code of a node has come to, `self.uuid` is the
origin of the node and `self.level` its depth below the root of the template. -/
theorem visits_self {scene : Scene} {visit : Visit} (hvisit : visit ∈
      t.visits r scene.settings (t.root.preorder 0) (Environment.empty.bindScene scene))
    {e : Environment} (he : e.Unshadowed) (hglobals : e.globals = visit.env.globals) (site : Site)
    (span name own : Span) (s : Effects) :
    (Expr.member (.identifier "self" name) "uuid" own).evaluate site e 0 span s =
        (.ok (.ofText? visit.node.origin), s) ∧
      (Expr.member (.identifier "self" name) "level" own).evaluate site e 0 span s =
        (.ok (.ofInt visit.level), s) := by
  have hstart : (Environment.empty.bindScene scene).Unshadowed := fun _ _ => Bool.false_ne_true
  have hself :
      e.get? "self" = some (SelfView.toValue ⟨visit.node.origin, t.page, visit.level⟩) := by
    rw [get?_of_not_binds (he "self" (by decide)), hglobals, (visits_bindNode hstart hvisit).2]
  exact evaluate_self hself site span name own s

end Self

/-! ## A variable that is shared -/

/-- A template whose root assigns a variable that its child shows. -/
def sharingTemplate : Template :=
  ⟨{ content := "``\x7bx = 'y'\x7d``", children := [{ content := "``x``" }] }, "t", true, .name,
    barePage, .empty⟩

/-- The environments in which the root and its child are run. -/
def sharingEnvironments : Environment × Environment :=
  let env := (Environment.empty.bindScene bareScene).bindNode ⟨none, barePage, 0⟩
  (env, (env.put "x" (.text "y")).bindNode ⟨none, barePage, 1⟩)

theorem compile_assignment : Program.compile .standard "``\x7bx = 'y'\x7d``" 0 =
    .ok ⟨[.execute [.assign "x" (.text "y") false ⟨3, 10⟩] ⟨0, 13⟩], 0⟩ := by cbv

theorem runContent_sharingRoot :
    sharingTemplate.runContent ⟨.standard, .empty⟩ bareScene.settings 0 "``\x7bx = 'y'\x7d``" none
        (Environment.empty.bindScene bareScene) =
      .ok (⟨"", {}⟩, sharingEnvironments.1.put "x" (.text "y")) := by
  rw [Template.runContent, compile_assignment]
  rfl

theorem runContent_sharingChild :
    sharingTemplate.runContent ⟨.standard, .empty⟩ bareScene.settings 1 "``x``" none
        (sharingEnvironments.1.put "x" (.text "y")) =
      .ok (⟨"y", {}⟩, sharingEnvironments.2) := by
  have hcompile : Program.compile .standard "``x``" 0 =
      .ok ⟨[.emit (.identifier "x" ⟨2, 3⟩) true ⟨0, 5⟩], 0⟩ := by cbv
  rw [Template.runContent, hcompile]
  rfl

theorem renderForest_sharing : sharingTemplate.renderForest ⟨.standard, .empty⟩ bareScene =
    .ok [{ content := "", children := [{ content := "y" }] }] := by
  have hroot := runContent_sharingRoot
  have hchild := runContent_sharingChild
  unfold Template.renderForest Template.renderRoot
  unfold sharingTemplate at hroot hchild ⊢
  simp only [Template.renderTree, Template.renderChildren, Walking.bind_apply, Walking.pure_apply,
    visit_eq, hroot, hchild, Nat.zero_add]
  simp only [Pending.ofNode, List.isEmpty_nil, if_true, List.append_nil, bind, Except.bind,
    settle_nil]
  rfl

theorem visits_sharing : sharingTemplate.visits ⟨.standard, .empty⟩ bareScene.settings
      (sharingTemplate.root.preorder 0) (Environment.empty.bindScene bareScene) =
    [⟨0, sharingTemplate.root, sharingEnvironments.1⟩,
      ⟨1, { content := "``x``" }, sharingEnvironments.2⟩] := by
  have hroot := runContent_sharingRoot
  have hchild := runContent_sharingChild
  unfold sharingTemplate at hroot hchild ⊢
  simp only [Node.preorder, Node.preorderAll, List.append_nil, Template.visits, hroot, hchild]
  rfl

theorem writes_sharing :
    Visit.writes ⟨.standard, .empty⟩ bareScene.settings
      ⟨0, sharingTemplate.root, sharingEnvironments.1⟩ = [.assign "x" (.text "y")] := by
  unfold Visit.writes sharingTemplate
  dsimp only
  rw [compile_assignment]
  rfl

/-- A declaration in a scope, and a variable that the child of a node sees. -/
theorem scopes_balanced_sharing :
    (∃ s', ((Statement.assign "x" (.text "y") true ⟨0, 1⟩).run ⟨.empty, bareScene.settings, 0⟩
        ⟨Environment.empty.push, {}⟩).2.env = ⟨.empty, [s'], .empty⟩) ∧
      ∃ root child, sharingTemplate.visits ⟨.standard, .empty⟩ bareScene.settings
          (sharingTemplate.root.preorder 0) (Environment.empty.bindScene bareScene) =
            [root, child] ∧
        [(root.level, root.node), (child.level, child.node)] = sharingTemplate.root.preorder 0 ∧
        ¬ root.env.push.Binds "x" ∧ (child.env.get? "x").isSome = true := by
  obtain ⟨-, -, hdeclare, hrender⟩ := scopes_balanced
  obtain ⟨s', hs', -⟩ := hdeclare ⟨.empty, bareScene.settings, 0⟩ "x" (.text "y") ⟨0, 1⟩
    ⟨Environment.empty.push, {}⟩ .empty [] rfl
  obtain ⟨hall, hvisible⟩ := hrender sharingTemplate ⟨.standard, .empty⟩ bareScene
  rw [visits_sharing] at hall hvisible
  have hunbound : ¬ sharingEnvironments.1.push.Binds "x" := Bool.false_ne_true
  obtain ⟨-, -, hchild⟩ := hvisible 1 _ rfl
  have hperforms : Performs sharingEnvironments.1.push "x" (.text "y")
      (Visit.writes ⟨.standard, .empty⟩ bareScene.settings
        ⟨0, sharingTemplate.root, sharingEnvironments.1⟩) sharingEnvironments.1.push := by
    rw [writes_sharing]
    exact .here
  exact ⟨⟨s', hs'⟩, _, _, visits_sharing, hall _ renderForest_sharing, hunbound,
    hchild _ (List.mem_singleton_self _) _ "x" (.text "y") hperforms hunbound⟩

end Stencil
