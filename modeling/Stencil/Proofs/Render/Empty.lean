import Stencil.Invocation
import Stencil.Proofs.Render.Static

/-!
# Empty templates

`Template.isEmpty` looks at the contents of a template and does not run them. Blank contents render
to blank nodes and ask for nothing; but a root that is left out is run all the same, and what it
spawns or appends is rendered.

* `renderChildren_blank`: blank nodes render to blank nodes and leave nothing behind.
* `Template.RootAsksForBlank`: the run of the root asks for blank nodes only.
-/

namespace Stencil

open Node

/-! ## Blank nodes -/

namespace Node

@[simp]
theorem allBlank_append (ms ns : List Node) :
    allBlank (ms ++ ns) = (allBlank ms && allBlank ns) := by
  induction ms with
  | nil => rfl
  | cons m ms ih => rw [List.cons_append, allBlank, allBlank, ih, Bool.and_assoc]

@[simp]
theorem finishAll_append (ms ns : List Node) :
    finishAll (ms ++ ns) = finishAll ms ++ finishAll ns := by
  induction ms with
  | nil => rfl
  | cons m ms ih => rw [List.cons_append, finishAll, finishAll, ih, List.cons_append]

mutual

/-- A blank tree is still blank when it is finished. -/
theorem isBlank_finish : ∀ n : Node, n.isBlank = true → n.finish.isBlank = true
  | ⟨content, children, origin, uuid, cursor⟩, h => by
    rw [isBlank, Bool.and_eq_true] at h
    obtain ⟨hcontent, hchildren⟩ := h
    have htake : takeCursor ⟨content, [], origin, uuid, cursor⟩ =
        ⟨content, [], origin, uuid, cursor⟩ :=
      takeCursor_of_unmarked (isUnmarked_of_allBlank hcontent)
    rw [finish, finishContent, takeCursors, htake, htake, tidy_eq, isBlank,
      Text.trim_eq_nil_iff.mpr hcontent, allBlank_finishAll children hchildren]
    rfl

theorem allBlank_finishAll : ∀ ns : List Node, allBlank ns = true → allBlank (finishAll ns) = true
  | [], _ => rfl
  | n :: ns, h => by
    rw [allBlank, Bool.and_eq_true] at h
    rw [finishAll, allBlank, isBlank_finish n h.1, allBlank_finishAll ns h.2]
    rfl

end

end Node

/-! ## Rendering blank nodes -/

namespace Node

mutual

theorem everywhere_of_isBlank : ∀ n : Node, n.isBlank = true →
    n.Everywhere (fun m => isBlankText m.content = true)
  | ⟨content, children, origin, uuid, cursor⟩, h => by
    rw [isBlank, Bool.and_eq_true] at h
    exact everywhere_iff.mpr ⟨h.1, everywhere_of_allBlank children h.2⟩

theorem everywhere_of_allBlank : ∀ ns : List Node, allBlank ns = true →
    ∀ n ∈ ns, n.Everywhere (fun m => isBlankText m.content = true)
  | [], _ => nofun
  | n :: ns, h => by
    rw [allBlank, Bool.and_eq_true] at h
    exact List.forall_mem_cons.mpr ⟨everywhere_of_isBlank n h.1, everywhere_of_allBlank ns h.2⟩

end

mutual

theorem isBlank_mapContent : ∀ n : Node, (n.mapContent id).isBlank = n.isBlank
  | ⟨content, children, origin, uuid, cursor⟩ => by
    rw [mapContent, isBlank, isBlank, allBlank_mapContents children, id_eq]

theorem allBlank_mapContents : ∀ ns : List Node, allBlank (mapContents id ns) = allBlank ns
  | [] => rfl
  | n :: ns => by
    rw [mapContents, allBlank, allBlank, isBlank_mapContent n, allBlank_mapContents ns]

end

end Node

section Walk

variable {t : Template} {helpers : Helpers} {settings : Settings}

/-- Blank siblings render to blank nodes, and nothing is left to be inserted. -/
theorem renderChildren_blank (path : List Nat) (position level : Nat) (ns : List Node)
    (walk : Traversal) (h : allBlank ns = true) : ∃ out env',
      t.renderChildren ⟨.standard, helpers⟩ settings path position level ns walk =
        .ok (out, ⟨env', walk.pending⟩) ∧ allBlank out = true := by
  have htagless : ∀ n ∈ ns, n.Everywhere (fun m => IsTagless m.content) :=
    fun n hn path m hm => isTagless_of_isBlankText (everywhere_of_allBlank ns h n hn path m hm)
  obtain ⟨env', hrender⟩ :=
    renderChildren_tagless t helpers settings path position level ns walk htagless
  exact ⟨_, env', hrender, (allBlank_mapContents ns).trans h⟩

/-- Rendering a tree with blank children is running its root: the children render to blank nodes
behind what the root spawns, and what the root appends is left to be inserted. -/
theorem renderTree_of_blank_children {path : List Nat} {level : Nat} {n out : Node}
    {walk walk' : Traversal} (hchildren : allBlank n.children = true)
    (h : t.renderTree ⟨.standard, helpers⟩ settings path level n walk = .ok (out, walk')) :
    ∃ rendered env below,
      t.runContent ⟨.standard, helpers⟩ settings level n.content n.origin walk.env =
        .ok (rendered, env) ∧
      out = { content := rendered.text, children := rendered.effects.spawned ++ below
              origin := n.origin, uuid := rendered.effects.uuid } ∧
      allBlank below = true ∧
      walk'.pending = walk.pending ++ Pending.ofNode path rendered.effects.appended := by
  obtain ⟨content, children, origin, uuid, cursor⟩ := n
  obtain ⟨env, pending⟩ := walk
  rw [Template.renderTree, Walking.bind_apply, visit_eq] at h
  cases hrun : t.runContent ⟨.standard, helpers⟩ settings level content origin env with
  | error e =>
    rw [hrun] at h
    exact nomatch h
  | ok result =>
    obtain ⟨rendered, env₁⟩ := result
    obtain ⟨below, env₂, hbelow, hblank⟩ := renderChildren_blank path
      rendered.effects.spawned.length (level + 1) children
      ⟨env₁, pending ++ Pending.ofNode path rendered.effects.appended⟩ hchildren
    simp only [hrun] at h
    rw [Walking.bind_apply, hbelow] at h
    obtain ⟨rfl, rfl⟩ := Prod.mk.inj (Except.ok.inj h)
    exact ⟨rendered, env₁, below, rfl, rfl, hblank, rfl⟩

end Walk

/-! ## Empty templates -/

namespace Template

/-- Whether all nodes that the run of the root asks for are blank when they are finished. -/
def RootAsksForBlank (t : Template) (r : Renderer) (scene : Scene) : Prop :=
  ∀ rendered env, t.runContent r scene.settings 0 t.root.content t.root.origin
      (Environment.empty.bindScene scene) = .ok (rendered, env) →
    allBlank (finishAll rendered.effects.spawned) = true ∧
      allBlank (finishAll rendered.effects.appended) = true

variable {t : Template} {helpers : Helpers} {scene : Scene}

/-- A root without content asks for nothing. -/
theorem rootAsksForBlank_of_isBlankText (h : isBlankText t.root.content = true) :
    t.RootAsksForBlank ⟨.standard, helpers⟩ scene := by
  intro rendered env hrun
  have hblank := runContent_tagless t helpers scene.settings (isTagless_of_isBlankText h) 0
    t.root.origin (Environment.empty.bindScene scene)
  rw [hblank] at hrun
  obtain ⟨rfl, -⟩ := Prod.mk.inj (Except.ok.inj hrun)
  exact ⟨rfl, rfl⟩

/-- The forest of a template with blank children is what its root spawns and appends, around blank
nodes; a root that is not left out stands around the former. -/
theorem renderForest_of_blank_children {forest : List Node}
    (hchildren : allBlank t.root.children = true)
    (h : t.renderForest ⟨.standard, helpers⟩ scene = .ok forest) :
    ∃ rendered env below, t.runContent ⟨.standard, helpers⟩ scene.settings 0 t.root.content
        t.root.origin (Environment.empty.bindScene scene) = .ok (rendered, env) ∧
      allBlank below = true ∧
      forest = if t.includingParent then
          { content := rendered.text, children := rendered.effects.spawned ++ below
            origin := t.root.origin, uuid := rendered.effects.uuid } :: rendered.effects.appended
        else rendered.effects.spawned ++ below ++ rendered.effects.appended := by
  obtain ⟨settled, hsettled, h⟩ := bind_eq_ok_iff.mp h
  obtain ⟨⟨root, walk⟩, hroot, hforest⟩ := bind_eq_ok_iff.mp hsettled
  obtain ⟨rendered, env, below, hrun, rfl, hblank, hpending⟩ :=
    renderTree_of_blank_children hchildren hroot
  refine ⟨rendered, env, below, hrun, hblank, ?_⟩
  have hsettle := settle_ofNode_append [] { content := rendered.text
                                            children := rendered.effects.spawned ++ below
                                            origin := t.root.origin
                                            uuid := rendered.effects.uuid }
    rendered.effects.appended [] []
  simp only [List.length_nil, List.append_nil, List.nil_append, List.map_nil, settle_nil]
    at hsettle
  simp only [List.nil_append] at hpending
  have hforest := Except.ok.inj hforest
  rw [hpending, hsettle] at hforest
  rw [← hforest] at h
  cases hparent : t.includingParent with
  | true =>
    rw [hparent] at h
    exact (Except.ok.inj h).symm
  | false =>
    rw [hparent] at h
    exact (Except.ok.inj h).symm

/-- The rendering of an empty template is blank exactly when its root asks for nothing but blank
nodes. -/
theorem allBlank_render_iff {nodes : List Node} (hempty : t.isEmpty = true)
    (h : t.render ⟨.standard, helpers⟩ scene = .ok nodes) :
    allBlank nodes = true ↔ t.RootAsksForBlank ⟨.standard, helpers⟩ scene := by
  rw [isEmpty, Bool.and_eq_true, Bool.or_eq_true, Bool.not_eq_true'] at hempty
  obtain ⟨hchildren, hroot⟩ := hempty
  obtain ⟨forest, hforest, heq⟩ := bind_eq_ok_iff.mp h
  obtain ⟨rendered, env, below, hrun, hbelow, rfl⟩ :=
    renderForest_of_blank_children hchildren hforest
  have hasks : t.RootAsksForBlank ⟨.standard, helpers⟩ scene ↔
      allBlank (finishAll rendered.effects.spawned) = true ∧
        allBlank (finishAll rendered.effects.appended) = true := by
    refine ⟨fun hall => hall rendered env hrun, fun hboth rendered' env' hrun' => ?_⟩
    obtain ⟨rfl, -⟩ := Prod.mk.inj (Except.ok.inj (hrun.symm.trans hrun'))
    exact hboth
  rw [← Except.ok.inj heq, hasks]
  cases hparent : t.includingParent with
  | false =>
    simp only [Bool.false_eq_true, if_false, finishAll_append, allBlank_append, Bool.and_eq_true,
      allBlank_finishAll below hbelow, and_true]
  | true =>
    have hcontent : isBlankText t.root.content = true := by
      rcases hroot with hroot | hroot
      · rw [hparent] at hroot
        exact absurd hroot.symm Bool.false_ne_true
      · exact hroot
    have hblank := runContent_tagless t helpers scene.settings (isTagless_of_isBlankText hcontent) 0
      t.root.origin (Environment.empty.bindScene scene)
    rw [hblank] at hrun
    obtain ⟨rfl, -⟩ := Prod.mk.inj (Except.ok.inj hrun)
    have hall :
        allBlank [(⟨t.root.content, [] ++ below, t.root.origin, none, []⟩ : Node)] = true := by
      rw [allBlank, isBlank, hcontent, List.nil_append, hbelow]
      rfl
    simp only [if_true]
    exact ⟨fun _ => ⟨rfl, rfl⟩, fun _ => allBlank_finishAll _ hall⟩

end Template

theorem Invocation.found_eq_ok {α : Type} {what : Sought} {name : String}
    {r : Except String (Option α)} {a : α} (h : found what name r = .ok a) : r = .ok (some a) := by
  obtain ⟨result, hresult, h⟩ := bind_eq_ok_iff.mp h
  rw [mapError_eq_ok_iff.mp hresult]
  cases result with
  | none => exact nomatch h
  | some b => rw [Except.ok.inj h]

/-- An invocation that finds nothing to render has found its destination and an empty template. -/
theorem Invocation.exists_of_invoke_eq_empty {σ : Type} {i : Invocation σ}
    {template : TemplateReference} {destination : String} {args : List String} {shared : Shared σ}
    (h : (i.invoke template destination args shared).1 = .ok .empty) :
    ∃ target t, i.store.block shared.store destination = .ok (some target) ∧
      i.resolve shared.store template = .ok t ∧ t.isEmpty = true := by
  unfold Invocation.invoke at h
  split at h
  · exact nomatch h
  · split at h
    · next outcome store hinto =>
      obtain rfl := Except.ok.inj h
      obtain ⟨nodes, hnodes, hinto⟩ := bind_eq_ok_iff.mp hinto
      cases nodes with
      | some nodes =>
        obtain ⟨store', -, hinto⟩ := bind_eq_ok_iff.mp hinto
        exact nomatch hinto
      | none =>
        obtain ⟨target, htarget, hnodes⟩ := bind_eq_ok_iff.mp hnodes
        obtain ⟨t, ht, hnodes⟩ := bind_eq_ok_iff.mp hnodes
        refine ⟨target, t, found_eq_ok htarget, ht, ?_⟩
        split at hnodes
        · assumption
        · obtain ⟨nodes, -, hnodes⟩ := bind_eq_ok_iff.mp hnodes
          exact nomatch hnodes
    · exact nomatch h

/-- **An empty template renders to blank nodes exactly when its root asks for nothing but blank
nodes**, which is so whenever the root is rendered itself or has no content. So these are the cases
in which an invocation that ends as empty has lost nothing of the rendering. -/
theorem empty_template_blank_iff (helpers : Helpers) :
    (∀ (t : Template) (scene : Scene) (nodes : List Node), t.isEmpty = true →
      t.render ⟨.standard, helpers⟩ scene = .ok nodes →
        (allBlank nodes = true ↔ t.RootAsksForBlank ⟨.standard, helpers⟩ scene) ∧
        (t.includingParent = true ∨ isBlankText t.root.content = true → allBlank nodes = true)) ∧
    ∀ (σ : Type) (store : Store σ) (settings : Settings) (template : TemplateReference)
      (destination : String) (args : List String) (shared : Shared σ),
      (Invocation.invoke ⟨store, ⟨.standard, helpers⟩, settings⟩ template destination args
        shared).1 = .ok .empty →
      ∃ (target : Block) (t : Template),
        store.block shared.store destination = .ok (some target) ∧
        Invocation.resolve ⟨store, ⟨.standard, helpers⟩, settings⟩ shared.store template = .ok t ∧
        ∀ nodes, t.render ⟨.standard, helpers⟩
            (Scene.ofDestination settings target (.ofRaw args) t.view) = .ok nodes →
          (allBlank nodes = true ↔ t.RootAsksForBlank ⟨.standard, helpers⟩
            (Scene.ofDestination settings target (.ofRaw args) t.view)) := by
  refine ⟨fun t scene nodes hempty hrender => ?_, fun σ store settings template destination args
    shared hinvoke => ?_⟩
  · have hiff := Template.allBlank_render_iff hempty hrender
    refine ⟨hiff, fun hroot => hiff.mpr (Template.rootAsksForBlank_of_isBlankText ?_)⟩
    rw [Template.isEmpty, Bool.and_eq_true, Bool.or_eq_true, Bool.not_eq_true'] at hempty
    rcases hroot with hparent | hcontent
    · rw [hparent] at hempty
      exact hempty.2.resolve_left nofun
    · exact hcontent
  · obtain ⟨target, t, htarget, ht, hempty⟩ := Invocation.exists_of_invoke_eq_empty hinvoke
    exact ⟨target, t, htarget, ht, fun nodes => Template.allBlank_render_iff hempty⟩

/-- A block that is nothing but a script, which spawns a node. -/
def spawningBlock : Block :=
  { id := 2, uuid := "b", content := "``\x7bspawn('x')\x7d``"
    page := { id := 1, uuid := "p", name := "p", title := "P" } }

/-- The template rooted at that block, found by reference, so that its root is left out. -/
def spawningTemplate : Template := .ofSource (.ofBlock spawningBlock .reference)

/-- A store in which every block is the one that spawns a node. -/
def spawningStore : Store Unit where
  page _ _ := .ok none
  pageBlocks _ _ := .ok []
  block _ _ := .ok (some spawningBlock)
  templateBlock _ _ := .ok none
  insert _ _ _ := .ok ()

/-- The rendering of a template without children that leaves out its root is what the root asks
for. -/
theorem render_of_no_children {t : Template} {scene : Scene} {helpers : Helpers}
    {rendered : Rendered} {env : Environment} (hchildren : t.root.children = [])
    (hparent : t.includingParent = false)
    (h : t.runContent ⟨.standard, helpers⟩ scene.settings 0 t.root.content t.root.origin
      (Environment.empty.bindScene scene) = .ok (rendered, env)) :
    t.render ⟨.standard, helpers⟩ scene =
      .ok (finishAll (rendered.effects.spawned ++ rendered.effects.appended)) := by
  obtain ⟨⟨content, children, origin, uuid, cursor⟩, name, includingParent, access, page, texts⟩
    := t
  dsimp only at hchildren hparent h
  subst hchildren hparent
  have hsettle := settle_ofNode_append [] ⟨rendered.text, rendered.effects.spawned, origin,
    rendered.effects.uuid, []⟩ rendered.effects.appended [] []
  simp only [List.length_nil, List.append_nil, List.nil_append, List.map_nil, settle_nil]
    at hsettle
  unfold Template.render Template.renderForest Template.renderRoot
  simp only [Template.renderTree, Template.renderChildren, Walking.bind_apply, Walking.pure_apply,
    visit_eq, h]
  simp only [List.nil_append, List.append_nil, bind, Except.bind, hsettle]
  rfl

theorem isEmpty_spawningTemplate : spawningTemplate.isEmpty = true := by cbv

theorem render_spawningTemplate :
    spawningTemplate.render ⟨.standard, .empty⟩ bareScene = .ok [{ content := "x" }] := by
  have ht : spawningTemplate =
      ⟨{ content := "``\x7bspawn('x')\x7d``", origin := some "b" }, "b", false, .reference,
        .ofPage spawningBlock.page, .empty⟩ := by
    cbv
  have hcompile : Program.compile .standard "``\x7bspawn('x')\x7d``" 0 =
      .ok ⟨[.execute [.expr (.call (.identifier "spawn" ⟨3, 8⟩) [.text "x"] ⟨3, 13⟩) ⟨3, 13⟩]
        ⟨0, 16⟩], 0⟩ := by
    cbv
  have hrun : spawningTemplate.runContent ⟨.standard, .empty⟩ bareScene.settings 0
      spawningTemplate.root.content spawningTemplate.root.origin
      (Environment.empty.bindScene bareScene) = .ok (⟨"", { spawned := [{ content := "x" }] }⟩,
        (Environment.empty.bindScene bareScene).bindNode
          ⟨some "b", .ofPage spawningBlock.page, 0⟩) := by
    rw [ht, Template.runContent, hcompile]
    rfl
  rw [render_of_no_children (by rw [ht]) (by rw [ht]) hrun]
  cbv

/-- A root that is left out and spawns a node asks for something, though its template is empty. -/
theorem empty_template_blank_iff_spawning :
    ¬ spawningTemplate.RootAsksForBlank ⟨.standard, .empty⟩ bareScene ∧
      ∃ (target : Block) (t : Template),
        spawningStore.block () "d" = .ok (some target) ∧
        Invocation.resolve ⟨spawningStore, ⟨.standard, .empty⟩, { today := .epoch }⟩ ()
          (.block "b") = .ok t := by
  have hrender := ((empty_template_blank_iff .empty).1 spawningTemplate bareScene _
    isEmpty_spawningTemplate render_spawningTemplate).1
  obtain ⟨target, t, htarget, ht, -⟩ := (empty_template_blank_iff .empty).2 Unit spawningStore
    { today := .epoch } (.block "b") "d" [] ⟨(), .empty⟩ (by cbv)
  exact ⟨fun hasks => absurd (hrender.mpr hasks) (by decide), target, t, htarget, ht⟩

/-- A template can be empty and still render to a node with a content. -/
theorem exists_isEmpty_render_not_blank :
    ∃ (b : Block) (nodes : List Node),
      (Template.ofSource (.ofBlock b .reference)).isEmpty = true ∧
      (Template.ofSource (.ofBlock b .reference)).render ⟨.standard, .empty⟩ bareScene = .ok nodes ∧
      allBlank nodes = false :=
  ⟨spawningBlock, _, isEmpty_spawningTemplate, render_spawningTemplate, by decide⟩

end Stencil
