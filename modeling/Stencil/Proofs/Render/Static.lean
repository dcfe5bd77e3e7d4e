import Stencil.Proofs.Render.Finished
import Stencil.Proofs.Tag.Standard

/-!
# Templates without tags

A template whose contents are plain text is rendered as it stands.

* `Node.mapContent` is a tree with other contents and of the same shape.
* `renderTree_tagless`: a tree without tags renders to itself and leaves nothing to be inserted.
* `render_of_static`: so the rendering of a template without tags and cursor marks is its tree with
  all contents trimmed.
-/

namespace Stencil

open Node

namespace Node

mutual

/-- A tree of the same shape and origins with other contents, which asks for no identifier and no
cursor. -/
def mapContent (f : String → String) : Node → Node
  | ⟨content, children, origin, _, _⟩ =>
    { content := f content, children := mapContents f children, origin }

/-- The trees of a forest with other contents. -/
def mapContents (f : String → String) : List Node → List Node
  | [] => []
  | n :: ns => n.mapContent f :: mapContents f ns

end

/-- Whether a content is printed as it stands: no tag and no cursor mark is in it. -/
structure IsStatic (n : Node) : Prop where
  tagless : IsTagless n.content
  unmarked : IsUnmarked n.content.toList

mutual

/-- Finishing trims the contents of a tree without cursor marks and does nothing else. -/
theorem finish_mapContent : ∀ n : Node, n.Everywhere (fun m => IsUnmarked m.content.toList) →
    (n.mapContent id).finish = n.mapContent trimmed
  | ⟨content, children, origin, uuid, cursor⟩, h => by
    have hchildren := finishAll_mapContents children h.children
    have htake : takeCursors ⟨String.ofList content.toList, [], origin, none, []⟩ =
        ⟨String.ofList content.toList, [], origin, none, []⟩ := takeCursors_none h.self
    rw [String.ofList_toList] at htake
    have hfinish : finish ⟨content, mapContents id children, origin, none, []⟩ = _ :=
      finish_of_takeCursors (htake.trans (by rw [String.ofList_toList]))
    rw [mapContent, id_eq, hfinish, hchildren]
    rfl

theorem finishAll_mapContents : ∀ ns : List Node,
    (∀ n ∈ ns, n.Everywhere (fun m => IsUnmarked m.content.toList)) →
    finishAll (mapContents id ns) = mapContents trimmed ns
  | [], _ => rfl
  | n :: ns, h => by
    rw [List.forall_mem_cons] at h
    rw [mapContents, finishAll, finish_mapContent n h.1, finishAll_mapContents ns h.2, mapContents]

end

end Node

/-! ## Rendering without tags -/

section Walk

variable (t : Template) (helpers : Helpers) (settings : Settings)

/-- A content without tags runs to itself and asks for nothing. -/
theorem runContent_tagless {content : String} (h : IsTagless content) (level : Nat)
    (origin : Option String) (env : Environment) :
    t.runContent ⟨.standard, helpers⟩ settings level content origin env =
      .ok (⟨content, {}⟩, env.bindNode ⟨origin, t.page, level⟩) := by
  unfold Template.runContent
  rw [compile_tagless 0 h]
  by_cases hcontent : content = ""
  · subst hcontent
    rfl
  · rw [if_neg (by rwa [String.isEmpty_iff])]
    show Except.ok (Rendered.mk (content ++ "") {}, _) = _
    rw [String.append_empty]
    rfl

mutual

/-- **A tree without tags renders to itself, and nothing is left to be inserted.** -/
theorem renderTree_tagless (path : List Nat) (level : Nat) : ∀ (n : Node) (walk : Traversal),
    n.Everywhere (fun m => IsTagless m.content) → ∃ env',
      t.renderTree ⟨.standard, helpers⟩ settings path level n walk =
        .ok (n.mapContent id, ⟨env', walk.pending⟩)
  | ⟨content, children, origin, uuid, cursor⟩, ⟨env, pending⟩, h => by
    have hrun := runContent_tagless t helpers settings h.self level origin env
    obtain ⟨env₂, hbelow⟩ :=
      renderChildren_tagless path 0 (level + 1) children ⟨_, pending⟩ h.children
    refine ⟨env₂, ?_⟩
    rw [Template.renderTree, Walking.bind_apply, visit_eq, hrun]
    dsimp only
    rw [Pending.ofNode, if_pos List.isEmpty_nil, List.append_nil, Walking.bind_apply]
    dsimp only [List.length_nil]
    rw [hbelow]
    rfl

theorem renderChildren_tagless (path : List Nat) (position level : Nat) : ∀ (ns : List Node)
    (walk : Traversal), (∀ n ∈ ns, n.Everywhere (fun m => IsTagless m.content)) → ∃ env',
      t.renderChildren ⟨.standard, helpers⟩ settings path position level ns walk =
        .ok (mapContents id ns, ⟨env', walk.pending⟩)
  | [], walk, _ => ⟨walk.env, rfl⟩
  | n :: ns, walk, h => by
    rw [List.forall_mem_cons] at h
    obtain ⟨env₁, hfirst⟩ := renderTree_tagless (path ++ [position]) level n walk h.1
    obtain ⟨env₂, hothers⟩ :=
      renderChildren_tagless path (position + 1) level ns ⟨env₁, walk.pending⟩ h.2
    refine ⟨env₂, ?_⟩
    rw [Template.renderChildren, Walking.bind_apply, hfirst]
    dsimp only
    rw [Walking.bind_apply, hothers]
    rfl

end

end Walk

/-- **A template without tags and cursor marks renders to its own tree with trimmed contents**,
whatever the helpers and the scene are: to the tree of the root, or to those below it where the root
is left out. -/
theorem render_of_static {t : Template} (h : t.root.Everywhere IsStatic) (helpers : Helpers)
    (scene : Scene) :
    t.render ⟨.standard, helpers⟩ scene =
      .ok (if t.includingParent then [t.root.mapContent trimmed]
        else (t.root.mapContent trimmed).children) := by
  have hunmarked : t.root.Everywhere (fun m => IsUnmarked m.content.toList) :=
    fun path m hm => (h path m hm).unmarked
  obtain ⟨env, hroot⟩ := renderTree_tagless t helpers scene.settings [0] 0 t.root
    ⟨Environment.empty.bindScene scene, []⟩ fun path m hm => (h path m hm).tagless
  have hforest : t.renderForest ⟨.standard, helpers⟩ scene =
      .ok (if t.includingParent then [t.root.mapContent id]
        else (t.root.mapContent id).children) := by
    unfold Template.renderForest Template.renderRoot
    simp only [hroot, bind, Except.bind, pure, Except.pure, settle_nil, List.append_nil]
    split <;> rfl
  rw [Template.render, hforest]
  show Except.ok (finishAll _) = _
  obtain ⟨⟨content, children, origin, uuid, cursor⟩, name, includingParent, access, page, texts⟩
    := t
  cases includingParent with
  | true => exact congrArg Except.ok (congrArg ([·]) (finish_mapContent _ hunmarked))
  | false => exact congrArg Except.ok (finishAll_mapContents _ hunmarked.children)

/-- A template of two nodes below a root that is rendered, with single backticks and blanks. -/
def plainTemplate : Template :=
  ⟨{ content := "a ", origin := some "r"
     children := [{ content := "\t`b` `", children := [{ content := " ", uuid := some "u" }] }] },
    "t", true, .name, barePage, .empty⟩

theorem render_of_static_plain : plainTemplate.root.Everywhere IsStatic ∧
    plainTemplate.render ⟨.standard, .empty⟩ bareScene =
      .ok [{ content := "a", origin := some "r"
             children := [{ content := "`b` `", children := [{ content := "" }] }] }] := by
  have hstatic : plainTemplate.root.Everywhere IsStatic := by
    refine everywhere_iff.mpr ⟨⟨by decide +kernel, by decide +kernel⟩,
      List.forall_mem_singleton.mpr ?_⟩
    refine everywhere_iff.mpr ⟨⟨by decide +kernel, by decide +kernel⟩,
      List.forall_mem_singleton.mpr ?_⟩
    exact everywhere_iff.mpr ⟨⟨by decide +kernel, by decide +kernel⟩, nofun⟩
  refine ⟨hstatic, (render_of_static hstatic .empty bareScene).trans ?_⟩
  cbv

end Stencil
