import Mathlib
import Stencil.Proofs.Eval.Effects
import Stencil.Proofs.Render.Cursor
import Stencil.Proofs.Render.Forest

/-!
# Rendered nodes are finished

Rendering makes nodes without cursors, and finishes them when the forest is complete.

* `Effects.IsSound`: what the code of a node asks for are identifiers that can be forced and nodes
  that are not finished; `isSound_class` makes it a class of effects.
* `everywhere_settle` and `everywhere_renderTree`: all nodes of the forest are not finished yet.
* `finished_exactly`: finishing takes the marks out of a text and puts the cursors where they stood,
  and every node of a rendered forest is finished.
-/

namespace Stencil

open Node

/-! ## What code asks for -/

mutual

/-- The nodes of a value have a content and nothing else. -/
theorem exists_content_of_mem_toNodes : ∀ (v : Value) (n : Node), n ∈ v.toNodes →
    ∃ content, n = { content }
  | .null, _, hn => absurd hn List.not_mem_nil
  | .list items, n, hn => exists_content_of_mem_allNodes items n hn
  | .number _, _, hn | .flag _, _, hn | .text _, _, hn | .record _ _, _, hn | .date _, _, hn
  | .args _, _, hn => ⟨_, List.mem_singleton.mp hn⟩

theorem exists_content_of_mem_allNodes : ∀ (vs : List Value) (n : Node),
    n ∈ Value.allNodes vs → ∃ content, n = { content }
  | [], _, hn => absurd hn List.not_mem_nil
  | v :: vs, n, hn => by
    rw [Value.allNodes] at hn
    rcases List.mem_append.mp hn with hn | hn
    · exact exists_content_of_mem_toNodes v n hn
    · exact exists_content_of_mem_allNodes vs n hn

end

/-- What holds of everything that the code of a node asks for. -/
structure Effects.IsSound (s : Effects) : Prop where
  uuid : ∀ id ∈ s.uuid, IsIdentifier id
  spawned : ∀ n ∈ s.spawned, n.Everywhere IsUnfinished
  appended : ∀ n ∈ s.appended, n.Everywhere IsUnfinished

theorem isIdentifier_trimmed {s : String} (h : (trimmed s).isEmpty = false) :
    IsIdentifier (trimmed s) := by
  refine ⟨eq_false_of_ne_true fun hblank => ?_, ?_⟩
  · rw [isBlankText, toList_trimmed, ← Text.trim_eq_nil_iff, Text.trim_trim] at hblank
    rw [trimmed, hblank] at h
    exact Bool.false_ne_true h.symm
  · rw [trimmed, toList_trimmed, Text.trim_trim, trimmed]

theorem everywhere_allNodes (vs : List Value) :
    ∀ n ∈ Value.allNodes vs, n.Everywhere IsUnfinished := by
  intro n hn
  obtain ⟨content, rfl⟩ := exists_content_of_mem_allNodes vs n hn
  exact everywhere_iff.mpr ⟨⟨rfl, nofun⟩, nofun⟩

theorem Effects.isSound_empty : ({} : Effects).IsSound := ⟨nofun, nofun, nofun⟩

theorem Effects.isSound_class : Effects.Class Effects.IsSound where
  empty := isSound_empty
  append {s d} hs hd := by
    refine ⟨fun id hid => ?_, List.forall_mem_append.mpr ⟨hs.spawned, hd.spawned⟩,
      List.forall_mem_append.mpr ⟨hs.appended, hd.appended⟩⟩
    rcases Option.or_eq_some_iff.mp hid with hid | ⟨-, hid⟩
    · exact hd.uuid id hid
    · exact hs.uuid id hid
  adds b args := by
    cases b with
    | cursor => exact { isSound_empty with }
    | setUuid =>
      simp only [Builtin.adds]
      split
      · exact isSound_empty
      · next hid =>
        refine { isSound_empty with uuid := fun id hmem => ?_ }
        rw [← Option.some.inj hmem]
        exact isIdentifier_trimmed (eq_false_of_ne_true hid)
    | spawn => exact { isSound_empty with spawned := everywhere_allNodes args }
    | append => exact { isSound_empty with appended := everywhere_allNodes args }

/-! ## Insertions -/

section Insertions

variable {P : Node → Prop} (hP : ∀ (n : Node) (children : List Node), P n → P { n with children })
include hP

theorem everywhere_insertAfter {nodes : List Node} (hnodes : ∀ n ∈ nodes, n.Everywhere P)
    (path : List Nat) (forest : List Node) (hforest : ∀ n ∈ forest, n.Everywhere P) :
    ∀ n ∈ insertAfter nodes path forest, n.Everywhere P := by
  fun_induction insertAfter nodes path forest with
  | case1 forest => exact hforest
  | case2 position forest =>
    unfold insertAt
    simp only [List.forall_mem_append]
    exact ⟨⟨fun n hn => hforest n (List.mem_of_mem_take hn), hnodes⟩,
      fun n hn => hforest n (List.mem_of_mem_drop hn)⟩
  | case3 position path forest _ ih =>
    intro n hn
    obtain ⟨i, hi⟩ := List.mem_iff_getElem?.mp hn
    rw [List.getElem?_modify, Option.map_eq_map, Option.map_eq_some_iff] at hi
    obtain ⟨m, hm, rfl⟩ := hi
    have hall := hforest m (List.mem_of_getElem? hm)
    split
    · exact everywhere_iff.mpr ⟨hP m _ hall.self, ih m hall.children⟩
    · exact hall

theorem everywhere_settle : ∀ (ps : List Pending) (forest : List Node),
    (∀ p ∈ ps, ∀ n ∈ p.nodes, n.Everywhere P) → (∀ n ∈ forest, n.Everywhere P) →
      ∀ n ∈ settle ps forest, n.Everywhere P
  | [], forest, _, hforest => by
    rw [settle_nil]
    exact hforest
  | p :: ps, forest, hps, hforest => by
    obtain ⟨hp, hrest⟩ := List.forall_mem_cons.mp hps
    rw [settle_cons]
    refine everywhere_settle (ps.map p.after) _ (fun q hq => ?_)
      (everywhere_insertAfter hP hp p.path forest hforest)
    obtain ⟨q, hmem, rfl⟩ := List.mem_map.mp hq
    exact hrest q hmem
termination_by ps => ps.length

end Insertions

/-! ## Rendering -/

section Walk

variable {t : Template} {r : Renderer} {settings : Settings}

theorem isSound_of_runContent {level : Nat} {content : String} {origin : Option String}
    {env env' : Environment} {rendered : Rendered}
    (h : t.runContent r settings level content origin env = .ok (rendered, env')) :
    rendered.effects.IsSound := by
  unfold Template.runContent at h
  split at h
  · exact nomatch h
  · dsimp only at h
    split at h
    · exact nomatch h
    · next hexecute =>
      obtain ⟨rfl, -⟩ := Prod.mk.inj (Except.ok.inj h)
      exact execute_effects Effects.isSound_class hexecute

/-- Whether all nodes that are still to be inserted are unfinished. -/
def Traversal.IsSound (walk : Traversal) : Prop :=
  ∀ p ∈ walk.pending, ∀ n ∈ p.nodes, n.Everywhere IsUnfinished

mutual

theorem everywhere_renderTree (path : List Nat) (level : Nat) :
    ∀ (n : Node) {walk walk' : Traversal} {out : Node},
      t.renderTree r settings path level n walk = .ok (out, walk') → walk.IsSound →
      out.Everywhere IsUnfinished ∧ walk'.IsSound
  | ⟨content, children, origin, uuid, cursor⟩, ⟨env, pending⟩, walk', out, h, hwalk => by
    rw [Template.renderTree, Walking.bind_apply, visit_eq] at h
    cases hrun : t.runContent r settings level content origin env with
    | error e =>
      rw [hrun] at h
      exact nomatch h
    | ok result =>
      obtain ⟨rendered, env₁⟩ := result
      have hsound := isSound_of_runContent hrun
      have hpending : Traversal.IsSound
          ⟨env₁, pending ++ Pending.ofNode path rendered.effects.appended⟩ := by
        refine List.forall_mem_append.mpr ⟨hwalk, fun p hp => ?_⟩
        unfold Pending.ofNode at hp
        split at hp
        · exact absurd hp List.not_mem_nil
        · rw [List.mem_singleton.mp hp]
          exact hsound.appended
      simp only [hrun] at h
      rw [Walking.bind_apply] at h
      split at h
      · exact nomatch h
      · next below walk₁ hbelow =>
        obtain ⟨hchildren, hwalk₁⟩ := everywhere_renderChildren path _ _ children hbelow hpending
        obtain ⟨rfl, rfl⟩ := Prod.mk.inj (Except.ok.inj h)
        exact ⟨everywhere_iff.mpr ⟨⟨rfl, hsound.uuid⟩,
          List.forall_mem_append.mpr ⟨hsound.spawned, hchildren⟩⟩, hwalk₁⟩

theorem everywhere_renderChildren (path : List Nat) (position level : Nat) : ∀ (ns : List Node)
    {walk walk' : Traversal} {out : List Node},
    t.renderChildren r settings path position level ns walk = .ok (out, walk') → walk.IsSound →
      (∀ n ∈ out, n.Everywhere IsUnfinished) ∧ walk'.IsSound
  | [], walk, walk', out, h, hwalk => by
    obtain ⟨rfl, rfl⟩ := Prod.mk.inj (Except.ok.inj h)
    exact ⟨nofun, hwalk⟩
  | n :: ns, walk, walk', out, h, hwalk => by
    rw [Template.renderChildren, Walking.bind_apply] at h
    split at h
    · exact nomatch h
    · next first walk₁ hfirst =>
      obtain ⟨hn, hwalk₁⟩ := everywhere_renderTree _ level n hfirst hwalk
      rw [Walking.bind_apply] at h
      split at h
      · exact nomatch h
      · next others walk₂ hothers =>
        obtain ⟨hns, hwalk₂⟩ := everywhere_renderChildren path _ level ns hothers hwalk₁
        obtain ⟨rfl, rfl⟩ := Prod.mk.inj (Except.ok.inj h)
        exact ⟨List.forall_mem_cons.mpr ⟨hn, hns⟩, hwalk₂⟩

end

/-- Before it is finished, no node of the forest of a template has a cursor. -/
theorem everywhere_renderForest {scene : Scene} {forest : List Node}
    (h : t.renderForest r scene = .ok forest) : ∀ n ∈ forest, n.Everywhere IsUnfinished := by
  obtain ⟨settled, hsettled, h⟩ := bind_eq_ok_iff.mp h
  obtain ⟨⟨root, walk⟩, hroot, hforest⟩ := bind_eq_ok_iff.mp hsettled
  obtain ⟨htree, hwalk⟩ := everywhere_renderTree [0] 0 t.root hroot nofun
  have hall : ∀ n ∈ settled, n.Everywhere IsUnfinished := by
    rw [← Except.ok.inj hforest]
    refine everywhere_settle (fun n _ hn => ⟨hn.cursor, hn.uuid⟩) _ _ hwalk ?_
    exact List.forall_mem_singleton.mpr htree
  cases hparent : t.includingParent with
  | true =>
    rw [hparent, if_pos rfl] at h
    rw [← Except.ok.inj h]
    exact hall
  | false =>
    rw [hparent, if_neg Bool.false_ne_true] at h
    cases settled with
    | nil => exact Except.ok.inj h ▸ hall
    | cons first rest =>
      rw [← Except.ok.inj h]
      obtain ⟨hfirst, hrest⟩ := List.forall_mem_cons.mp hall
      exact List.forall_mem_append.mpr ⟨hfirst.children, hrest⟩

end Walk

/-- **Cursors are placed exactly, and all rendered nodes are finished.** A text without marks, with
one and with two is trimmed once its marks are gone, and the cursors stand where the marks stood in
the text without them, moved with the trimming and kept inside. Every node of a rendered forest has
a trimmed content, two cursors at most, all of them inside the content, and no identifier or one
that is trimmed and not blank. -/
theorem finished_exactly :
    (∀ (a : List Char) (children : List Node) (origin uuid : Option String), IsUnmarked a →
      Node.finish ⟨String.ofList a, children, origin, uuid, []⟩ =
        ⟨String.ofList (Text.trim a), Node.finishAll children, origin, uuid, []⟩) ∧
    (∀ (a b : List Char) (children : List Node) (origin uuid : Option String),
      IsUnmarked a → IsUnmarked b →
      Node.finish ⟨String.ofList (a ++ cursorMark ++ b), children, origin, uuid, []⟩ =
        ⟨String.ofList (Text.trim (a ++ b)), Node.finishAll children, origin, uuid,
          [trimmedOffset (a ++ b) a.length]⟩) ∧
    (∀ (a b c : List Char) (children : List Node) (origin uuid : Option String),
      IsUnmarked a → IsUnmarked b →
      Node.finish ⟨String.ofList (a ++ cursorMark ++ b ++ cursorMark ++ c), children, origin, uuid,
          []⟩ =
        ⟨String.ofList (Text.trim (a ++ b ++ c)), Node.finishAll children, origin, uuid,
          [trimmedOffset (a ++ b ++ c) a.length,
            trimmedOffset (a ++ b ++ c) (a.length + b.length)]⟩ ∧
        trimmedOffset (a ++ b ++ c) a.length ≤
          trimmedOffset (a ++ b ++ c) (a.length + b.length)) ∧
    ∀ (t : Template) (r : Renderer) (scene : Scene) (nodes : List Node),
      t.render r scene = .ok nodes → ∀ n ∈ nodes, n.Everywhere IsFinished := by
  refine ⟨fun a children origin uuid ha => ?_, fun a b children origin uuid ha hb => ?_,
    fun a b c children origin uuid ha hb => ⟨?_, trimmedOffset_mono _ (Nat.le_add_right _ _)⟩,
    fun t r scene nodes h => ?_⟩
  · exact finish_of_takeCursors (takeCursors_none ha)
  · exact finish_of_takeCursors (takeCursors_one ha hb)
  · exact finish_of_takeCursors (takeCursors_two ha hb)
  · obtain ⟨forest, hforest, heq⟩ := bind_eq_ok_iff.mp h
    rw [← Except.ok.inj heq]
    exact everywhere_finishAll forest (everywhere_renderForest hforest)

/-- A page without properties. -/
def barePage : PageView := ⟨1, "p", "P", "p", none, none, .empty, .empty⟩

/-- A render without arguments into a block without content. -/
def bareScene : Scene where
  settings := { today := .epoch }
  page := barePage
  block := ⟨2, "b", "", .empty, .empty, barePage, none, none, 0, .expanded []⟩
  args := ⟨[], .empty⟩
  template := ⟨"t", false, "page", none, .empty⟩

/-- A page template with one node. -/
def pageTemplate (content : String) : Template :=
  ⟨{ content := "", children := [{ content }] }, "t", false, .page, barePage, .empty⟩

/-- A renderer with one pair of markers and without helpers. -/
def angleRenderer : Renderer :=
  ⟨.push .empty { openMark := "<", closeMark := ">" }, .empty⟩

theorem render_cursor : (pageTemplate " <cursor()>é").render angleRenderer bareScene =
    .ok [{ content := "é", cursor := [0] }] := by
  have hroot : Program.compile angleRenderer.tags "" 0 = .ok ⟨[], 0⟩ := by cbv
  have hnode : Program.compile angleRenderer.tags " <cursor()>é" 0 =
      .ok ⟨[.literal " ", .emit (.call (.identifier "cursor" ⟨2, 8⟩) [] ⟨2, 10⟩) false ⟨1, 11⟩,
        .literal "é"], 0⟩ := by
    cbv
  have hrunRoot (t : Template) (env : Environment) :
      t.runContent angleRenderer bareScene.settings 0 "" none env =
        .ok (⟨"", {}⟩, env.bindNode ⟨none, t.page, 0⟩) := by
    rw [Template.runContent, hroot]
    rfl
  have hrunNode (t : Template) (env : Environment) :
      t.runContent angleRenderer bareScene.settings 1 " <cursor()>é" none env =
        .ok (⟨" \x01\x02é", {}⟩, env.bindNode ⟨none, t.page, 1⟩) := by
    rw [Template.runContent, hnode]
    rfl
  unfold Template.render Template.renderForest Template.renderRoot pageTemplate
  simp only [Template.renderTree, Template.renderChildren, Walking.bind_apply, Walking.pure_apply,
    visit_eq, hrunRoot, hrunNode, Nat.zero_add]
  simp only [Pending.ofNode, List.isEmpty_nil, if_true, List.append_nil, bind, Except.bind,
    settle_nil]
  rfl

/-- A selection around a character between blanks, and a cursor that a script places. -/
theorem finished_exactly_selection :
    Node.finish ⟨String.ofList ([' '] ++ cursorMark ++ ['é'] ++ cursorMark ++ [' ']), [], none,
        none, []⟩ = ⟨String.ofList ['é'], [], none, none, [0, 1]⟩ ∧
      ∀ n ∈ [({ content := "é", cursor := [0] } : Node)], n.Everywhere IsFinished :=
  ⟨(finished_exactly.2.2.1 [' '] ['é'] [' '] [] none none (by decide) (by decide)).1,
    finished_exactly.2.2.2 _ angleRenderer bareScene _ render_cursor⟩

end Stencil
