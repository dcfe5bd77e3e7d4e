import Stencil.Eval.Program
import Stencil.Render.Cursor
import Stencil.Render.Pending
import Stencil.Template

/-!
# Rendering

The nodes of a template are compiled and run in the order in which they are read, each in the
environment that the one before it left.

* `Traversal` is what the nodes rendered so far leave behind.
* `Template.renderTree` renders a node and all below it.
* `Template.renderForest` is the forest with all appended nodes in place, and `Template.render` the
  forest as it is inserted.
-/

namespace Stencil

/-- Why a template could not be rendered. -/
inductive RenderError where
  | compile (template : String) (error : SyntaxError)
  | execution (template : String) (failure : Failure)

namespace RenderError

/-- The template that failed. -/
def template : RenderError → String
  | .compile name _ => name
  | .execution name _ => name

/-- The wording of an error. -/
def message : RenderError → String
  | .compile name error => "template '" ++ name ++ "' failed to compile: " ++ error.message
  | .execution name failure => "template '" ++ name ++ "' failed: " ++ failure.message

/-- The remark that tells which template failed. -/
def note (e : RenderError) : String := "while rendering template '" ++ e.template ++ "'"

end RenderError

/-- What rendering needs besides the template and its scene. -/
structure Renderer where
  tags : TagSet
  helpers : Helpers

/-- What the nodes rendered so far leave behind. -/
structure Traversal where
  env : Environment
  pending : List Pending := []

/-- A computation on what was left behind, which may fail. -/
abbrev Walking (α : Type) := StateT Traversal (Except RenderError) α

namespace Template

/-- Compiles and runs the content of a node. -/
def runContent (t : Template) (r : Renderer) (settings : Settings) (level : Nat) (content : String)
    (origin : Option String) (env : Environment) : Except RenderError (Rendered × Environment) :=
  match Program.compile r.tags content 0 with
  | .error error => .error (.compile t.name error)
  | .ok program =>
    let env := env.bindNode ⟨origin, t.page, level⟩
    match program.execute r.helpers settings env with
    | (.error failure, _) => .error (.execution t.name failure)
    | (.ok rendered, env) => .ok (rendered, env)

/-- Runs the content of the node at a path, and remembers the nodes that are to follow it. -/
def visit (t : Template) (r : Renderer) (settings : Settings) (path : List Nat) (level : Nat)
    (content : String) (origin : Option String) : Walking Rendered := fun walk => do
  let (rendered, env) ← t.runContent r settings level content origin walk.env
  let appended := rendered.effects.appended
  let pending := if appended.isEmpty then walk.pending else walk.pending ++ [⟨path, appended⟩]
  return (rendered, { env, pending })

mutual

/-- Renders the node at a path and all below it. Spawned nodes come before the children. -/
def renderTree (t : Template) (r : Renderer) (settings : Settings) (path : List Nat) (level : Nat) :
    Node → Walking Node
  | ⟨content, children, origin, _, _⟩ => do
    let rendered ← t.visit r settings path level content origin
    let spawned := rendered.effects.spawned
    let children ← renderChildren t r settings path spawned.length (level + 1) children
    return { content := rendered.text, children := spawned ++ children, origin
             uuid := rendered.effects.uuid }

/-- Renders nodes that are children of the node at a path, from a position on. -/
def renderChildren (t : Template) (r : Renderer) (settings : Settings) (path : List Nat)
    (position level : Nat) : List Node → Walking (List Node)
  | [] => pure []
  | n :: ns => do
    let first ← renderTree t r settings (path ++ [position]) level n
    return first :: (← renderChildren t r settings path (position + 1) level ns)

end

/-- The forest of the root and what follows it, with all appended nodes in place. -/
def renderRoot (t : Template) (r : Renderer) (scene : Scene) : Except RenderError (List Node) := do
  let start : Traversal := { env := Environment.empty.bindScene scene }
  let (root, walk) ← t.renderTree r scene.settings [0] 0 t.root start
  return settle walk.pending [root]

/-- The forest of a template: without the root itself, but with its children and what follows it,
where the template leaves out its root. -/
def renderForest (t : Template) (r : Renderer) (scene : Scene) :
    Except RenderError (List Node) := do
  let forest ← t.renderRoot r scene
  if t.includingParent then return forest
  else
    match forest with
    | [] => return []
    | root :: rest => return root.children ++ rest

/-- The forest of a template as it is inserted. -/
def render (t : Template) (r : Renderer) (scene : Scene) : Except RenderError (List Node) := do
  return Node.finishAll (← t.renderForest r scene)

end Template

end Stencil
