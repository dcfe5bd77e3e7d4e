import Stencil.Lock
import Stencil.Render.Basic
import Stencil.Store.Basic
import Stencil.Template.Reference

/-!
# Invocations

An invocation renders a template of a store into a block of the store. The block is locked from the
first step to the last, whatever the outcome.

* `Invocation.resolve` finds a template.
* `Invocation.nodesFor` finds out what is to be inserted, without changing anything.
* `Invocation.invoke` does all of it.
-/

namespace Stencil

/-- What was looked for in a store. -/
inductive Sought where
  | page | template | block
  deriving Repr, DecidableEq

/-- The word for what was looked for. -/
def Sought.word : Sought → String
  | .page => "page"
  | .template => "template"
  | .block => "block"

/-- Why an invocation failed. -/
inductive InvocationError where
  | notFound (what : Sought) (name : String)
  | render (error : RenderError)
  /-- A call of the store failed. -/
  | store (message : String)

/-- The wording of an error. -/
def InvocationError.message : InvocationError → String
  | .notFound what name => what.word ++ " not found: " ++ name
  | .render error => error.message
  | .store message => "store error: " ++ message

/-- How an invocation ended. -/
inductive Outcome where
  | rendered (nodes : List Node)
  /-- The template had nothing to render. -/
  | empty
  /-- The destination was locked. -/
  | skipped

/-- What invocations have in common. -/
structure Invocation (σ : Type) where
  store : Store σ
  renderer : Renderer
  settings : Settings

/-- What invocations share and change. -/
structure Shared (σ : Type) where
  store : σ
  locks : Locks := .empty

namespace Invocation

variable {σ : Type}

/-- The result of a call of the store. -/
def called {α : Type} (r : Except String α) : Except InvocationError α := r.mapError .store

/-- The result of a look-up in the store, which has to find something. -/
def found {α : Type} (what : Sought) (name : String) (r : Except String (Option α)) :
    Except InvocationError α := do
  match ← called r with
  | some a => .ok a
  | none => .error (.notFound what name)

/-- Finds a template. -/
def resolve (i : Invocation σ) (s : σ) : TemplateReference → Except InvocationError Template
  | .page name => do
    let page ← found .page name (i.store.page s name)
    return .ofSource (.ofPage page (← called (i.store.pageBlocks s name)))
  | .named name => do
    return .ofSource (.ofBlock (← found .template name (i.store.templateBlock s name)) .name)
  | .block uuid => do
    return .ofSource (.ofBlock (← found .block uuid (i.store.block s uuid)) .reference)

/-- The nodes that a template gives for a destination; none at all if the template is empty. -/
def nodesFor (i : Invocation σ) (s : σ) (template : TemplateReference) (destination : String)
    (args : List String) : Except InvocationError (Option (List Node)) := do
  let target ← found .block destination (i.store.block s destination)
  let template ← i.resolve s template
  if template.isEmpty then return none
  let scene := Scene.ofDestination i.settings target (.ofRaw args) template.view
  return some (← (template.render i.renderer scene).mapError .render)

/-- Renders a template for a destination and inserts the nodes. -/
def renderInto (i : Invocation σ) (s : σ) (template : TemplateReference) (destination : String)
    (args : List String) : Except InvocationError (Outcome × σ) := do
  match ← i.nodesFor s template destination args with
  | none => return (.empty, s)
  | some nodes => return (.rendered nodes, ← called (i.store.insert s destination nodes))

/-- Renders a template into a destination, unless that is locked. -/
def invoke (i : Invocation σ) (template : TemplateReference) (destination : String)
    (args : List String) (shared : Shared σ) : Except InvocationError Outcome × Shared σ :=
  match shared.locks.acquire? destination with
  | none => (.ok .skipped, shared)
  | some locks =>
    match i.renderInto shared.store template destination args with
    | .ok (outcome, store) => (.ok outcome, ⟨store, locks.release destination⟩)
    | .error error => (.error error, { shared with locks := locks.release destination })

end Invocation

end Stencil
