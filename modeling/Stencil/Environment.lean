import Stencil.Failure
import Stencil.Value.View

/-!
# Environments

The variables that a render sees: reserved names, which scripts cannot bind, and scopes around one
scope that lasts for the whole render.

* `Environment.get?` looks a name up from the innermost scope outwards, reserved names last.
* `Environment.assign` changes the nearest binding, or binds in the scope of the render.
* `Environment.declare` binds in the innermost scope.
* `Environment.push` opens a scope and `Environment.pop?` closes the innermost; the scope of the
  render is never closed.
-/

namespace Stencil

/-- The variables of one scope. -/
abbrev Scope := Dictionary Value

/-- The variables of a render. -/
structure Environment where
  /-- The reserved names. -/
  globals : Scope
  /-- The open scopes, innermost first. -/
  inner : List Scope
  /-- The scope of the whole render. -/
  base : Scope

namespace Environment

/-- The environment that binds nothing. -/
def empty : Environment := ⟨.empty, [], .empty⟩

instance : Inhabited Environment := ⟨empty⟩

/-- All scopes, innermost first. -/
def scopes (e : Environment) : List Scope := e.inner ++ [e.base]

/-- The value of a name in the nearest of some scopes that binds it. -/
def find? (name : String) : List Scope → Option Value
  | [] => none
  | scope :: rest => (scope.get? name).or (find? name rest)

/-- The value of a name. -/
def get? (e : Environment) (name : String) : Option Value :=
  (find? name e.scopes).or (e.globals.get? name)

/-- Binds a reserved name. -/
def bindGlobal (e : Environment) (name : String) (v : Value) : Environment :=
  { e with globals := e.globals.insert name v }

/-- Opens a scope. -/
def push (e : Environment) : Environment := { e with inner := .empty :: e.inner }

/-- Closes the innermost scope and gives its variables. -/
def pop? (e : Environment) : Option (Scope × Environment) :=
  match e.inner with
  | [] => none
  | scope :: rest => some (scope, { e with inner := rest })

/-- The environment with the innermost scope closed. -/
def pop (e : Environment) : Environment := { e with inner := e.inner.tail }

/-- Whether scripts cannot bind a name. -/
def isReserved (name : String) : Bool := hostNames.contains name

/-- Changes the nearest of some scopes that binds a name. -/
def update? (name : String) (v : Value) : List Scope → Option (List Scope)
  | [] => none
  | scope :: rest =>
    if scope.contains name then some (scope.insert name v :: rest)
    else (update? name v rest).map (scope :: ·)

/-- Changes the nearest binding of a name, or binds it for the whole render. -/
def assign (e : Environment) (name : String) (v : Value) : Except EvalError Environment :=
  if isReserved name then .error (.readOnly name)
  else
    match update? name v e.inner with
    | some inner => .ok { e with inner }
    | none => .ok { e with base := e.base.insert name v }

/-- Binds a name in the innermost scope. -/
def declare (e : Environment) (name : String) (v : Value) : Except EvalError Environment :=
  if isReserved name then .error (.readOnly name)
  else
    match e.inner with
    | [] => .ok { e with base := e.base.insert name v }
    | scope :: rest => .ok { e with inner := scope.insert name v :: rest }

/-- Binds the reserved names to what a render sees, apart from the part being rendered. -/
def bindScene (e : Environment) (s : Scene) : Environment :=
  [("config", s.settings.toValue), ("page", s.page.toValue), ("block", s.block.toValue),
    ("args", .args s.args), ("template", s.template.toValue)].foldl
      (fun e entry => e.bindGlobal entry.1 entry.2) e

/-- Binds the name for the part being rendered. -/
def bindNode (e : Environment) (s : SelfView) : Environment := e.bindGlobal "self" s.toValue

end Environment

end Stencil
