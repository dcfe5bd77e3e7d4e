import Stencil.Failure
import Stencil.Outline.Node
import Stencil.Value.Basic

/-!
# Effects

What the code of a node asks for besides its text.

* `Effects` are an identifier for the node, nodes to put below it and nodes to put after it.
* `Builtin` are the functions that ask for them; `Builtin.run` adds to the effects.
-/

namespace Stencil

/-- What the code of a node asks for. -/
structure Effects where
  /-- The identifier that the node has to have. -/
  uuid : Option String := none
  /-- Nodes to put before the children of the node. -/
  spawned : List Node := []
  /-- Nodes to put after the node. -/
  appended : List Node := []

instance : Inhabited Effects := ⟨{}⟩

/-- The text that marks the place of the cursor. -/
def cursorMark : List Char := ['\x01', '\x02']

mutual

/-- The nodes of a value: none for null, those of its items for a list, one with its text for any
other. -/
def Value.toNodes : Value → List Node
  | .null => []
  | .list items => Value.allNodes items
  | v => [{ content := v.display }]

/-- The nodes of values in order. -/
def Value.allNodes : List Value → List Node
  | [] => []
  | v :: vs => v.toNodes ++ Value.allNodes vs

end

/-- The functions with effects. -/
inductive Builtin where
  | cursor | setUuid | spawn | append
  deriving Repr, DecidableEq

namespace Builtin

/-- The name of a function with effects. -/
def name : Builtin → String
  | .cursor => "cursor"
  | .setUuid => "set_uuid"
  | .spawn => "spawn"
  | .append => "append"

/-- All functions with effects. -/
def all : List Builtin := [.cursor, .setUuid, .spawn, .append]

/-- The function with a name. -/
def ofName? (name : String) : Option Builtin := all.find? fun b => b.name = name

/-- Calls a function. -/
def run (b : Builtin) (args : List Value) (s : Effects) : Except EvalError (Value × Effects) :=
  match b with
  | .cursor => .ok (.text (String.ofList cursorMark), s)
  | .setUuid =>
    let id := trimmed ((args.head?.map Value.display).getD "")
    if id.isEmpty then .error (.helper b.name "expected a non-empty id")
    else .ok (.null, { s with uuid := some id })
  | .spawn => .ok (.null, { s with spawned := s.spawned ++ Value.allNodes args })
  | .append => .ok (.null, { s with appended := s.appended ++ Value.allNodes args })

end Builtin

end Stencil
