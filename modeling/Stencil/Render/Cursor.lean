import Stencil.Eval.Effects

/-!
# Cursors

Cursor marks leave the text of a node and become offsets into it.

* `Node.takeCursors` takes out two marks at most.
* `Node.tidy` trims the text, and the offsets with it.
* `Node.finish` does both to all nodes of a tree.
-/

namespace Stencil.Node

/-- Takes the first cursor mark out of the content. -/
def takeCursor (n : Node) : Node :=
  match Text.cutAt? cursorMark n.content.toList with
  | some (before, after) =>
    { n with content := String.ofList (before ++ after), cursor := n.cursor ++ [before.length] }
  | none => n

/-- Takes the first two cursor marks out of the content. -/
def takeCursors (n : Node) : Node := n.takeCursor.takeCursor

/-- Trims the content and moves the cursors with it. -/
def tidy (n : Node) : Node :=
  let cs := n.content.toList
  let leading := (cs.takeWhile Text.isBlank).length
  let content := Text.trim cs
  { n with
    content := String.ofList content
    cursor := n.cursor.map fun offset => min (offset - leading) content.length }

/-- The content and the cursors of a node as they are inserted. -/
def finishContent (n : Node) : Node := n.takeCursors.tidy

mutual

/-- A tree as it is inserted. -/
def finish : Node → Node
  | ⟨content, children, origin, uuid, cursor⟩ =>
    { finishContent ⟨content, [], origin, uuid, cursor⟩ with children := finishAll children }

/-- A forest as it is inserted. -/
def finishAll : List Node → List Node
  | [] => []
  | n :: ns => n.finish :: finishAll ns

end

end Stencil.Node
