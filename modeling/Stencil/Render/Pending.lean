import Stencil.Outline.Node

/-!
# Pending insertions

Nodes that are to follow another node are remembered with the path of that node, and put into the
forest when it is complete.

* `insertAfter` puts nodes after the node at a path.
* `shiftPath` is the path of a node after such an insertion.
* `settle` makes all insertions in the order in which they were remembered.
-/

namespace Stencil

/-- Nodes to put after the node at a path. -/
structure Pending where
  path : List Nat
  nodes : List Node

/-- Puts nodes after the sibling at a position. -/
def insertAt (position : Nat) (nodes siblings : List Node) : List Node :=
  siblings.take (position + 1) ++ nodes ++ siblings.drop (position + 1)

/-- Puts nodes after the node at a path of a forest; a path that leads nowhere changes nothing. -/
def insertAfter (nodes : List Node) : List Nat → List Node → List Node
  | [], forest => forest
  | [position], forest => insertAt position nodes forest
  | position :: path, forest =>
    forest.modify position fun n => { n with children := insertAfter nodes path n.children }

/-- The path of a node once `count` nodes were put after the node at `target`: only what follows
that node among its siblings moves. -/
def shiftPath (count : Nat) : List Nat → List Nat → List Nat
  | [position], i :: rest => if position < i then (i + count) :: rest else i :: rest
  | position :: target, i :: rest =>
    if position = i then i :: shiftPath count target rest else i :: rest
  | _, path => path

/-- An insertion that is still to be made, after another one was made. -/
def Pending.after (earlier p : Pending) : Pending :=
  { p with path := shiftPath earlier.nodes.length earlier.path p.path }

/-- Makes insertions in order. -/
def settle : List Pending → List Node → List Node
  | [], forest => forest
  | p :: ps, forest => settle (ps.map p.after) (insertAfter p.nodes p.path forest)
termination_by ps => ps.length

end Stencil
