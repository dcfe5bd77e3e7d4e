import Stencil.Graph.Document
import Stencil.Store.Basic

/-!
# Graphs as stores

A graph that was read from a document, and what has been inserted below its blocks since. Insertions
are kept apart from the graph, so later look-ups find the graph as it was read.
-/

namespace Stencil

/-- A graph and the nodes inserted into it by destination. -/
structure WorkingGraph where
  graph : Graph
  inserted : Dictionary (List Node) := .empty

namespace WorkingGraph

/-- The page with a name, in any letter case. -/
def page? (s : WorkingGraph) (name : String) : Option PageTree :=
  s.graph.find? fun p => p.page.name == lowered (trimmed name)

/-- The block with an identifier. -/
def findBlock? (s : WorkingGraph) (uuid : String) : Option Block :=
  s.graph.blocks.find? fun b => b.uuid == uuid

/-- Whether a block carries a template name. -/
def carries (name : String) (b : Block) : Bool :=
  match b.property? "template" with
  | some v => asciiLowered v.text == asciiLowered (trimmed name)
  | none => false

/-- The first block that carries a template name. -/
def findTemplate? (s : WorkingGraph) (name : String) : Option Block :=
  s.graph.blocks.find? (carries name)

/-- The nodes inserted below a block so far. -/
def insertedAt (s : WorkingGraph) (uuid : String) : List Node := (s.inserted.get? uuid).getD []

/-- Adds nodes to those inserted below a block. -/
def add (s : WorkingGraph) (uuid : String) (nodes : List Node) : WorkingGraph :=
  { s with inserted := s.inserted.insert uuid (s.insertedAt uuid ++ nodes) }

/-- The calls of a graph, none of which fails. -/
def calls : Store WorkingGraph where
  page s name := .ok ((s.page? name).map (·.page))
  pageBlocks s name := .ok (((s.page? name).map (·.blocks)).getD [])
  block s uuid := .ok (s.findBlock? uuid)
  templateBlock s name := .ok (s.findTemplate? name)
  insert s uuid nodes := .ok (s.add uuid nodes)

end WorkingGraph

end Stencil
