import Stencil.Helper.Standard
import Stencil.Invocation
import Stencil.Store.Graph

/-!
# Invocations in a graph

Renders within a graph that was just read, with the standard tags and helpers.
-/

namespace Stencil

/-- What invocations in a graph have in common. -/
def Invocation.inGraph (settings : Settings) : Invocation WorkingGraph where
  store := WorkingGraph.calls
  renderer := ⟨.standard, Helper.standard⟩
  settings

/-- Renders a template of a graph for a block of it, and gives the graph with the nodes that were
inserted. -/
def Graph.invoke (g : Graph) (settings : Settings) (template : TemplateReference)
    (destination : String) (args : List String) : Except InvocationError Outcome × WorkingGraph :=
  let (outcome, shared) :=
    (Invocation.inGraph settings).invoke template destination args ⟨⟨g, .empty⟩, .empty⟩
  (outcome, shared.store)

end Stencil
