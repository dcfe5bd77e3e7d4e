import Stencil.Arguments
import Stencil.Calendar.Iso
import Stencil.View.Block

/-!
# What a render sees

* `Settings` are the facts about the graph and the day.
* `TemplateView` is the template that is rendered, `SelfView` the part of it being rendered.
* `Scene` is everything together; `Scene.ofDestination` makes it for a block.
-/

namespace Stencil

open Calendar

/-- The facts that the host tells. -/
structure Settings where
  version : String := "0.1.0"
  graph : String := ""
  /-- The pattern for dates in links. -/
  dateFormat : String := "%b %-d, %Y"
  today : Date
  language : String := "en"
  deriving DecidableEq

/-- What templates see of themselves. -/
structure TemplateView where
  name : String
  includingParent : Bool
  /-- How the template was found. -/
  accessedVia : String
  uuid : Option String
  texts : Dictionary String
  deriving DecidableEq

/-- The part of the template that is being rendered. -/
structure SelfView where
  uuid : Option String
  page : PageView
  /-- The depth below the root of the template. -/
  level : Nat
  deriving DecidableEq

/-- Everything that one render sees. -/
structure Scene where
  settings : Settings
  page : PageView
  block : BlockView
  args : Arguments
  template : TemplateView

/-- The names that templates cannot bind. -/
def hostNames : List String := ["config", "page", "block", "args", "template", "self"]

/-- What a render into a block sees. -/
def Scene.ofDestination (settings : Settings) (destination : Block) (args : Arguments)
    (template : TemplateView) : Scene where
  settings
  page := .ofPage destination.page
  block := .ofBlock destination
  args
  template

end Stencil
