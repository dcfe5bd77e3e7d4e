import Stencil.Calendar.Iso
import Stencil.Entity.Basic
import Stencil.Entity.Namespace

/-!
# Views of pages

What templates see of a page.

* `PageView.ofPage` makes the view of a page.
-/

namespace Stencil

open Calendar

/-- What templates see of a page. -/
structure PageView where
  id : Int
  uuid : String
  name : String
  /-- The name in lower case. -/
  key : String
  path : Option Namespace
  /-- The date of a journal page. -/
  day : Option Date
  texts : Dictionary String
  references : Dictionary (List String)
  deriving DecidableEq

namespace PageView

/-- The name of a page to show. -/
def displayName (p : Page) : String := if p.title.isEmpty then p.name else p.title

/-- The view of a page. -/
def ofPage (p : Page) : PageView where
  id := p.id
  uuid := p.uuid
  name := displayName p
  key := lowered (displayName p)
  path := Namespace.ofName? (displayName p)
  day := p.journalDay.bind Date.ofJournalDay?
  texts := p.properties.texts
  references := p.properties.references

end PageView

end Stencil
