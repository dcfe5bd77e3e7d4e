import Stencil.View.Page

/-!
# Views of blocks

What templates see of a block and the blocks below it.

* `BlockView.ofBlock` makes the view of a block, which is at level zero.
-/

namespace Stencil

/-- What templates see of a block. Its neighbours are given by their numbers only. -/
structure BlockView where
  id : Int
  uuid : String
  content : String
  texts : Dictionary String
  references : Dictionary (List String)
  page : PageView
  parent : Option Int
  /-- The sibling before the block. -/
  previous : Option Int
  /-- The depth below the block the view was made for. -/
  level : Nat
  children : Children BlockView

namespace BlockView

/-- The sibling before a block: what is left of it, unless that is its parent. -/
def previousOf (left parent : Option Int) : Option Int := if left = parent then none else left

mutual

/-- The view of a block at a level. -/
def ofBlockAt (level : Nat) : Block → BlockView
  | ⟨id, uuid, content, properties, page, parent, left, children⟩ =>
    { id, uuid, content, level, parent
      texts := properties.texts
      references := properties.references
      page := .ofPage page
      previous := previousOf left parent
      children := match children with
        | .expanded items => .expanded (ofBlocksAt (level + 1) items)
        | .counted number => .counted number }

/-- The views of blocks at a level. -/
def ofBlocksAt (level : Nat) : List Block → List BlockView
  | [] => []
  | b :: bs => ofBlockAt level b :: ofBlocksAt level bs

end

/-- The view of a block. -/
def ofBlock (b : Block) : BlockView := ofBlockAt 0 b

end BlockView

end Stencil
