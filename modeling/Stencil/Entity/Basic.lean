import Stencil.Entity.Property

/-!
# Pages and blocks

What a store holds.

* `Page` and `Block`; a block carries a copy of its page.
* `Children` are either all there or only counted.
-/

namespace Stencil

/-- Children that are all there, or only their number. -/
inductive Children (α : Type) where
  | expanded (items : List α)
  | counted (number : Nat)
  deriving Repr, DecidableEq

/-- How many children there are. -/
def Children.size {α : Type} : Children α → Nat
  | .expanded items => items.length
  | .counted number => number

/-- The children that are there. -/
def Children.items {α : Type} : Children α → List α
  | .expanded items => items
  | .counted _ => []

instance {α : Type} : Inhabited (Children α) := ⟨.expanded []⟩

/-- A page. -/
structure Page where
  id : Int
  uuid : String
  /-- The name for look-ups. -/
  name : String
  /-- The name as written. -/
  title : String
  /-- The date of a journal page as one number. -/
  journalDay : Option Int := none
  properties : Properties := .empty
  deriving Repr, DecidableEq, Inhabited

/-- A block. -/
structure Block where
  id : Int
  uuid : String
  content : String
  properties : Properties := .empty
  page : Page
  /-- The number of the parent block. -/
  parent : Option Int := none
  /-- The number of the block before this one: its sibling, or its parent for a first child. -/
  left : Option Int := none
  children : Children Block := .expanded []

instance : Inhabited Block := ⟨{ id := 0, uuid := "", content := "", page := default }⟩

/-- The property of a block with a name, in any case. -/
def Block.property? (b : Block) (name : String) : Option PropertyValue := b.properties.find? name

mutual

/-- A block and all blocks below it, parents first. -/
def Block.withDescendants : Block → List Block
  | ⟨id, uuid, content, properties, page, parent, left, .expanded items⟩ =>
    ⟨id, uuid, content, properties, page, parent, left, .expanded items⟩ :: Block.flatten items
  | b => [b]

/-- All blocks of a forest, parents first. -/
def Block.flatten : List Block → List Block
  | [] => []
  | b :: bs => b.withDescendants ++ Block.flatten bs

end

end Stencil
