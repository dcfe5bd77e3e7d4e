import Stencil.Entity.Basic
import Stencil.Outline.Node

/-!
# Stores

What rendering needs of the place where pages and blocks are kept. Each call may fail with a message
of the store's own; only `insert` changes the store.
-/

namespace Stencil

/-- The calls of a store whose contents are of the type `σ`. -/
structure Store (σ : Type) where
  /-- The page with a name. -/
  page : σ → String → Except String (Option Page)
  /-- The blocks at the top level of a page. -/
  pageBlocks : σ → String → Except String (List Block)
  /-- The block with an identifier. -/
  block : σ → String → Except String (Option Block)
  /-- The block that carries a template name. -/
  templateBlock : σ → String → Except String (Option Block)
  /-- Puts nodes below the block with an identifier. -/
  insert : σ → String → List Node → Except String σ

end Stencil
