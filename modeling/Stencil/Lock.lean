/-!
# Render locks

A destination that is being rendered into is locked, so that no second render into it starts before
the first has ended.
-/

namespace Stencil

/-- The destinations that are locked. -/
structure Locks where
  held : List String := []
  deriving Repr, DecidableEq

namespace Locks

/-- No locks. -/
def empty : Locks := {}

/-- Whether a destination is locked. -/
def isLocked (l : Locks) (key : String) : Bool := l.held.contains key

/-- Locks a destination, unless it is locked already. -/
def acquire? (l : Locks) (key : String) : Option Locks :=
  if l.isLocked key then none else some ⟨key :: l.held⟩

/-- Unlocks a destination. -/
def release (l : Locks) (key : String) : Locks := ⟨l.held.filter (· ≠ key)⟩

end Locks

end Stencil
