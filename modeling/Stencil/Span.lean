/-!
# Spans

A span is a half-open range of byte offsets into a source.
-/

namespace Stencil

/-- The byte offsets from `start` up to, not including, `stop`. -/
structure Span where
  start : Nat
  stop : Nat
  deriving Repr, DecidableEq, Inhabited

namespace Span

/-- Whether the span holds no byte. -/
def isEmpty (s : Span) : Bool := s.stop ≤ s.start

/-- Whether `s` lies inside `t`. -/
def Inside (s t : Span) : Prop := t.start ≤ s.start ∧ s.start ≤ s.stop ∧ s.stop ≤ t.stop

end Span

end Stencil
