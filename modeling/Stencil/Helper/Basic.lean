import Stencil.Failure
import Stencil.Value.View

/-!
# Helpers

The functions that scripts can call by name. A helper sees its arguments and the facts that the
host tells, and nothing else of the render.
-/

namespace Stencil

/-- A function of the arguments and the facts that the host tells. -/
abbrev Helper := List Value → Settings → Except EvalError Value

/-- The helpers by name. A name may contain dots, which have no meaning of their own. -/
abbrev Helpers := Dictionary Helper

end Stencil
