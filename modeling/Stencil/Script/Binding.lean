import Stencil.Script.Expr
import Stencil.Script.Token

/-!
# The binding table

How strongly the infix operators bind, from the conditional up to multiplication. An operator is
taken while its left power is at least the power asked for; its right operand is read with its
right power, which is larger for an operator that associates to the left.

* `infixPowers?`: left and right power of an infix symbol.
* `BinaryOp.ofSymbol?`: the operator of an infix symbol; the conditional is not among them.
-/

namespace Stencil.Script

/-- The power that the operand of a unary operator is read with. -/
def unaryPower : Nat := 16

/-- Left and right binding power of an infix symbol. -/
def infixPowers? : Symbol → Option (Nat × Nat)
  | .question => some (2, 2)
  | .coalesce => some (3, 4)
  | .or => some (4, 5)
  | .and => some (6, 7)
  | .equal | .notEqual => some (8, 9)
  | .greater | .less | .greaterEqual | .lessEqual => some (10, 11)
  | .plus | .minus => some (12, 13)
  | .star | .slash | .percent => some (14, 15)
  | _ => none

/-- The binary operator of a symbol. -/
def BinaryOp.ofSymbol? : Symbol → Option BinaryOp
  | .plus => some .add
  | .minus => some .subtract
  | .star => some .multiply
  | .slash => some .divide
  | .percent => some .modulo
  | .and => some .and
  | .or => some .or
  | .coalesce => some .coalesce
  | .equal => some .equal
  | .notEqual => some .notEqual
  | .greater => some .greater
  | .less => some .less
  | .greaterEqual => some .greaterEqual
  | .lessEqual => some .lessEqual
  | _ => none

end Stencil.Script
