import Stencil.Span

/-!
# Expressions and statements

The syntax trees of the script language. Names, members, indices and calls carry the span they
were read from; `Expr.path?` is the dotted name of a chain of members.
-/

namespace Stencil.Script

/-- The operators with one operand. -/
inductive UnaryOp where
  | negate | not
  deriving Repr, DecidableEq

/-- The operators with two operands. -/
inductive BinaryOp where
  | add | subtract | multiply | divide | modulo
  | and | or | coalesce
  | equal | notEqual | greater | less | greaterEqual | lessEqual
  deriving Repr, DecidableEq

mutual

/-- An expression. -/
inductive Expr where
  | text (value : String)
  | number (value : Float)
  | flag (value : Bool)
  | null
  | list (items : List Expr)
  | template (parts : List Part)
  | identifier (name : String) (span : Span)
  | member (object : Expr) (field : String) (span : Span)
  | index (object index : Expr) (span : Span)
  | call (callee : Expr) (args : List Expr) (span : Span)
  | unary (op : UnaryOp) (operand : Expr)
  | binary (op : BinaryOp) (left right : Expr)
  | conditional (condition yes no : Expr)

/-- A part of a template literal: text as it is, or an expression to be printed in place. -/
inductive Part where
  | literal (value : String)
  | hole (value : Expr)

end

instance : Inhabited Expr := ⟨.null⟩

/-- The dotted name of a chain of members that starts with a name. -/
def Expr.path? : Expr → Option String
  | .identifier name _ => some name
  | .member object field _ => object.path?.map fun path => path ++ "." ++ field
  | _ => none

/-- The text of a template literal whose parts are all literal. -/
def Part.joined? : List Part → Option String
  | [] => some ""
  | .literal value :: parts => (Part.joined? parts).map fun rest => value ++ rest
  | .hole _ :: _ => none

/-- A statement. -/
inductive Statement where
  | assign (name : String) (value : Expr) (declare : Bool) (span : Span)
  | expr (value : Expr) (span : Span)
  | branch (condition : Expr) (yes no : List Statement) (span : Span)

instance : Inhabited Statement := ⟨.expr .null ⟨0, 0⟩⟩

/-- The span of a statement. -/
def Statement.span : Statement → Span
  | .assign _ _ _ span => span
  | .expr _ span => span
  | .branch _ _ _ span => span

end Stencil.Script
