import Stencil.Script.Parse
import Stencil.Text.Quoted

/-!
# Printing scripts

Scripts are printed with only the parentheses that the binding table asks for. What is printed is a
list of pieces, so that its text and its tokens are read off the same list.

* `Token.spelling` and `Piece.spelling` are texts; `spell` and `tokensOf` are those of a list.
* `Expr.level` is how strongly an expression holds together; `enclose` puts parentheses around one
  that does not hold together strongly enough where it stands.
* `Expr.inner` and `Statement.pieces` print; a branch is printed without `else` if nothing is to be
  done there.
* `Expr.Printable` leaves out template literals, numbers that are no literals and names that are not
  read as names.
* `Expr.bare` and `Statement.bare` forget the spans.
-/

namespace Stencil.Script

/-! ## Spelling -/

/-- The text of a symbol. -/
def Symbol.spelling : Symbol → List Char
  | .plus => ['+']
  | .minus => ['-']
  | .star => ['*']
  | .slash => ['/']
  | .percent => ['%']
  | .assign => ['=']
  | .equal => ['=', '=']
  | .notEqual => ['!', '=']
  | .greater => ['>']
  | .less => ['<']
  | .greaterEqual => ['>', '=']
  | .lessEqual => ['<', '=']
  | .and => ['&', '&']
  | .or => ['|', '|']
  | .coalesce => ['?', '?']
  | .not => ['!']
  | .question => ['?']
  | .colon => [':']
  | .comma => [',']
  | .dot => ['.']
  | .semicolon => [';']
  | .leftParen => ['(']
  | .rightParen => [')']
  | .leftBracket => ['[']
  | .rightBracket => [']']
  | .leftBrace => ['\x7b']
  | .rightBrace => ['\x7d']

/-- The word of a keyword; where there are several, the first. -/
def Keyword.spelling : Keyword → String
  | .yes => "true"
  | .no => "false"
  | .null => "null"
  | .declare => "let"
  | .branch => "if"
  | .otherwise => "else"

/-- The text of a token. -/
def Token.spelling : Token → List Char
  | .number value => Decimal.numeral value
  | .text value => Text.quote value.toList
  | .template body _ => '`' :: body ++ ['`']
  | .name value => value.toList
  | .keyword word => word.spelling.toList
  | .symbol sign => sign.spelling
  | .lineBreak => ['\n']

/-- A piece of a printed script. -/
inductive Piece where
  | token (value : Token)
  | blank

namespace Piece

/-- The text of a piece. -/
def spelling : Piece → List Char
  | .token value => value.spelling
  | .blank => [' ']

/-- The token of a piece that is one. -/
def token? : Piece → Option Token
  | .token value => some value
  | .blank => none

/-- A symbol as a piece. -/
def sign (s : Symbol) : Piece := .token (.symbol s)

/-- A keyword as a piece. -/
def word (w : Keyword) : Piece := .token (.keyword w)

end Piece

/-- The text of pieces. -/
def spell (ps : List Piece) : List Char := ps.flatMap Piece.spelling

/-- The tokens of pieces. -/
def tokensOf (ps : List Piece) : List Token := ps.filterMap Piece.token?

section Pieces

variable (p : Piece) (ps qs : List Piece)

@[simp]
theorem spell_nil : spell [] = [] := rfl

@[simp]
theorem spell_cons : spell (p :: ps) = p.spelling ++ spell ps := List.flatMap_cons

@[simp]
theorem spell_append : spell (ps ++ qs) = spell ps ++ spell qs := List.flatMap_append

@[simp]
theorem tokensOf_nil : tokensOf [] = [] := rfl

@[simp]
theorem tokensOf_token (t : Token) : tokensOf (.token t :: ps) = t :: tokensOf ps := rfl

@[simp]
theorem tokensOf_sign (s : Symbol) : tokensOf (.sign s :: ps) = .symbol s :: tokensOf ps := rfl

@[simp]
theorem tokensOf_word (w : Keyword) : tokensOf (.word w :: ps) = .keyword w :: tokensOf ps := rfl

@[simp]
theorem tokensOf_blank : tokensOf (.blank :: ps) = tokensOf ps := rfl

@[simp]
theorem tokensOf_append : tokensOf (ps ++ qs) = tokensOf ps ++ tokensOf qs :=
  List.filterMap_append

end Pieces

/-! ## Levels -/

/-- The symbol of a unary operator. -/
def UnaryOp.symbol : UnaryOp → Symbol
  | .negate => .minus
  | .not => .not

/-- The symbol of a binary operator. -/
def BinaryOp.symbol : BinaryOp → Symbol
  | .add => .plus
  | .subtract => .minus
  | .multiply => .star
  | .divide => .slash
  | .modulo => .percent
  | .and => .and
  | .or => .or
  | .coalesce => .coalesce
  | .equal => .equal
  | .notEqual => .notEqual
  | .greater => .greater
  | .less => .less
  | .greaterEqual => .greaterEqual
  | .lessEqual => .lessEqual

/-- How strongly a binary operator binds. -/
def BinaryOp.power : BinaryOp → Nat
  | .coalesce => 3
  | .or => 4
  | .and => 6
  | .equal | .notEqual => 8
  | .greater | .less | .greaterEqual | .lessEqual => 10
  | .add | .subtract => 12
  | .multiply | .divide | .modulo => 14

/-- How strongly a conditional binds. -/
def conditionalPower : Nat := 2

/-- How strongly members, indices and calls bind: more than every operator. -/
def suffixPower : Nat := 17

/-- How strongly an expression holds together. -/
def Expr.level : Expr → Nat
  | .conditional .. => conditionalPower
  | .binary op _ _ => op.power
  | .unary .. => unaryPower
  | _ => suffixPower

/-- Pieces of the given level where `power` is asked for. -/
def enclose (power level : Nat) (ps : List Piece) : List Piece :=
  if level < power then .sign .leftParen :: ps ++ [.sign .rightParen] else ps

/-! ## Printing -/

mutual

/-- An expression without parentheses around it. Operators to the same level associate to the left,
conditionals to the right. Template literals are not printed. -/
def Expr.inner : Expr → List Piece
  | .text value => [.token (.text value)]
  | .number value => [.token (.number value)]
  | .flag true => [.word .yes]
  | .flag false => [.word .no]
  | .null => [.word .null]
  | .list items => .sign .leftBracket :: Expr.innerAll items ++ [.sign .rightBracket]
  | .template _ => []
  | .identifier name _ => [.token (.name name)]
  | .member object field _ =>
    enclose suffixPower object.level object.inner ++ [.sign .dot, .token (.name field)]
  | .index object place _ =>
    enclose suffixPower object.level object.inner ++
      .sign .leftBracket :: place.inner ++ [.sign .rightBracket]
  | .call callee args _ =>
    enclose suffixPower callee.level callee.inner ++
      .sign .leftParen :: Expr.innerAll args ++ [.sign .rightParen]
  | .unary op operand => .sign op.symbol :: enclose unaryPower operand.level operand.inner
  | .binary op left right =>
    enclose op.power left.level left.inner ++ .blank :: .sign op.symbol :: .blank ::
      enclose (op.power + 1) right.level right.inner
  | .conditional condition yes no =>
    enclose (conditionalPower + 1) condition.level condition.inner ++
      .blank :: .sign .question :: .blank :: yes.inner ++
      .blank :: .sign .colon :: .blank :: enclose conditionalPower no.level no.inner

/-- Expressions with commas between them. -/
def Expr.innerAll : List Expr → List Piece
  | [] => []
  | [e] => e.inner
  | e :: f :: es => e.inner ++ .sign .comma :: .blank :: Expr.innerAll (f :: es)

end

/-- Pieces between braces. -/
def braced (ps : List Piece) : List Piece :=
  .sign .leftBrace :: .blank :: ps ++ [.blank, .sign .rightBrace]

mutual

/-- A statement. -/
def Statement.pieces : Statement → List Piece
  | .assign name value declare _ =>
    (if declare then [.word .declare, .blank] else []) ++
      .token (.name name) :: .blank :: .sign .assign :: .blank :: value.inner
  | .expr value _ => value.inner
  | .branch condition yes no _ =>
    .word .branch :: .blank :: condition.inner ++ .blank :: braced (Statement.piecesAll yes) ++
      if no.isEmpty then []
      else .blank :: .word .otherwise :: .blank :: braced (Statement.piecesAll no)

/-- Statements with semicolons between them. -/
def Statement.piecesAll : List Statement → List Piece
  | [] => []
  | [s] => s.pieces
  | s :: t :: ss => s.pieces ++ .sign .semicolon :: .blank :: Statement.piecesAll (t :: ss)

end

/-- The script of an expression. -/
def Expr.print (e : Expr) : List Char := spell e.inner

/-- The script of statements. -/
def Statement.print (ss : List Statement) : List Char := spell (Statement.piecesAll ss)

/-! ## What is printed -/

/-- Whether a number has a numeral: it is finite and has no sign. -/
def IsLiteral (x : Float) : Prop :=
  ∃ mantissa exponent, Decimal.view x = .finite false mantissa exponent

/-- Whether a name is read as a name, and nothing is left of it. -/
def IsName (name : String) : Prop :=
  ∃ c cs, name.toList = c :: cs ∧ readToken 0 c cs = .ok (some (.name name), [])

mutual

/-- Whether an expression is printed as a script of its own. -/
def Expr.Printable : Expr → Prop
  | .text _ => True
  | .number value => IsLiteral value
  | .flag _ => True
  | .null => True
  | .list items => Expr.PrintableAll items
  | .template _ => False
  | .identifier name _ => IsName name
  | .member object field _ => object.Printable ∧ IsName field
  | .index object place _ => object.Printable ∧ place.Printable
  | .call callee args _ => callee.Printable ∧ Expr.PrintableAll args
  | .unary _ operand => operand.Printable
  | .binary _ left right => left.Printable ∧ right.Printable
  | .conditional condition yes no => condition.Printable ∧ yes.Printable ∧ no.Printable

/-- Whether all expressions are printable. -/
def Expr.PrintableAll : List Expr → Prop
  | [] => True
  | e :: es => e.Printable ∧ Expr.PrintableAll es

end

mutual

/-- Whether the names and expressions of a statement are printable. -/
def Statement.Printable : Statement → Prop
  | .assign name value _ _ => IsName name ∧ value.Printable
  | .expr value _ => value.Printable
  | .branch condition yes no _ =>
    condition.Printable ∧ Statement.PrintableAll yes ∧ Statement.PrintableAll no

/-- Whether all statements are printable. -/
def Statement.PrintableAll : List Statement → Prop
  | [] => True
  | s :: ss => s.Printable ∧ Statement.PrintableAll ss

end

/-! ## Spans -/

mutual

/-- An expression without its spans. -/
def Expr.bare : Expr → Expr
  | .text value => .text value
  | .number value => .number value
  | .flag value => .flag value
  | .null => .null
  | .list items => .list (Expr.bareAll items)
  | .template parts => .template (Part.bareAll parts)
  | .identifier name _ => .identifier name default
  | .member object field _ => .member object.bare field default
  | .index object place _ => .index object.bare place.bare default
  | .call callee args _ => .call callee.bare (Expr.bareAll args) default
  | .unary op operand => .unary op operand.bare
  | .binary op left right => .binary op left.bare right.bare
  | .conditional condition yes no => .conditional condition.bare yes.bare no.bare

/-- Expressions without their spans. -/
def Expr.bareAll : List Expr → List Expr
  | [] => []
  | e :: es => e.bare :: Expr.bareAll es

/-- A part of a template literal without its spans. -/
def Part.bare : Part → Part
  | .literal value => .literal value
  | .hole value => .hole value.bare

/-- Parts without their spans. -/
def Part.bareAll : List Part → List Part
  | [] => []
  | p :: ps => p.bare :: Part.bareAll ps

end

mutual

/-- A statement without its spans. -/
def Statement.bare : Statement → Statement
  | .assign name value declare _ => .assign name value.bare declare default
  | .expr value _ => .expr value.bare default
  | .branch condition yes no _ =>
    .branch condition.bare (Statement.bareAll yes) (Statement.bareAll no) default

/-- Statements without their spans. -/
def Statement.bareAll : List Statement → List Statement
  | [] => []
  | s :: ss => s.bare :: Statement.bareAll ss

end

end Stencil.Script
