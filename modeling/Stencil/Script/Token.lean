import Stencil.Span

/-!
# Tokens of the script language

* `Symbol`, `Keyword` and `Token` are the words of the language.
* `Lexeme` is a token with the bytes it was read from.
* `Token.label` names a token in messages.
-/

namespace Stencil.Script

/-- Operators, separators and brackets. -/
inductive Symbol where
  | plus | minus | star | slash | percent
  | assign | equal | notEqual | greater | less | greaterEqual | lessEqual
  | and | or | coalesce | not
  | question | colon | comma | dot | semicolon
  | leftParen | rightParen | leftBracket | rightBracket | leftBrace | rightBrace
  deriving Repr, DecidableEq

/-- Words with a meaning of their own. -/
inductive Keyword where
  | yes | no | null | declare | branch | otherwise
  deriving Repr, DecidableEq

/-- A token. A template literal keeps its raw body and the offset of that body. -/
inductive Token where
  | number (value : Float)
  | text (value : String)
  | template (body : List Char) (offset : Nat)
  | name (value : String)
  | keyword (word : Keyword)
  | symbol (sign : Symbol)
  | lineBreak

/-- A token and where it stands. -/
structure Lexeme where
  token : Token
  span : Span

/-- The label of a symbol. -/
def Symbol.label : Symbol → String
  | .plus => "Plus"
  | .minus => "Minus"
  | .star => "Star"
  | .slash => "Slash"
  | .percent => "Percent"
  | .assign => "Eq"
  | .equal => "EqEq"
  | .notEqual => "BangEq"
  | .greater => "Gt"
  | .less => "Lt"
  | .greaterEqual => "GtEq"
  | .lessEqual => "LtEq"
  | .and => "AmpAmp"
  | .or => "PipePipe"
  | .coalesce => "QuestionQuestion"
  | .not => "Bang"
  | .question => "Question"
  | .colon => "Colon"
  | .comma => "Comma"
  | .dot => "Dot"
  | .semicolon => "Semicolon"
  | .leftParen => "LParen"
  | .rightParen => "RParen"
  | .leftBracket => "LBracket"
  | .rightBracket => "RBracket"
  | .leftBrace => "LBrace"
  | .rightBrace => "RBrace"

/-- The label of a keyword. -/
def Keyword.label : Keyword → String
  | .yes => "True"
  | .no => "False"
  | .null => "Null"
  | .declare => "Let"
  | .branch => "If"
  | .otherwise => "Else"

/-- The label of a token in messages. -/
def Token.label : Token → String
  | .number _ => "Number"
  | .text _ => "StringLit"
  | .template .. => "Backtick"
  | .name _ => "Ident"
  | .keyword word => word.label
  | .symbol sign => sign.label
  | .lineBreak => "Newline"

/-- Whether a token is the given symbol. -/
def Token.is : Token → Symbol → Bool
  | .symbol sign, other => sign = other
  | _, _ => false

/-- Whether a token is a line break. -/
def Token.isLineBreak : Token → Bool
  | .lineBreak => true
  | _ => false

/-- Whether a token separates statements. -/
def Token.isSeparator (t : Token) : Bool := t.isLineBreak || t.is .semicolon

end Stencil.Script
