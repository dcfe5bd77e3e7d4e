import Stencil.Script.Token
import Stencil.Text.Line

/-!
# Syntax errors

* `Cause` lists everything that can be wrong with a source; `Cause.message` is its wording.
* `Fault` is a cause with the bytes it concerns.
* `SyntaxError` is a fault of a file, with its notes, and its line and column once it has been
  located in a source; both are zero before that.
-/

namespace Stencil

/-- What a script should have continued with. -/
inductive Expected where
  | name
  | assignAfterName
  | assign
  | bodyAfterCondition
  | bodyAfterElse
  | colon
  | closeParen
  | closeBracket
  | closeBrace
  | statementEnd
  | commaOrParen
  | commaOrBracket
  deriving Repr, DecidableEq

/-- What is missing, in words. -/
def Expected.message : Expected → String
  | .name => "identifier"
  | .assignAfterName => "'=' after variable name"
  | .assign => "'='"
  | .bodyAfterCondition => "'\x7b' after if condition"
  | .bodyAfterElse => "'\x7b' after else"
  | .colon => "':' in conditional"
  | .closeParen => "')'"
  | .closeBracket => "']'"
  | .closeBrace => "'\x7d'"
  | .statementEnd => "end of statement"
  | .commaOrParen => "',' or ')'"
  | .commaOrBracket => "',' or ']'"

/-- What is wrong with a source. -/
inductive Cause where
  | invalidTable (reason : String)
  | unterminatedComment
  | unterminatedText
  | unterminatedTemplate
  | unterminatedHole
  | unterminatedTag (close : String)
  | endlessTag
  | invalidNumber (text : String)
  | unexpectedChar (char : Char)
  | unexpectedEnd
  | unexpectedToken (label : String)
  | unexpectedBrace
  | trailingTokens
  | tooDeep
  | expected (what : Expected)
  | textOutsidePage
  | blockOutsidePage
  deriving Repr, DecidableEq

/-- The wording of a cause. -/
def Cause.message : Cause → String
  | .invalidTable reason => "invalid tag table: " ++ reason
  | .unterminatedComment => "unterminated block comment"
  | .unterminatedText => "unterminated string literal"
  | .unterminatedTemplate => "unterminated template literal"
  | .unterminatedHole => "unterminated '$\x7b' in template literal"
  | .unterminatedTag close => "unterminated tag: expected '" ++ close ++ "'"
  | .endlessTag => "a tag without markers never ends"
  | .invalidNumber text => "invalid number '" ++ text ++ "'"
  | .unexpectedChar char => "unexpected character '" ++ char.toString ++ "'"
  | .unexpectedEnd => "unexpected end of expression"
  | .unexpectedToken label => "unexpected token: " ++ label
  | .unexpectedBrace => "unexpected '\x7d'"
  | .trailingTokens => "unexpected tokens after expression"
  | .tooDeep => "expression is nested too deeply"
  | .expected what => "expected " ++ what.message
  | .textOutsidePage => "text outside of a page"
  | .blockOutsidePage => "block outside of a page"

/-- A cause and the bytes it concerns. -/
structure Fault where
  cause : Cause
  span : Span
  deriving Repr, DecidableEq

/-- Remarks added to an error. -/
inductive Note where
  | inTag (line : Nat) (excerpt : String)
  | startWithPage
  deriving Repr, DecidableEq

/-- The wording of a note. -/
def Note.message : Note → String
  | .inTag line excerpt => "in tag on line " ++ toString line ++ ": " ++ excerpt
  | .startWithPage => "start the document with a `# Page` heading"

/-- A fault of a file. Line and column are zero until the error is located. -/
structure SyntaxError extends Fault where
  file : Nat
  notes : List Note := []
  line : Nat := 0
  column : Nat := 0
  deriving Repr, DecidableEq

namespace SyntaxError

/-- An error that has not been located. -/
def ofFault (fault : Fault) (file : Nat) : SyntaxError := { fault with file }

/-- The error with the line and column where its span starts. -/
def locate (e : SyntaxError) (source : List Char) : SyntaxError :=
  let (line, column) := Text.position source e.span.start
  { e with line, column }

/-- The error with one more note. -/
def addNote (e : SyntaxError) (note : Note) : SyntaxError := { e with notes := e.notes ++ [note] }

/-- The message, with line and column once the error is located. -/
def message (e : SyntaxError) : String :=
  if e.line = 0 then e.cause.message
  else e.cause.message ++ " at " ++ toString e.line ++ ":" ++ toString e.column

end SyntaxError

end Stencil
