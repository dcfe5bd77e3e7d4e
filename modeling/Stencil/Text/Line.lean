import Stencil.Text.Search

/-!
# Lines and positions

A line ends at a line feed; a carriage return directly before it belongs to the line break. A text
that ends with a line break has no further empty line after it.

* `lines` are the lines of a text.
* `position` is the line and column of a byte offset, both counted from one.
-/

namespace Stencil.Text

/-- Drops one carriage return at the end. -/
def dropReturn (line : List Char) : List Char :=
  if line.getLast? = some '\r' then line.dropLast else line

/-- The lines among the pieces between line feeds: only the last piece has no line feed after
it, and it is a line only when something stands in it. -/
def linesOfPieces : List (List Char) → List (List Char)
  | [] => []
  | [last] => if last.isEmpty then [] else [last]
  | piece :: pieces => dropReturn piece :: linesOfPieces pieces

/-- The lines of a text, without their line breaks. -/
def lines (cs : List Char) : List (List Char) := linesOfPieces (splitWhere (· = '\n') cs)

/-- The line and column of byte offset `offset`, both from one; a column counts characters. An
offset inside a character stands for that character, one past the end for the end. -/
def position (source : List Char) (offset : Nat) : Nat × Nat :=
  let before := takeBytes source offset
  (before.count '\n' + 1, (before.reverse.takeWhile (· ≠ '\n')).length + 1)

end Stencil.Text

namespace Stencil

/-- The lines of a string. -/
def linesOf (s : String) : List String := (Text.lines s.toList).map String.ofList

end Stencil
