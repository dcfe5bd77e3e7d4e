import Stencil.Text.Blank
import Stencil.Text.Line

/-!
# The content of a bullet

The source of an item starts with its bullet, and its further lines are indented.

* `bulletContent` takes the bullet and the common indentation away.
-/

namespace Stencil.Graph

/-- Whether `c` can be a bullet. -/
def isBullet (c : Char) : Bool := c = '-' || c = '*' || c = '+'

/-- The first line without its bullet and the space after it. A line without a space after the
bullet has no content. -/
def afterBullet (line : List Char) : List Char :=
  match (Text.trimStart line).dropWhile isBullet with
  | ' ' :: rest => rest
  | _ => []

/-- The size in bytes of the blanks in front of a line. -/
def indentOf (line : List Char) : Nat :=
  Text.byteLength line - Text.byteLength (Text.trimStart line)

/-- The least indentation of the lines that are not blank, zero if there are none. -/
def commonIndent (lines : List (List Char)) : Nat :=
  (((lines.filter fun line => !Text.allBlank line).map indentOf).min?).getD 0

/-- A line without its first `indent` bytes. Where they end inside of a character or beyond the
line, all blanks in front are dropped. -/
def dedent (indent : Nat) (line : List Char) : List Char :=
  if Text.byteLength (Text.takeBytes line indent) = indent then Text.dropBytes line indent
  else Text.trimStart line

/-- The content of an item, given its source. -/
def bulletContent (source : List Char) : List Char :=
  match Text.lines (Text.trimEnd source) with
  | [] => []
  | first :: rest =>
    let body := afterBullet first :: rest.map (dedent (commonIndent rest))
    Text.trimEnd (Text.joinWith ['\n'] body)

end Stencil.Graph
