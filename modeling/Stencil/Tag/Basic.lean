import Stencil.Text.Blank

/-!
# Tags

A tag is a pair of markers with what is to be done between and after them.

* `TrailingTrim.apply` drops the blanks that a tag swallows after its closing marker.
* `BodyClass` tells statements from expressions, and whether a body may have several lines.
* `Tag.classOf` is the class of a body.
-/

namespace Stencil

/-- What is dropped from the text right after a closing marker. -/
inductive TrailingTrim where
  /-- Nothing. -/
  | keep
  /-- One line break. -/
  | newline
  /-- All blank characters. -/
  | all
  deriving Repr, DecidableEq

/-- The text after a closing marker without what the policy drops. -/
def TrailingTrim.apply : TrailingTrim → List Char → List Char
  | .keep, cs => cs
  | .newline, '\r' :: '\n' :: cs => cs
  | .newline, '\n' :: cs => cs
  | .newline, cs => cs
  | .all, cs => Text.trimStart cs

/-- How the body of a tag is run. -/
structure BodyClass where
  /-- The body is run for its effects and emits nothing. -/
  statement : Bool
  /-- The body may hold line feeds. -/
  multiline : Bool
  deriving Repr, DecidableEq

namespace BodyClass

/-- The class of a single-line expression. -/
def expression : BodyClass := ⟨false, false⟩

/-- The class of statements. -/
def statements : BodyClass := ⟨true, true⟩

/-- Whether a body of this class may hold line feeds. -/
def allowsLineFeed (k : BodyClass) : Bool := k.statement || k.multiline

end BodyClass

/-- A pair of markers. -/
structure Tag where
  openMark : String
  closeMark : String
  /-- What is dropped after the closing marker. -/
  trim : TrailingTrim := .keep
  /-- Whether emitted values are written as links where they are dates, pages or blocks. -/
  filter : Bool := false
  /-- The class of a body; without it bodies are single-line expressions. -/
  classify : Option (List Char → BodyClass) := none
  /-- Turns a body into a script; without it the body is the script. -/
  expand : Option (List Char → List Char) := none

namespace Tag

/-- The class of a body. -/
def classOf (tag : Tag) (body : List Char) : BodyClass :=
  match tag.classify with
  | some classify => classify body
  | none => .expression

/-- Whether the body is a script as it stands, so that quoted texts and comments in it hide the
closing marker. -/
def holdsScript (tag : Tag) : Bool := tag.expand.isNone

/-- The script of a body. -/
def scriptOf (tag : Tag) (body : List Char) : List Char :=
  match tag.expand with
  | some expand => expand body
  | none => body

end Tag

end Stencil
