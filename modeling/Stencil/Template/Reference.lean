import Stencil.Text.Blank

/-!
# References to templates

A template is named by a page, `page:Name`, by a block, `((uuid))`, or by its own name.

* `TemplateReference.ofText` reads a reference and `TemplateReference.toText` writes it.
-/

namespace Stencil

/-- How a template is named. -/
inductive TemplateReference where
  /-- A whole page. -/
  | page (name : String)
  /-- The block that carries a template name. -/
  | named (name : String)
  /-- A block by its identifier. -/
  | block (uuid : String)
  deriving Repr, DecidableEq

namespace TemplateReference

/-- The text in front of the name of a page. -/
def pageMark : List Char := ['p', 'a', 'g', 'e', ':']

/-- The text between double parentheses. -/
def enclosed? (cs : List Char) : Option (List Char) :=
  match cs with
  | '(' :: '(' :: rest =>
    if [')', ')'].isSuffixOf rest then some (rest.take (rest.length - 2)) else none
  | _ => none

/-- Reads a reference off a text without blanks around it. -/
def ofTrimmed (cs : List Char) : TemplateReference :=
  match pageMark.isPrefixOf? cs with
  | some name => .page (String.ofList (Text.trim name))
  | none =>
    match enclosed? cs with
    | some uuid => .block (String.ofList (Text.trim uuid))
    | none => .named (String.ofList cs)

/-- Reads a reference. -/
def ofText (text : String) : TemplateReference := ofTrimmed (Text.trim text.toList)

/-- Writes a reference. -/
def toText : TemplateReference → String
  | .page name => String.ofList pageMark ++ name
  | .named name => name
  | .block uuid => "((" ++ uuid ++ "))"

end TemplateReference

end Stencil
