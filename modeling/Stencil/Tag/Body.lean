import Stencil.Script.Token
import Stencil.Tag.Basic
import Stencil.Text.Letter
import Stencil.Text.Quoted

/-!
# Classifying and expanding bodies

* `classifyPlain`: a plain body holds statements when it starts like one.
* `expandPage`, `expandBlock` and `expandDate`: the scripts of the short forms for links and
  dates. The body ends up inside one quoted text, so nothing in it is read as script.
-/

namespace Stencil.Tag

/-- Whether a script starts with the word, followed by a blank or a parenthesis. -/
def startsWithWord (word cs : List Char) : Bool :=
  match word.isPrefixOf? cs with
  | some (c :: _) => Text.isBlank c || c = '('
  | _ => false

/-- Whether a name may contain `c`. -/
def isNameChar (c : Char) : Bool := Text.isWordChar c || c = '_' || c = '$'

/-- Whether a script starts with a name and a single equals sign. -/
def startsWithAssignment (cs : List Char) : Bool :=
  if (cs.takeWhile isNameChar).isEmpty then false
  else match Text.trimStart (cs.dropWhile isNameChar) with
    | '=' :: '=' :: _ => false
    | '=' :: _ => true
    | _ => false

/-- A plain body holds statements when it starts with `let`, `if` or an assignment. -/
def classifyPlain (body : List Char) : BodyClass :=
  let script := Text.trimStart body
  if startsWithWord ['l', 'e', 't'] script || startsWithWord ['i', 'f'] script
      || startsWithAssignment script then .statements
  else .expression

/-- The call of a helper with one quoted text. -/
def callWithText (helper : String) (text : List Char) : List Char :=
  helper.toList ++ '(' :: Text.quote text ++ [')']

/-- The script for a link to a page. -/
def expandPage (body : List Char) : List Char :=
  callWithText "ref" ('[' :: '[' :: Text.trim body ++ [']', ']'])

/-- The script for a link to a block. -/
def expandBlock (body : List Char) : List Char :=
  callWithText "ref" ('(' :: '(' :: Text.trim body ++ [')', ')'])

/-- The script for a date given in words. -/
def expandDate (body : List Char) : List Char := callWithText "date.nlp" (Text.trim body)

end Stencil.Tag
