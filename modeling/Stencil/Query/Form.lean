import Stencil.Text.Quoted

/-!
# Forms

A query is written as nested forms: symbols and literals between brackets of three kinds.

* `Form` is a form, `Form.text` its text.
-/

namespace Stencil

/-- A form. -/
inductive Form where
  | symbol (name : String)
  | literal (text : String)
  | vector (forms : List Form)
  | call (forms : List Form)
  | set (forms : List Form)

namespace Form

mutual

/-- The text of a form. -/
def text : Form → String
  | .symbol name => name
  | .literal text => quoted text
  | .vector forms => "[" ++ textAll forms ++ "]"
  | .call forms => "(" ++ textAll forms ++ ")"
  | .set forms => "#\x7b" ++ textAll forms ++ "\x7d"

/-- The texts of forms with blanks between them. -/
def textAll : List Form → String
  | [] => ""
  | [f] => text f
  | f :: fs => text f ++ " " ++ textAll fs

end

/-- A form that binds the result of a call to a variable. -/
def bind (call : List Form) (name : String) : Form := .vector [.call call, .symbol name]

/-- A form that tests the result of a call. -/
def test (call : List Form) : Form := .vector [.call call]

/-- A form that looks a fact up. -/
def fact (names : List String) : Form := .vector (names.map .symbol)

end Form

end Stencil
