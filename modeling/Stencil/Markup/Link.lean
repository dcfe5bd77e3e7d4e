import Stencil.Markup.Scan
import Stencil.Text.Blank
import Stencil.Text.Case

/-!
# The parts of links

* `linkLabel?`, `linkTarget?` and `linkTitle?` read the parts of links and of their definitions.
* `labelKey` is what labels are compared by.
-/

namespace Stencil.Markup

/-- Whether `c` is an ASCII character that a backslash protects. -/
def isAsciiMark (c : Char) : Bool := 0x20 < c.toNat && c.toNat < 0x7F && !c.isAlphanum

/-- The rest of a label after its opening bracket: its text, and the rest after the closing one.
`go` says where a label goes on after a line break. A label is neither blank nor very long, and has
no brackets of its own. -/
def labelRest? (go : List Char → Option (List Char)) : Nat → List Char →
    Option (List Char × List Char)
  | 0, _ => none
  | limit + 1, cs =>
    match cs with
    | [] => none
    | ']' :: rest => some ([], rest)
    | '[' :: _ => none
    | '\\' :: c :: rest =>
      if isAsciiMark c then
        (labelRest? go limit rest).map fun (text, rest) => ('\\' :: c :: text, rest)
      else (labelRest? go limit (c :: rest)).map fun (text, rest) => ('\\' :: text, rest)
    | c :: rest =>
      if endsLine c then
        ((lineBreak? (c :: rest)).bind go).bind fun rest =>
          (labelRest? go limit rest).map fun (text, rest) => (' ' :: text, rest)
      else (labelRest? go limit rest).map fun (text, rest) => (c :: text, rest)

/-- Reads a label after its opening bracket. -/
def linkLabel? (go : List Char → Option (List Char)) (cs : List Char) :
    Option (List Char × List Char) :=
  match labelRest? go 1000 cs with
  | some (label, rest) => if Text.allBlank label then none else some (label, rest)
  | none => none

/-- What labels are compared by: their words in lower case. -/
def labelKey (label : List Char) : List Char :=
  Text.joinWith [' '] (Text.words (Text.lower label))

/-- The rest after a target between angle brackets. -/
def pointyTarget? : List Char → Option (List Char)
  | [] => none
  | '\\' :: c :: cs => if isAsciiMark c then pointyTarget? cs else pointyTarget? (c :: cs)
  | '>' :: cs => some cs
  | c :: cs => if endsLine c || c = '<' then none else pointyTarget? cs

/-- The rest after a target without brackets around it. Parentheses in it are balanced; `open` of
them are open. -/
def plainTarget? (unclosed : Nat) : List Char → Option (List Char)
  | [] => if unclosed = 0 then some [] else none
  | '\\' :: c :: cs =>
    if isAsciiMark c then plainTarget? unclosed cs else plainTarget? unclosed (c :: cs)
  | '(' :: cs => if 32 < unclosed then none else plainTarget? (unclosed + 1) cs
  | ')' :: cs => if unclosed = 0 then some (')' :: cs) else plainTarget? (unclosed - 1) cs
  | c :: cs =>
    if c.toNat ≤ 0x20 then if unclosed = 0 then some (c :: cs) else none
    else plainTarget? unclosed cs

/-- The rest after the target of a link. -/
def linkTarget? : List Char → Option (List Char)
  | '<' :: cs => pointyTarget? cs
  | cs => plainTarget? 0 cs

/-- The rest after a title that ends with `close`. `go` says where it goes on after a line
break. -/
def titleRest? (go : List Char → Option (List Char)) (close : Char) : Nat → List Char →
    Option (List Char)
  | 0, _ => none
  | limit + 1, cs =>
    match cs with
    | [] => none
    | '\\' :: _ :: rest => titleRest? go close limit rest
    | c :: rest =>
      if c = close then some rest
      else if endsLine c then
        ((lineBreak? (c :: rest)).bind go).bind (titleRest? go close limit)
      else titleRest? go close limit rest

/-- The rest after the title of a link. -/
def linkTitle? (go : List Char → Option (List Char)) : List Char → Option (List Char)
  | '"' :: cs => titleRest? go '"' (cs.length + 1) cs
  | '\'' :: cs => titleRest? go '\'' (cs.length + 1) cs
  | '(' :: cs => titleRest? go ')' (cs.length + 1) cs
  | _ => none

end Stencil.Markup
