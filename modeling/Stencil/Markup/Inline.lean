import Stencil.Markup.Html
import Stencil.Markup.Link
import Stencil.Markup.Reference
import Stencil.Text.Letter
import Stencil.Text.Printable

/-!
# The text of a heading

A heading is written with emphasis, code, links and character references; what is left of it as text
is what counts.

* `Piece` is a piece of a heading, `piecesOf` cuts a heading into pieces.
* `emphasize` takes away the marks that open and close emphasis.
* `Run` is text or a line break; `runsOf` gives the text of a heading.
-/

namespace Stencil.Markup

/-- A piece of a heading. -/
inductive Piece where
  | text (value : List Char)
  | lineBreak
  /-- Marks of emphasis: how many are left, how many there were, and what they can do. -/
  | marks (mark : Char) (left size : Nat) (opens closes : Bool)
  /-- The opening bracket of a link or image, with the text after it. A bracket that is not active
  opens no link. -/
  | bracket (image active : Bool) (after : List Char)

/-- Text or a line break. -/
inductive Run where
  | text (value : List Char)
  | lineBreak
  deriving Repr, DecidableEq

/-! ## Emphasis -/

/-- Whether `c` is punctuation. -/
def isPunctuation (c : Char) : Bool :=
  isAsciiMark c || (128 ≤ c.toNat && !Text.isWordChar c && !Text.isBlank c && Text.isPrintable c)

/-- What marks of emphasis can do between two characters: open and close. -/
def flanks (mark : Char) (before after : Option Char) : Bool × Bool :=
  let blank (c : Option Char) : Bool := c.all Text.isBlank
  let punctuation (c : Option Char) : Bool := c.any isPunctuation
  let left := !blank after && (!punctuation after || blank before || punctuation before)
  let right := !blank before && (!punctuation before || blank after || punctuation after)
  if mark = '_' then
    (left && (!right || punctuation before), right && (!left || punctuation after))
  else (left, right)

/-- Marks that do nothing are text. -/
def Piece.inert : Piece → Piece
  | .marks mark left _ _ _ => .text (List.replicate left mark)
  | piece => piece

/-- Splits the pieces read so far, the last first, at the nearest marks that the given marks can
close. -/
def opener? (mark : Char) (size : Nat) (opens : Bool) :
    List Piece → Option (List Piece × Piece × List Piece)
  | [] => none
  | piece :: before =>
    let found := match piece with
      | .marks other _ otherSize otherOpens otherCloses =>
        other = mark && otherOpens &&
          !((otherCloses || opens) && (otherSize + size) % 3 = 0 &&
            !(otherSize % 3 = 0 && size % 3 = 0))
      | _ => false
    if found then some ([], piece, before)
    else (opener? mark size opens before).map fun (between, o, rest) => (piece :: between, o, rest)

/-- The marks with `n` fewer of them, if any are left. -/
def Piece.fewer (n : Nat) : Piece → List Piece
  | .marks mark left size opens closes =>
    if left ≤ n then [] else [.marks mark (left - n) size opens closes]
  | piece => [piece]

/-- How many marks a piece has left. -/
def Piece.left : Piece → Nat
  | .marks _ left _ _ _ => left
  | _ => 0

/-- Takes the marks of emphasis away. `before` are the pieces passed, the last first; `limit` is at
least the number of pieces and marks. -/
def emphasizeFrom : Nat → List Piece → List Piece → List Piece
  | 0, before, pieces => before.reverse ++ pieces
  | _, before, [] => before.reverse
  | limit + 1, before, piece :: pieces =>
    match piece with
    | .marks mark left size opens true =>
      match opener? mark size opens before with
      | some (between, opening, rest) =>
        let n := if 2 ≤ left && 2 ≤ opening.left then 2 else 1
        let before := between.map Piece.inert ++ opening.fewer n ++ rest
        emphasizeFrom limit before (piece.fewer n ++ pieces)
      | none =>
        let piece := if opens then piece else piece.inert
        emphasizeFrom limit (piece :: before) pieces
    | _ => emphasizeFrom limit (piece :: before) pieces

/-- Takes the marks of emphasis away; those left over are text. -/
def emphasize (pieces : List Piece) : List Piece :=
  let limit := pieces.foldl (fun n piece => n + piece.left + 1) 1
  (emphasizeFrom limit [] pieces).map Piece.inert

/-! ## Code, links and the rest -/

/-- The content of a code span of `size` marks, and the rest after it. -/
def codeRest? (size : Nat) : Nat → List Char → Option (List Char × List Char)
  | 0, _ => none
  | limit + 1, cs =>
    match cs with
    | [] => none
    | '`' :: _ =>
      let (n, rest) := countRun '`' cs
      if n = size then some ([], rest)
      else (codeRest? size limit rest).map fun (code, rest) =>
        (List.replicate n '`' ++ code, rest)
    | c :: cs =>
      (codeRest? size limit cs).map fun (code, rest) =>
        ((if endsLine c then ' ' else c) :: code, rest)

/-- Code without one blank at either end, unless it is all blank. -/
def trimCode (code : List Char) : List Char :=
  if 2 ≤ code.length && code.head? = some ' ' && code.getLast? = some ' ' &&
      !code.all (· = ' ') then (code.drop 1).dropLast
  else code

/-- The text of a link in angle brackets: an address of some scheme, or a mail address. -/
def autolink? (cs : List Char) : Option (List Char × List Char) :=
  let text := cs.takeWhile fun c => c ≠ '>' && c ≠ '<' && 0x20 < c.toNat
  match cs.drop text.length with
  | '>' :: rest =>
    let scheme := text.takeWhile fun c => c.isAlphanum || c = '+' || c = '-' || c = '.'
    let isAddress := text.head?.any isAsciiLetter && 2 ≤ scheme.length && scheme.length ≤ 32 &&
      (text.drop scheme.length).head? = some ':'
    let isMail := match Text.cutAt? ['@'] text with
      | some (name, host) =>
        !name.isEmpty &&
          name.all (fun c => c.isAlphanum || ".!#$%&'*+/=?^_`\x7b|\x7d~-".toList.contains c)
          && (Text.splitWhere (· = '.') host).all fun part =>
            !part.isEmpty && part.length ≤ 63 && part.all (fun c => c.isAlphanum || c = '-') &&
              part.head? ≠ some '-' && part.getLast? ≠ some '-'
      | none => false
    if isAddress || isMail then some (text, rest) else none
  | _ => none

/-- Blanks with at most one line break among them. -/
def linkBlanks (cs : List Char) : List Char := cs.dropWhile isBlankChar

/-- The rest after the target of a link in parentheses. -/
def inlineTarget? (cs : List Char) : Option (List Char) :=
  match cs with
  | '(' :: cs =>
    match linkTarget? (linkBlanks cs) with
    | none => none
    | some rest =>
      let after := linkBlanks rest
      match after with
      | ')' :: rest => some rest
      | _ =>
        if after.length = rest.length then none
        else match linkTitle? some after with
          | some rest =>
            match linkBlanks rest with
            | ')' :: rest => some rest
            | _ => none
          | none => none
  | _ => none

/-- The rest after what follows the closing bracket of a link whose text is `inside`: a target, a
defined label, or nothing when the text itself is a defined label. -/
def linkTail? (labels : List (List Char)) (inside cs : List Char) : Option (List Char) :=
  match inlineTarget? cs with
  | some rest => some rest
  | none =>
    let defined (label : List Char) : Bool := labels.contains (labelKey label)
    match cs with
    | '[' :: ']' :: rest => if defined inside then some rest else none
    | '[' :: more =>
      match linkLabel? some more with
      | some (label, rest) => if defined label then some rest else none
      | none => if defined inside then some cs else none
    | _ => if defined inside then some cs else none

/-- Splits the pieces read so far, the last first, at the nearest bracket. -/
def bracket? : List Piece → Option (List Piece × (Bool × Bool × List Char) × List Piece)
  | [] => none
  | .bracket image active after :: before => some ([], (image, active, after), before)
  | piece :: before =>
    (bracket? before).map fun (between, b, rest) => (piece :: between, b, rest)

/-- Makes the brackets of links before a link unable to open another one. -/
def Piece.deactivate : Piece → Piece
  | .bracket false _ after => .bracket false false after
  | piece => piece

/-- The text of an opening bracket. -/
def bracketText (image : Bool) : Piece := .text (if image then ['!', '['] else ['['])

/-- The pieces after a closing bracket, the last first, and the rest of the heading. -/
def closeBracket (labels : List (List Char)) (seen : List Piece) (rest : List Char) :
    List Piece × List Char :=
  match bracket? seen with
  | none => (.text [']'] :: seen, rest)
  | some (between, (image, active, after), before) =>
    let inside := after.take (after.length - rest.length - 1)
    match if active then linkTail? labels inside rest else none with
    | none => (.text [']'] :: between ++ bracketText image :: before, rest)
    | some rest =>
      let before := if image then before else before.map Piece.deactivate
      ((emphasize between.reverse).reverse ++ before, rest)

/-- Cuts a heading into pieces, the last first. `previous` is the character before `cs`, and
`limit` at least the length of `cs`. -/
def piecesFrom (labels : List (List Char)) : Nat → List Piece → Option Char → List Char → List Piece
  | 0, seen, _, _ => seen
  | _, seen, _, [] => seen
  | limit + 1, seen, previous, c :: cs =>
    let go := piecesFrom labels limit
    let plain (_ : Unit) : List Piece := go (.text [c] :: seen) (some c) cs
    if c = '\\' then
      match cs with
      | d :: rest =>
        if isAsciiMark d then go (.text [d] :: seen) (some d) rest
        else if endsLine d then go (.lineBreak :: seen) (some d) ((lineBreak? cs).getD rest)
        else plain ()
      | [] => plain ()
    else if endsLine c then go (.lineBreak :: seen) (some c) ((lineBreak? (c :: cs)).getD cs)
    else if c = '&' then
      match characterReference? cs with
      | some (found, rest) => go (.text found :: seen) (some ';') rest
      | none => plain ()
    else if c = '`' then
      let (n, rest) := countRun '`' (c :: cs)
      match codeRest? n (rest.length + 1) rest with
      | some (code, after) => go (.text (trimCode code) :: seen) (some '`') after
      | none => go (.text (List.replicate n '`') :: seen) (some '`') rest
    else if c = '<' then
      match autolink? cs with
      | some (text, rest) => go (.text text :: seen) (some '>') rest
      | none =>
        match inlineHtml? cs with
        | some rest => go seen (some '>') rest
        | none => plain ()
    else if c = '*' || c = '_' then
      let (n, rest) := countRun c (c :: cs)
      let (opens, closes) := flanks c previous rest.head?
      go (.marks c n n opens closes :: seen) (some c) rest
    else if c = '[' then go (.bracket false true cs :: seen) (some c) cs
    else if c = '!' && cs.head? = some '[' then
      go (.bracket true true cs.tail :: seen) (some '[') cs.tail
    else if c = ']' then
      let (seen, rest) := closeBracket labels seen cs
      go seen (some ']') rest
    else plain ()

/-- The text of a piece without marks. -/
def Piece.run : Piece → Run
  | .text value => .text value
  | .lineBreak => .lineBreak
  | .marks mark left _ _ _ => .text (List.replicate left mark)
  | .bracket image _ _ => .text (if image then ['!', '['] else ['['])

/-- The text and line breaks of a heading, given the labels that are defined. -/
def runsOf (labels : List (List Char)) (heading : List Char) : List Run :=
  (emphasize (piecesFrom labels (heading.length + 1) [] none heading).reverse).map Piece.run

end Stencil.Markup
