import Stencil.Text.Search

/-!
# Scanning lines of markup

* `lineBreak?`, `blankLine?` and `nextLine` move to the next line.
* `Head` is a position at the front of a line where a tab may have been used in part.
* `isRule`, `headingLevel?`, `underlineLevel?`, `fence?` and `bulletLine?` recognize lines by how
  they start.
-/

namespace Stencil.Markup

/-- Whether `c` is a blank that does not end a line. -/
def isSpace (c : Char) : Bool := c = ' ' || c = '\t' || c = '\x0b' || c = '\x0c'

/-- Whether `c` is a blank. -/
def isBlankChar (c : Char) : Bool := isSpace c || c = '\n' || c = '\r'

/-- Whether `c` ends a line. -/
def endsLine (c : Char) : Bool := c = '\n' || c = '\r'

/-- The text without the blanks in front of it. -/
def skipSpaces (cs : List Char) : List Char := cs.dropWhile isSpace

/-- The rest after a line break or at the end. -/
def lineBreak? : List Char → Option (List Char)
  | [] => some []
  | '\n' :: cs => some cs
  | '\r' :: '\n' :: cs => some cs
  | '\r' :: cs => some cs
  | _ => none

/-- The rest after a line of blanks. -/
def blankLine? (cs : List Char) : Option (List Char) := lineBreak? (skipSpaces cs)

/-- Whether a line of blanks stands at the front. -/
def startsBlank (cs : List Char) : Bool := (blankLine? cs).isSome

/-- The rest after the next line feed. -/
def nextLine (cs : List Char) : List Char := (cs.dropWhile (· ≠ '\n')).drop 1

/-- The text up to the next line feed, which belongs to it. -/
def thisLine (cs : List Char) : List Char := cs.take (cs.length - (nextLine cs).length)

/-- The line at the front without its line break, and the rest after that. -/
def cutLine (cs : List Char) : List Char × List Char :=
  let rest := cs.dropWhile fun c => !endsLine c
  (cs.takeWhile fun c => !endsLine c, (lineBreak? rest).getD rest)

/-- How often `c` stands at the front, and the rest after it. -/
def countRun (c : Char) (cs : List Char) : Nat × List Char :=
  ((cs.takeWhile (· = c)).length, cs.dropWhile (· = c))

/-! ## Columns -/

/-- A position in the front part of a line. `run` counts the characters since the start of the line
or the last tab, `spare` the columns left of a tab that was used in part. -/
structure Head where
  rest : List Char
  run : Nat := 0
  spare : Nat := 0

namespace Head

/-- Uses up to `n` columns of blanks: how many are missing, and where that leads. -/
def advance (n run : Nat) : List Char → Nat × Head
  | ' ' :: cs => if n = 0 then (0, ⟨' ' :: cs, run, 0⟩) else advance (n - 1) (run + 1) cs
  | '\t' :: cs =>
    let width := 4 - run % 4
    if n = 0 then (0, ⟨'\t' :: cs, run, 0⟩)
    else if width ≤ n then advance (n - width) 0 cs
    else (0, ⟨cs, 0, width - n⟩)
  | cs => (n, ⟨cs, run, 0⟩)

/-- Uses up to `n` columns, those left of a tab first. -/
def skip (n : Nat) (h : Head) : Nat × Head :=
  if n ≤ h.spare then (0, { h with spare := h.spare - n }) else advance (n - h.spare) h.run h.rest

/-- How many of `n` columns there are, and the position after them. -/
def skipUpTo (n : Nat) (h : Head) : Nat × Head :=
  let (missing, h) := h.skip n
  (n - missing, h)

/-- The position after exactly `n` columns. -/
def columns? (n : Nat) (h : Head) : Option Head :=
  let (missing, h) := h.skip n
  if missing = 0 then some h else none

/-- The position after all blanks. -/
def skipAll (h : Head) : Head :=
  { h with rest := h.rest.dropWhile fun c => c = ' ' || c = '\t', spare := 0 }

/-- Whether the line ends here. -/
def atLineEnd (h : Head) : Bool := h.rest.head?.all endsLine

/-- The position after the next `n` characters. -/
def past (n : Nat) (h : Head) : Head := { h with rest := h.rest.drop n, run := h.run + n }

end Head

/-! ## Kinds of lines -/

/-- Whether a line is a thematic break: three or more of one of three marks, with blanks. -/
def isRule (cs : List Char) : Bool :=
  let (line, _) := cutLine cs
  match line with
  | c :: _ =>
    (c = '*' || c = '-' || c = '_') && line.all (fun d => d = c || d = ' ' || d = '\t') &&
      3 ≤ line.count c
  | [] => false

/-- The level of a heading line: one to six marks and a blank or the end. -/
def headingLevel? (cs : List Char) : Option Nat :=
  let (level, rest) := countRun '#' cs
  if 1 ≤ level && level ≤ 6 && rest.head?.all isBlankChar then some level else none

/-- The level of the heading that a line underlines, and the rest after the line. -/
def underlineLevel? (cs : List Char) : Option (Nat × List Char) :=
  match cs with
  | '=' :: _ => (blankLine? (countRun '=' cs).2).map fun rest => (1, rest)
  | '-' :: _ => (blankLine? (countRun '-' cs).2).map fun rest => (2, rest)
  | _ => none

/-- The mark and the length of a code fence. A fence of backticks has none after it in its line. -/
def fence? (cs : List Char) : Option (Char × Nat) :=
  match cs with
  | c :: _ =>
    let (n, rest) := countRun c cs
    if (c = '`' || c = '~') && 3 ≤ n && !(c = '`' && (thisLine rest).contains '`') then some (c, n)
    else none
  | [] => none

/-- The rest of the line after a fence that closes code. -/
def closingFence? (mark : Char) (size : Nat) (cs : List Char) : Option (List Char) :=
  if cs.isEmpty then some []
  else
    let (n, rest) := countRun mark cs
    let rest := rest.dropWhile (· = ' ')
    if size ≤ n && rest.head?.all endsLine then some rest else none

/-- A list marker: its last character, its number and its length. Numbers have at most nine
digits. -/
def marker? (cs : List Char) : Option (Char × Nat × Nat) :=
  match cs with
  | c :: _ =>
    if c = '-' || c = '+' || c = '*' then some (c, 0, 1)
    else
      let digits := cs.takeWhile Char.isDigit
      if digits.isEmpty || 9 < digits.length then none
      else match cs.drop digits.length with
        | d :: _ =>
          if d = '.' || d = ')' then
            some (d, digits.foldl (fun n e => 10 * n + (e.toNat - '0'.toNat)) 0, digits.length + 1)
          else none
        | [] => none
  | [] => none

/-- Whether a line starts an item that may interrupt a paragraph. Where the paragraph could go on in
the same containers the item has to have content, and a number has to be one. -/
def interruptsAsItem (sameContainers : Bool) (cs : List Char) : Bool :=
  match marker? cs with
  | none => false
  | some (mark, number, size) =>
    let rest := cs.drop size
    rest.head?.all (fun c => c = ' ' || c = '\t' || endsLine c) &&
      (!sameContainers ||
        ((mark = '-' || mark = '+' || mark = '*' || number = 1) && !startsBlank rest))

end Stencil.Markup
