import Stencil.Text.Line

/-!
# Errors of patterns

* `PatternFault` lists what can be wrong with a pattern; `PatternFault.message` is its wording.
* `PatternError` is a fault with the characters it concerns; `PatternError.report` shows the pattern
  with marks below those characters.
-/

namespace Stencil

/-- What is wrong with a pattern. -/
inductive PatternFault where
  | classEscape
  | classRangeOrder
  | classRangeEnd
  | classUnclosed
  | decimalInvalid
  | hexEmpty
  | hexInvalid
  | hexDigit
  | escapeEnd
  | escapeUnknown
  | switchNegation
  | switchTwice
  | switchNegationTwice
  | switchEnd
  | switchUnknown
  | nameTwice
  | nameEmpty
  | nameChar
  | nameUnclosed
  | groupUnclosed
  | groupUnopened
  | countOrder
  | countEmpty
  | countUnclosed
  | nothingRepeated
  | edgeUnclosed
  | edgeUnknown
  | edgeEnd
  | property
  | backreference
  | lookAround
  deriving Repr, DecidableEq

/-- The wording of a fault. -/
def PatternFault.message : PatternFault → String
  | .classEscape => "invalid escape sequence found in character class"
  | .classRangeOrder => "invalid character class range, the start must be <= the end"
  | .classRangeEnd => "invalid range boundary, must be a literal"
  | .classUnclosed => "unclosed character class"
  | .decimalInvalid => "decimal literal invalid"
  | .hexEmpty => "hexadecimal literal empty"
  | .hexInvalid => "hexadecimal literal is not a Unicode scalar value"
  | .hexDigit => "invalid hexadecimal digit"
  | .escapeEnd => "incomplete escape sequence, reached end of pattern prematurely"
  | .escapeUnknown => "unrecognized escape sequence"
  | .switchNegation => "dangling flag negation operator"
  | .switchTwice => "duplicate flag"
  | .switchNegationTwice => "flag negation operator repeated"
  | .switchEnd => "expected flag but got end of regex"
  | .switchUnknown => "unrecognized flag"
  | .nameTwice => "duplicate capture group name"
  | .nameEmpty => "empty capture group name"
  | .nameChar => "invalid capture group character"
  | .nameUnclosed => "unclosed capture group name"
  | .groupUnclosed => "unclosed group"
  | .groupUnopened => "unopened group"
  | .countOrder => "invalid repetition count range, the start must be <= the end"
  | .countEmpty => "repetition quantifier expects a valid decimal"
  | .countUnclosed => "unclosed counted repetition"
  | .nothingRepeated => "repetition operator missing expression"
  | .edgeUnclosed =>
    "special word boundary assertion is either unclosed or contains an invalid character"
  | .edgeUnknown => "unrecognized special word boundary assertion, valid choices are: " ++
    "start, end, start-half or end-half"
  | .edgeEnd => "found either the beginning of a special word boundary or a bounded repetition " ++
    "on a \\b with an opening brace, but no closing brace"
  | .property => "Unicode property not found"
  | .backreference => "backreferences are not supported"
  | .lookAround => "look-around, including look-ahead and look-behind, is not supported"

/-- The characters from one offset up to another. -/
structure Stretch where
  start : Nat
  stop : Nat
  deriving Repr, DecidableEq

/-- A fault and the characters it concerns. -/
structure PatternError where
  fault : PatternFault
  stretch : Stretch
  /-- What the fault is in conflict with. -/
  earlier : Option Stretch := none
  deriving Repr, DecidableEq

namespace PatternError

/-- The line of an offset, from one. -/
def lineOf (pattern : List Char) (offset : Nat) : Nat := (pattern.take offset).count '\n' + 1

/-- The column of an offset in its line, from one. -/
def columnOf (pattern : List Char) (offset : Nat) : Nat :=
  ((pattern.take offset).reverse.takeWhile (· ≠ '\n')).length + 1

/-- Whether a stretch lies in one line. -/
def isInLine (pattern : List Char) (s : Stretch) : Bool :=
  lineOf pattern s.start = lineOf pattern s.stop

/-- The stretches that an error points at, in order. -/
def stretches (e : PatternError) : List Stretch :=
  match e.earlier with
  | none => [e.stretch]
  | some s => if s.start ≤ e.stretch.start then [s, e.stretch] else [e.stretch, s]

/-- The marks below one line. An empty stretch is marked too. -/
def marks (pattern : List Char) (ss : List Stretch) : List Char :=
  ss.foldl (fun row s =>
    let column := columnOf pattern s.start
    row ++ List.replicate (column - 1 - row.length) ' ' ++
      List.replicate (max 1 (columnOf pattern s.stop - column)) '^') []

/-- A number with blanks before it, up to a width. -/
def padded (width n : Nat) : String :=
  String.ofList (List.replicate (width - (toString n).length) ' ') ++ toString n

/-- A line of the pattern and, if the error points at it, the marks below it. Lines are numbered if
there is more than one. -/
def shownLine (pattern : List Char) (width : Nat) (ss : List Stretch) (number : Nat)
    (line : List Char) : String :=
  let margin := if width = 0 then "    " else padded width number ++ ": "
  let here := ss.filter fun s => lineOf pattern s.start = number
  let below := if here.isEmpty then "" else
    String.ofList (List.replicate margin.length ' ' ++ marks pattern here ++ ['\n'])
  margin ++ String.ofList line ++ "\n" ++ below

/-- The lines of the pattern with marks. -/
def shownLines (pattern : List Char) (width : Nat) (ss : List Stretch) (number : Nat) :
    List (List Char) → String
  | [] => ""
  | line :: lines =>
    shownLine pattern width ss number line ++ shownLines pattern width ss (number + 1) lines

/-- Where a stretch of several lines starts and ends. -/
def longStretch (pattern : List Char) (s : Stretch) : String :=
  "on line " ++ toString (lineOf pattern s.start) ++ " (column " ++
    toString (columnOf pattern s.start) ++ ") through line " ++ toString (lineOf pattern s.stop) ++
    " (column " ++ toString (columnOf pattern s.stop - 1) ++ ")\n"

/-- The report of an error: the pattern with marks, then the wording of the fault. -/
def report (pattern : List Char) (e : PatternError) : String :=
  let lines := Text.lines pattern
  let count := lines.length + (if pattern.getLast? = some '\n' then 1 else 0)
  let width := if count ≤ 1 then 0 else (toString count).length
  let shown := shownLines pattern width (e.stretches.filter (isInLine pattern)) 1 lines
  let body :=
    if pattern.contains '\n' then
      let divider := String.ofList (List.replicate 79 '~') ++ "\n"
      divider ++ shown ++ divider ++
        String.join ((e.stretches.filter fun s => !isInLine pattern s).map (longStretch pattern))
    else shown
  "regex parse error:\n" ++ body ++ "error: " ++ e.fault.message

end PatternError

end Stencil
