import Stencil.Pattern.Basic
import Stencil.Pattern.Error
import Stencil.Text.Blank
import Stencil.Text.Case
import Stencil.Text.Search

/-!
# Symbols of patterns

The parts of a pattern that are written with a backslash or stand for a class of characters.

* `Options` are the switches that change how symbols are read.
* `Symbol` is what a backslash introduces: a character, a class or a place; `Symbol.read` reads one.
* `escapeAll` writes a text so that a pattern matches exactly that text.
-/

namespace Stencil.Pattern

/-- The switches of a pattern. -/
structure Options where
  /-- Letters match in either case. -/
  ignoreCase : Bool := false
  /-- Lines have starts and ends of their own. -/
  multiLine : Bool := false
  /-- A dot also matches a line feed. -/
  dotAll : Bool := false
  /-- Blanks and comments have no meaning. -/
  spaced : Bool := false
  /-- Classes of characters contain ASCII characters only. -/
  asciiOnly : Bool := false
  deriving Repr, DecidableEq

/-! ## Letter case -/

/-- The only character of a list, or else a given one. -/
def single (d : Char) : List Char → Char
  | [c] => c
  | _ => d

/-- The upper case of a letter, if it is a single character. -/
def upperOf (c : Char) : Char := single c (Text.upperChar c)

/-- The lower case of a letter, if it is a single character. -/
def lowerOf (c : Char) : Char := single c (Text.lowerChar c)

/-- The character that stands for all cases of a letter. The dotless i has one case only. -/
def foldCase (c : Char) : Char := if c = 'ı' then c else lowerOf (upperOf c)

/-- The test for a character. -/
def charTest (o : Options) (c : Char) : Char → Bool :=
  if o.ignoreCase then fun d => foldCase d = foldCase c else fun d => d = c

/-- A test that also accepts the other cases of the letters it accepts. -/
def caseTest (o : Options) (test : Char → Bool) : Char → Bool :=
  if o.ignoreCase then fun c =>
    test c || test (foldCase c) || test (upperOf c) || test (upperOf (foldCase c))
  else test

/-! ## Classes with a letter -/

/-- A test that only ASCII characters can pass under some switches. -/
def narrowed (o : Options) (test : Char → Bool) : Char → Bool :=
  fun c => (!o.asciiOnly || c.toNat < 128) && test c

/-- The class of a letter: digits, blanks and parts of words. -/
def classOf? (o : Options) (c : Char) : Option (Char → Bool) :=
  if c = 'd' then some (narrowed o Text.isDecimalDigit)
  else if c = 's' then some (narrowed o Text.isBlank)
  else if c = 'w' then some (narrowed o Text.isWordPart)
  else none

/-- The class of a letter, of which a capital is the complement. -/
def letterClass? (o : Options) (c : Char) : Option (Char → Bool) :=
  if c.isUpper then (classOf? o c.toLower).map fun test d => !test d else classOf? o c

/-- Whether a character is a word character of ASCII. -/
def isAsciiWord (c : Char) : Bool := c.isAlphanum || c = '_'

/-- Whether a character is punctuation of ASCII. -/
def isAsciiPunctuation (c : Char) : Bool := '!' ≤ c && c ≤ '~' && !c.isAlphanum

/-- The ASCII class with a name. -/
def namedClass? (name : String) : Option (Char → Bool) :=
  match name with
  | "alnum" => some Char.isAlphanum
  | "alpha" => some Char.isAlpha
  | "ascii" => some fun c => c.toNat < 128
  | "blank" => some fun c => c = ' ' || c = '\t'
  | "cntrl" => some fun c => c.toNat < 32 || c.toNat = 127
  | "digit" => some Char.isDigit
  | "graph" => some fun c => '!' ≤ c && c ≤ '~'
  | "lower" => some Char.isLower
  | "print" => some fun c => ' ' ≤ c && c ≤ '~'
  | "punct" => some isAsciiPunctuation
  | "space" => some fun c => c = ' ' || (9 ≤ c.toNat && c.toNat ≤ 13)
  | "upper" => some Char.isUpper
  | "word" => some isAsciiWord
  | "xdigit" => some fun c => c.isDigit || ('a' ≤ c.toLower && c.toLower ≤ 'f')
  | _ => none

/-! ## Symbols with a backslash -/

/-- What a backslash introduces. -/
inductive Symbol where
  | char (c : Char)
  | set (test : Char → Bool)
  | place (spot : Place)

/-- The characters that have a meaning in patterns. -/
def isMeta (c : Char) : Bool :=
  ['\\', '.', '+', '*', '?', '(', ')', '|', '[', ']', '\x7b', '\x7d', '^', '$', '#', '&', '-',
    '~'].contains c

/-- Writes a text so that a pattern matches exactly that text. -/
def escapeAll (cs : List Char) : List Char :=
  cs.flatMap fun c => if isMeta c then ['\\', c] else [c]

/-- Whether a backslash before a character takes away its meaning: any ASCII character but letters,
digits and the two angles. -/
def isEscapable (c : Char) : Bool :=
  isMeta c || (c.toNat < 128 && !c.isAlphanum && c ≠ '<' && c ≠ '>')

/-- The value of a hexadecimal digit. -/
def hexDigit? (c : Char) : Option Nat :=
  if c.isDigit then some (c.toNat - '0'.toNat)
  else if 'a' ≤ c.toLower && c.toLower ≤ 'f' then some (c.toLower.toNat - 'a'.toNat + 10)
  else none

/-- The character with a code in hexadecimal digits. -/
def charOfHex? (digits : List Char) : Option Char :=
  let code := (digits.filterMap hexDigit?).foldl (fun n d => 16 * n + d) 0
  if h : code.isValidChar then some (Char.ofNatAux code h) else none

/-- Fails at the characters from one rest of the pattern up to another. While a pattern is read,
offsets count the characters that are left. -/
def failAt {α : Type} (fault : PatternFault) (start stop : List Char) : Except PatternError α :=
  .error ⟨fault, ⟨start.length, stop.length⟩, none⟩

/-- The character with a code, or a failure at the digits. -/
def readCode (digits start stop rest : List Char) : Except PatternError (Symbol × List Char) :=
  match charOfHex? digits with
  | some c => .ok (.char c, rest)
  | none => failAt .hexInvalid start stop

/-- A character by a fixed number of digits. -/
def readDigits (start : List Char) (digits : List Char) (cs : List Char) :
    Nat → Except PatternError (Symbol × List Char)
  | 0 => readCode digits start cs cs
  | count + 1 =>
    match cs with
    | [] => failAt .escapeEnd cs cs
    | c :: rest =>
      if (hexDigit? c).isSome then readDigits start (digits ++ [c]) rest count
      else failAt .hexDigit cs rest

/-- A character by its code in braces, after the opening brace. -/
def readBraced (brace : List Char) (digits : List Char) :
    List Char → Except PatternError (Symbol × List Char)
  | [] => failAt .escapeEnd brace []
  | c :: rest =>
    if c = '\x7d' then
      if digits.isEmpty then failAt .hexEmpty brace rest
      else readCode digits brace.tail (c :: rest) rest
    else if (hexDigit? c).isSome then readBraced brace (digits ++ [c]) rest
    else failAt .hexDigit (c :: rest) rest

/-- A character by its code, either in braces or with a fixed number of digits. -/
def readHex (count : Nat) (cs : List Char) : Except PatternError (Symbol × List Char) :=
  match cs with
  | '\x7b' :: rest => readBraced cs [] rest
  | _ => readDigits cs [] cs count

/-- The control characters that are written with a letter. -/
def controlOf? (c : Char) : Option Char :=
  if c = 'a' then some '\x07'
  else if c = 'f' then some '\x0c'
  else if c = 't' then some '\t'
  else if c = 'n' then some '\n'
  else if c = 'r' then some '\r'
  else if c = 'v' then some '\x0b'
  else none

/-- The places that are written with one character. -/
def placeOf? (c : Char) : Option Place :=
  if c = 'A' then some .textStart
  else if c = 'z' then some .textEnd
  else if c = 'b' then some .wordEdge
  else if c = 'B' then some .noWordEdge
  else if c = '<' then some .wordStart
  else if c = '>' then some .wordEnd
  else none

/-- The edges of words that are written with a name. -/
def edgeOf? (name : String) : Option Place :=
  match name with
  | "start" => some .wordStart
  | "end" => some .wordEnd
  | "start-half" => some .wordStartHalf
  | "end-half" => some .wordEndHalf
  | _ => none

/-- Whether the name of an edge may contain a character. -/
def isEdgeChar (c : Char) : Bool := c.isAlpha || c = '-'

/-- An edge of a word with a name in braces. Braces with anything else are a repetition. -/
def readEdge (start cs : List Char) : Except PatternError (Symbol × List Char) :=
  match cs with
  | ['\x7b'] => failAt .edgeEnd start []
  | '\x7b' :: rest =>
    match rest.takeWhile isEdgeChar, rest.dropWhile isEdgeChar with
    | [], _ => .ok (.place .wordEdge, cs)
    | name, '\x7d' :: after =>
      match edgeOf? (String.ofList name) with
      | some p => .ok (.place p, after)
      | none => failAt .edgeUnknown rest ('\x7d' :: after)
    | _, after => failAt .edgeUnclosed cs after
  | _ => .ok (.place .wordEdge, cs)

/-- Reads what follows a backslash; `start` is the text from the backslash on. -/
def Symbol.read (o : Options) (start : List Char) :
    List Char → Except PatternError (Symbol × List Char)
  | [] => failAt .escapeEnd start []
  | c :: cs =>
    if isEscapable c then .ok (.char c, cs)
    else if c.isDigit then failAt .backreference start cs
    else if c = 'x' then readHex 2 cs
    else if c = 'u' then readHex 4 cs
    else if c = 'U' then readHex 8 cs
    else if c = 'b' then readEdge start cs
    else if c = 'p' || c = 'P' then failAt .property start cs
    else
      match letterClass? o c, controlOf? c, placeOf? c with
      | some test, _, _ => .ok (.set test, cs)
      | none, some d, _ => .ok (.char d, cs)
      | none, none, some p => .ok (.place p, cs)
      | none, none, none => failAt .escapeUnknown start cs

end Stencil.Pattern
