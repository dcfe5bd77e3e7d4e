import Stencil.Pattern.Symbol

/-!
# Reading patterns

A pattern is read from left to right; a group is read with the same reader as the whole.

* `readBracket` reads a bracketed class with its ranges, nested classes and set operations.
* `readBounds` reads how often something is repeated.
* `Pattern.ofText` reads a pattern, or tells what is wrong with it.
* `PatternEngine` is all that a search by patterns needs; `Pattern.engine` is the one of this
  library.
-/

namespace Stencil.Pattern

/-- Drops blanks, and comments up to the end of their line. -/
def skipSpaced (limit : Nat) (cs : List Char) : List Char :=
  match limit with
  | 0 => cs
  | limit + 1 =>
    match cs.dropWhile Text.isBlank with
    | '#' :: rest => skipSpaced limit (rest.dropWhile (· ≠ '\n'))
    | rest => rest

/-- Drops what has no meaning under the switches. -/
def skipIgnored (o : Options) (cs : List Char) : List Char :=
  if o.spaced then skipSpaced cs.length cs else cs

/-! ## Bracketed classes -/

/-- The operations on classes. -/
inductive SetOp where
  | intersection | difference | symmetricDifference
  deriving Repr, DecidableEq

/-- Applies an operation on classes. -/
def SetOp.apply (op : SetOp) (left right : Char → Bool) (c : Char) : Bool :=
  match op with
  | .intersection => left c && right c
  | .difference => left c && !right c
  | .symmetricDifference => left c != right c

/-- A bracketed class that has been read in part. -/
structure OpenClass where
  negated : Bool
  /-- The class before the last operation. -/
  left : Option ((Char → Bool) × SetOp) := none
  /-- What was read since. -/
  union : Char → Bool := fun _ => false

namespace OpenClass

/-- Adds characters to the class. -/
def add (k : OpenClass) (test : Char → Bool) : OpenClass :=
  { k with union := fun c => k.union c || test c }

/-- The class so far, with the last operation applied. -/
def total (k : OpenClass) : Char → Bool :=
  match k.left with
  | none => k.union
  | some (left, op) => op.apply left k.union

/-- Starts the right side of an operation. -/
def apply (k : OpenClass) (op : SetOp) : OpenClass :=
  { k with left := some (k.total, op), union := fun _ => false }

/-- The finished class. -/
def close (k : OpenClass) : Char → Bool := fun c => k.total c != k.negated

end OpenClass

/-- A character or a class inside of a bracketed class. -/
def readClassSymbol (o : Options) (cs : List Char) : Except PatternError (Symbol × List Char) :=
  match cs with
  | [] => failAt .classUnclosed cs cs
  | '\\' :: rest => Symbol.read o cs rest
  | c :: rest => .ok (.char c, rest)

/-- The characters of a symbol of a bracketed class that was read up to `stop`. -/
def testOf (o : Options) (s : Symbol) (start stop : List Char) :
    Except PatternError (Char → Bool) :=
  match s with
  | .char c => .ok (charTest o c)
  | .set test => .ok test
  | .place _ => failAt .classEscape start stop

/-- The end of a range, which has to be a character. -/
def endOf (s : Symbol) (start stop : List Char) : Except PatternError Char :=
  match s with
  | .char c => .ok c
  | _ => failAt .classRangeEnd start stop

/-- A character, a class or a range inside of a bracketed class that starts at `opening`. -/
def readRange (o : Options) (opening : Stretch) (cs : List Char) :
    Except PatternError ((Char → Bool) × List Char) := do
  let (first, rest) ← readClassSymbol o cs
  let alone : Except PatternError ((Char → Bool) × List Char) := do
    return (← testOf o first cs rest, rest)
  match skipIgnored o rest with
  | [] => .error ⟨.classUnclosed, opening, none⟩
  | '-' :: after =>
    match skipIgnored o after with
    | ']' :: _ | '-' :: _ => alone
    | [] => .error ⟨.classUnclosed, opening, none⟩
    | after => do
      let (last, stop) ← readClassSymbol o after
      let low ← endOf first cs rest
      let high ← endOf last after stop
      if low ≤ high then return (caseTest o fun c => low ≤ c && c ≤ high, stop)
      else failAt .classRangeOrder cs stop
  | _ => alone

/-- An ASCII class by its name, after the opening bracket. -/
def readNamedClass? (cs : List Char) : Option ((Char → Bool) × List Char) :=
  match cs with
  | ':' :: rest =>
    let (negated, rest) := match rest with
      | '^' :: rest => (true, rest)
      | _ => (false, rest)
    match Text.cutAt? [':', ']'] rest with
    | some (name, after) =>
      (namedClass? (String.ofList name)).map fun test => (fun c => test c != negated, after)
    | none => none
  | _ => none

/-- The dashes at the start of a class, which stand for themselves. -/
def readDashes (o : Options) (k : OpenClass) : List Char → OpenClass × List Char
  | '-' :: cs => readDashes o (k.add (charTest o '-')) cs
  | cs => (k, cs)

/-- The start of a class: a caret that negates it, dashes, and a closing bracket that stands for
itself if it comes first. -/
def openClass (o : Options) (cs : List Char) : OpenClass × List Char :=
  let (k, cs) : OpenClass × List Char := match skipIgnored o cs with
    | '^' :: cs => (⟨true, none, fun _ => false⟩, skipIgnored o cs)
    | cs => (⟨false, none, fun _ => false⟩, cs)
  match cs with
  | ']' :: cs => (k.add (charTest o ']'), cs)
  | cs => readDashes o k cs

/-- The start of a class as an error shows it. Where the pattern ends after dashes, only the place
of the bracket is shown. -/
def openingOf (cs rest : List Char) : Stretch :=
  if rest.isEmpty && cs.getLast? = some '-' then ⟨cs.length + 1, cs.length + 1⟩
  else ⟨cs.length + 1, rest.length⟩

/-- Reads a bracketed class up to its closing bracket. -/
def readBracket (limit : Nat) (o : Options) (opening : Stretch) (k : OpenClass) (cs : List Char) :
    Except PatternError ((Char → Bool) × List Char) :=
  match limit with
  | 0 => .error ⟨.classUnclosed, opening, none⟩
  | limit + 1 =>
    match skipIgnored o cs with
    | [] => .error ⟨.classUnclosed, opening, none⟩
    | ']' :: rest => .ok (k.close, rest)
    | '[' :: rest =>
      match readNamedClass? rest with
      | some (test, rest) => readBracket limit o opening (k.add (caseTest o test)) rest
      | none => do
        let (inner, after) := openClass o rest
        let (test, rest) ← readBracket limit o (openingOf rest after) inner after
        readBracket limit o opening (k.add test) rest
    | '&' :: '&' :: rest => readBracket limit o opening (k.apply .intersection) rest
    | '-' :: '-' :: rest => readBracket limit o opening (k.apply .difference) rest
    | '~' :: '~' :: rest => readBracket limit o opening (k.apply .symmetricDifference) rest
    | cs => do
      let (test, rest) ← readRange o opening cs
      readBracket limit o opening (k.add test) rest

/-! ## Repetitions -/

/-- How often something is repeated. -/
structure Bounds where
  least : Nat
  most : Option Nat
  deriving Repr, DecidableEq

/-- A number that fits 32 bits, with blanks around it. -/
def readCount (cs : List Char) : Except PatternError Nat × List Char :=
  let start := Text.trimStart cs
  let digits := start.takeWhile Char.isDigit
  let stop := start.dropWhile Char.isDigit
  let count := digits.foldl (fun n c => 10 * n + (c.toNat - '0'.toNat)) 0
  let result :=
    if digits.isEmpty then failAt .countEmpty start stop
    else if 0x100000000 ≤ count then failAt .decimalInvalid start stop
    else .ok count
  (result, Text.trimStart stop)

/-- The rest after the closing brace of a repetition and the mark that prefers short matches. -/
def closeBraces (start : List Char) : List Char → Except PatternError (List Char)
  | '\x7d' :: '?' :: rest => .ok rest
  | '\x7d' :: rest => .ok rest
  | cs => failAt .countUnclosed start cs

/-- Bounds in braces; `start` is the text from the opening brace on. -/
def readBraces (start cs : List Char) : Except PatternError (Bounds × List Char) :=
  if cs.isEmpty then failAt .countUnclosed start cs
  else
    let (least, rest) := readCount cs
    match rest with
    | [] => failAt .countUnclosed start []
    | [','] => failAt .countUnclosed start []
    | ',' :: '\x7d' :: _ => do
      let least ← least
      return (⟨least, none⟩, ← closeBraces start rest.tail)
    | ',' :: rest => do
      let least ← least
      let (most, rest) := readCount rest
      let most ← most
      let rest ← closeBraces start rest
      if least ≤ most then return (⟨least, some most⟩, rest) else failAt .countOrder start rest
    | _ => do
      let least ← least
      return (⟨least, some least⟩, ← closeBraces start rest)

/-- Whether a character starts a repetition. -/
def isRepeater (c : Char) : Bool := c = '*' || c = '+' || c = '?' || c = '\x7b'

/-- The rest without the mark that prefers short matches. -/
def dropLazy : List Char → List Char
  | '?' :: rest => rest
  | cs => cs

/-- The bounds that a repetition stands for. -/
def readBounds (c : Char) (cs : List Char) : Except PatternError (Bounds × List Char) :=
  if c = '*' then .ok (⟨0, none⟩, dropLazy cs)
  else if c = '+' then .ok (⟨1, none⟩, dropLazy cs)
  else if c = '?' then .ok (⟨0, some 1⟩, dropLazy cs)
  else readBraces (c :: cs) cs

/-! ## Groups -/

/-- The start of a group. -/
inductive GroupStart where
  /-- Switches for the rest of the group around. -/
  | switches (o : Options)
  /-- A group, with the switches inside of it. -/
  | group (o : Options) (name : Option (String × Stretch))

/-- Turns a switch on or off. Some switches never change whether a text matches. -/
def setSwitch? (o : Options) (on : Bool) (c : Char) : Option Options :=
  if c = 'i' then some { o with ignoreCase := on }
  else if c = 'm' then some { o with multiLine := on }
  else if c = 's' then some { o with dotAll := on }
  else if c = 'x' then some { o with spaced := on }
  else if c = 'u' then some { o with asciiOnly := !on }
  else if c = 'U' || c = 'R' then some o
  else none

/-- The stretch of the first character of a text. -/
def firstStretch (cs : List Char) : Stretch := ⟨cs.length, cs.length - 1⟩

/-- The switches of a group, none twice: first those to turn on, after a dash those to turn off. The
switches read so far come with their stretches, the last one first; `start` is the text from the
question mark on. -/
def readSwitches (o : Options) (on : Bool) (seen : List (Char × Stretch)) (start : List Char) :
    List Char → Except PatternError (GroupStart × List Char)
  | [] => failAt .switchEnd [] []
  | c :: cs =>
    let here := firstStretch (c :: cs)
    if c = ')' || c = ':' then
      match seen with
      | ('-', stretch) :: _ => .error ⟨.switchNegation, stretch, none⟩
      | _ =>
        if c = ':' then .ok (.group o none, cs)
        else if seen.isEmpty then failAt .nothingRepeated start start
        else .ok (.switches o, cs)
    else
      match if c = '-' then some o else setSwitch? o on c, seen.lookup c with
      | none, _ => .error ⟨.switchUnknown, here, none⟩
      | some _, some stretch =>
        .error ⟨if c = '-' then .switchNegationTwice else .switchTwice, here, some stretch⟩
      | some o, none => readSwitches o (on && c ≠ '-') ((c, here) :: seen) start cs

/-- Whether the name of a group may contain a character, at its start or later. -/
def isGroupNameChar (first : Bool) (c : Char) : Bool :=
  c = '_' || (if first then Text.isLetter c
    else Text.isWordChar c || c = '.' || c = '[' || c = ']')

/-- A name of a group up to the closing angle; `start` is the text from the name on. -/
def readGroupName (start : List Char) (name : List Char) :
    List Char → Except PatternError ((String × Stretch) × List Char)
  | [] => failAt .nameUnclosed [] []
  | c :: cs =>
    if c = '>' then
      if name.isEmpty then failAt .nameEmpty start start
      else .ok ((String.ofList name, ⟨start.length, cs.length + 1⟩), cs)
    else if isGroupNameChar name.isEmpty c then readGroupName start (name ++ [c]) cs
    else failAt .nameChar (c :: cs) cs

/-- Reads the start of a group after its parenthesis. -/
def readGroupStart (o : Options) (start cs : List Char) :
    Except PatternError (GroupStart × List Char) :=
  match cs with
  | '?' :: '=' :: rest | '?' :: '!' :: rest => failAt .lookAround start rest
  | '?' :: '<' :: '=' :: rest | '?' :: '<' :: '!' :: rest => failAt .lookAround start rest
  | '?' :: 'P' :: '<' :: rest | '?' :: '<' :: rest => do
    let (name, rest) ← readGroupName rest [] rest
    return (.group o (some name), rest)
  | ['?'] => failAt .groupUnclosed start cs
  | '?' :: rest => readSwitches o true [] cs rest
  | _ => .ok (.group o none, cs)

/-! ## Patterns -/

/-- A group that has been read in part. -/
structure OpenGroup where
  /-- The finished alternatives, the last one first. -/
  choices : List Pattern := []
  /-- The parts of the current alternative, the last one first. What cannot be repeated is none. -/
  parts : List (Option Pattern) := []
  /-- The names of all groups so far. -/
  names : List (String × Stretch) := []

namespace OpenGroup

/-- Adds a part. -/
def add (g : OpenGroup) (p : Pattern) : OpenGroup := { g with parts := some p :: g.parts }

/-- Adds a part that cannot be repeated. -/
def addSwitches (g : OpenGroup) : OpenGroup := { g with parts := none :: g.parts }

/-- Repeats the last part. -/
def repeatLast (g : OpenGroup) (b : Bounds) : OpenGroup :=
  match g.parts with
  | some p :: parts => { g with parts := some (.repeated p b.least b.most) :: parts }
  | _ => g

/-- The parts of the current alternative one after the other. -/
def current (g : OpenGroup) : Pattern :=
  g.parts.foldl (fun rest part =>
    match part with
    | some p => .sequence p rest
    | none => rest) .blank

/-- Starts the next alternative. -/
def nextChoice (g : OpenGroup) : OpenGroup :=
  { g with choices := g.current :: g.choices, parts := [] }

/-- The pattern of a finished group. -/
def close (g : OpenGroup) : Pattern := g.choices.foldl (fun rest p => .choice p rest) g.current

end OpenGroup

/-- The pattern of a symbol with a backslash. -/
def ofSymbol (o : Options) : Symbol → Pattern
  | .char c => .one (charTest o c)
  | .set test => .one test
  | .place spot => .place spot

/-- A part that is not a group. -/
def readPart (limit : Nat) (o : Options) (c : Char) (cs : List Char) :
    Except PatternError (Pattern × List Char) :=
  if c = '\\' then do
    let (symbol, rest) ← Symbol.read o (c :: cs) cs
    return (ofSymbol o symbol, rest)
  else if c = '[' then do
    let (k, after) := openClass o cs
    let (test, rest) ← readBracket limit o (openingOf cs after) k after
    return (.one test, rest)
  else if c = '.' then .ok (.one fun d => o.dotAll || d ≠ '\n', cs)
  else if c = '^' then .ok (.place (if o.multiLine then .lineStart else .textStart), cs)
  else if c = '$' then .ok (.place (if o.multiLine then .lineEnd else .textEnd), cs)
  else .ok (.one (charTest o c), cs)

/-- Fails if a group has the name of an earlier one. -/
def checkName (names : List (String × Stretch)) :
    Option (String × Stretch) → Except PatternError (List (String × Stretch))
  | none => .ok names
  | some (name, stretch) =>
    match names.lookup name with
    | some earlier => .error ⟨.nameTwice, stretch, some earlier⟩
    | none => .ok ((name, stretch) :: names)

/-- Reads a group up to its end, which is a closing parenthesis or the end of the text. -/
def readGroup (limit : Nat) (o : Options) (g : OpenGroup) (cs : List Char) :
    Except PatternError (OpenGroup × List Char) :=
  match limit with
  | 0 => .ok (g, cs)
  | limit + 1 =>
    match skipIgnored o cs with
    | [] => .ok (g, [])
    | c :: cs =>
      if c = ')' then .ok (g, c :: cs)
      else if c = '|' then readGroup limit o g.nextChoice cs
      else if c = '(' then do
        match ← readGroupStart o (c :: cs) cs with
        | (.switches o, rest) => readGroup limit o g.addSwitches rest
        | (.group inner name, rest) =>
          let names ← checkName g.names name
          match ← readGroup limit inner { names } rest with
          | (done, ')' :: rest) =>
            readGroup limit o { g.add done.close with names := done.names } rest
          | _ => failAt .groupUnclosed (c :: cs) cs
      else if isRepeater c then
        match g.parts with
        | some _ :: _ => do
          let (bounds, rest) ← readBounds c cs
          readGroup limit o (g.repeatLast bounds) rest
        | _ => failAt .nothingRepeated (c :: cs) (c :: cs)
      else do
        let (p, rest) ← readPart limit o c cs
        readGroup limit o (g.add p) rest

/-- Counts a stretch from the start of a pattern instead of from its end. -/
def Stretch.fromStart (length : Nat) (s : Stretch) : Stretch :=
  ⟨length - s.start, length - s.stop⟩

/-- Counts the stretches of an error from the start of a pattern instead of from its end. -/
def placeError (length : Nat) (e : PatternError) : PatternError :=
  ⟨e.fault, Stretch.fromStart length e.stretch, e.earlier.map (Stretch.fromStart length)⟩

/-- Reads a pattern. -/
def ofText (text : List Char) : Except PatternError Pattern :=
  (do
    match ← readGroup (text.length + 1) {} {} text with
    | (g, []) => return g.close
    | (_, rest) => failAt .groupUnopened rest rest.tail).mapError (placeError text.length)

end Stencil.Pattern

namespace Stencil

/-- What searches texts for patterns. -/
class PatternEngine where
  /-- Writes a text so that a pattern matches exactly that text. -/
  escape : List Char → List Char
  /-- The search for a pattern in a text, or a report of what is wrong with the pattern. -/
  compile : List Char → Except String (List Char → Bool)

/-- The engine that reads and matches the patterns of this library. -/
instance Pattern.engine : PatternEngine where
  escape := escapeAll
  compile pattern :=
    match ofText pattern with
    | .ok p => .ok p.isFoundIn
    | .error e => .error (e.report pattern)

end Stencil
