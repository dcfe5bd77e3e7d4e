/-!
# Options of a command line

A command line is made of options, which start with a hyphen, and of other words.

* `Given` is one thing that a command line gives; `Given.scan` reads them all.
* `Given.flag`, `Given.value?`, `Given.values` and `Given.words` ask for what was given.
* `UsageError` is everything that can be wrong with a command line.
-/

namespace Stencil.CommandLine

/-- An option that a command knows. -/
structure Known where
  long : String
  short : Option Char := none
  /-- The name of the value that follows; options without one are flags. -/
  valueName : Option String := none
  /-- Whether the option may be given more than once. -/
  repeatable : Bool := false
  deriving Repr, DecidableEq

/-- An option as it is shown in messages. -/
def Known.label (k : Known) : String :=
  match k.valueName with
  | some name => "--" ++ k.long ++ " <" ++ name ++ ">"
  | none => "--" ++ k.long

/-- What is wrong with a command line. -/
inductive UsageError where
  | noCommand
  | unknownCommand (name : String)
  | unexpected (word : String)
  | unexpectedValue (label value : String)
  | noValue (label : String)
  | repeated (label : String)
  | conflict (label other : String)
  | missing (label : String)
  | badNumber (label value : String)
  deriving Repr, DecidableEq

/-- The wording of an error. -/
def UsageError.message : UsageError → String
  | .noCommand => "a subcommand is required but one was not provided"
  | .unknownCommand name => "unrecognized subcommand '" ++ name ++ "'"
  | .unexpected word => "unexpected argument '" ++ word ++ "' found"
  | .unexpectedValue label value =>
    "unexpected value '" ++ value ++ "' for '" ++ label ++ "' found; no more were expected"
  | .noValue label => "a value is required for '" ++ label ++ "' but none was supplied"
  | .repeated label => "the argument '" ++ label ++ "' cannot be used multiple times"
  | .conflict label other =>
    "the argument '" ++ label ++ "' cannot be used with '" ++ other ++ "'"
  | .missing label => "the following required arguments were not provided:\n  " ++ label
  | .badNumber label value =>
    "invalid value '" ++ value ++ "' for '" ++ label ++ "': invalid digit found in string"

/-- One thing that a command line gives. -/
inductive Given where
  | flag (option : Known)
  | value (option : Known) (text : String)
  | word (text : String)
  /-- A word after two hyphens that stand alone. -/
  | trailing (text : String)
  deriving Repr, DecidableEq

namespace Given

/-- Whether a word is an option: it starts with a hyphen and goes on. -/
def isOption (word : String) : Bool :=
  match word.toList with
  | '-' :: _ :: _ => true
  | _ => false

/-- What an option without a value of its own stands for: a flag, or an option that takes the next
word. -/
def opened (option : Known) : List Given × Option Known :=
  match option.valueName with
  | none => ([flag option], none)
  | some _ => ([], some option)

/-- Reads an option with two hyphens. -/
def ofLong (known : List Known) (cs : List Char) :
    Except UsageError (List Given × Option Known) :=
  let name := String.ofList (cs.takeWhile (· ≠ '='))
  match known.find? fun k => k.long = name with
  | none => .error (.unexpected ("--" ++ name))
  | some option =>
    match cs.dropWhile (· ≠ '=') with
    | [] => .ok (opened option)
    | _ :: text =>
      let text := String.ofList text
      match option.valueName with
      | some _ => .ok ([value option text], none)
      | none => .error (.unexpectedValue option.label text)

/-- Reads options of one letter that stand together. After one that has a value, the rest is that
value. -/
def ofShorts (known : List Known) : List Char → Except UsageError (List Given × Option Known)
  | [] => .ok ([], none)
  | c :: cs =>
    match known.find? fun k => k.short = some c with
    | none => .error (.unexpected (String.ofList ['-', c]))
    | some option =>
      match option.valueName, cs with
      | none, _ => do
        let (given, waiting) ← ofShorts known cs
        .ok (flag option :: given, waiting)
      | some _, [] => .ok ([], some option)
      | some _, '=' :: text => .ok ([value option (String.ofList text)], none)
      | some _, text => .ok ([value option (String.ofList text)], none)

/-- Reads a word, and says which option takes the next one. -/
def ofWord (known : List Known) (text : String) : Except UsageError (List Given × Option Known) :=
  match text.toList with
  | '-' :: '-' :: cs => ofLong known cs
  | '-' :: c :: cs => ofShorts known (c :: cs)
  | _ => .ok ([word text], none)

/-- Reads the words of a command line; `waiting` is the option that takes the next one. -/
def scan (known : List Known) (waiting : Option Known) :
    List String → Except UsageError (List Given)
  | [] =>
    match waiting with
    | none => .ok []
    | some option => .error (.noValue option.label)
  | text :: texts =>
    match waiting with
    | some option =>
      if isOption text then .error (.noValue option.label)
      else do
        let given ← scan known none texts
        .ok (value option text :: given)
    | none =>
      if text = "--" then .ok (texts.map trailing)
      else do
        let (given, waiting) ← ofWord known text
        let more ← scan known waiting texts
        .ok (given ++ more)

/-! ## What was given -/

/-- Whether something is about an option. -/
def isOf (long : String) : Given → Bool
  | flag option => option.long = long
  | value option _ => option.long = long
  | _ => false

/-- How often an option was given. -/
def count (given : List Given) (long : String) : Nat := given.countP (isOf long)

/-- Whether an option was given. -/
def has (given : List Given) (long : String) : Bool := given.any (isOf long)

/-- The values of an option in order. -/
def values (given : List Given) (long : String) : List String :=
  given.filterMap fun
    | value option text => if option.long = long then some text else none
    | _ => none

/-- The value of an option. -/
def value? (given : List Given) (long : String) : Option String := (values given long).head?

/-- The words that belong to no option. -/
def words (given : List Given) : List String :=
  given.filterMap fun
    | word text => some text
    | _ => none

/-- The words after two hyphens that stand alone. -/
def trailings (given : List Given) : List String :=
  given.filterMap fun
    | trailing text => some text
    | _ => none

/-- Refuses options that were given too often. -/
def checkRepeated (known : List Known) (given : List Given) : Except UsageError Unit :=
  match known.find? fun k => !k.repeatable && decide (1 < count given k.long) with
  | some option => .error (.repeated option.label)
  | none => .ok ()

end Given

end Stencil.CommandLine
