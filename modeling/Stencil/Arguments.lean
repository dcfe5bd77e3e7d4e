import Stencil.Decimal.Numeral
import Stencil.Dictionary
import Stencil.Text.Blank
import Stencil.Text.Letter

/-!
# Arguments

The arguments of an invocation, positional or named.

* `readArgument` reads one argument, `Arguments.ofRaw` all of them.
* `Arguments.lookup?` finds an argument by name, by `$` and its position, or by both, of which one
  may be missing.
-/

namespace Stencil

/-- The value of an argument. -/
inductive Argument where
  | text (value : String)
  /-- A name alone is on; with an empty value it is off. -/
  | flag (value : Bool)
  deriving Repr, DecidableEq

namespace Argument

/-- The value of an argument that is not there. -/
def absent : Argument := .text ""

/-- The text of a value. -/
def toText : Argument → String
  | .text value => value
  | .flag value => if value then "true" else "false"

end Argument

/-- The text between two equal quotes at its ends, of whichever kind. -/
def unquote (cs : List Char) : List Char :=
  match Text.trim cs with
  | [] => []
  | c :: cs =>
    if (c = '"' || c = '\'' || c = '`') && cs.getLast? = some c then cs.dropLast else c :: cs

/-- Whether a text is a dollar sign and digits. -/
def isPlaceholder : List Char → Bool
  | '$' :: digits => !digits.isEmpty && digits.all Char.isDigit
  | _ => false

/-- A placeholder that nothing was put into is empty; with one more dollar sign it stands for
itself. -/
def fillPlaceholder (cs : List Char) : List Char :=
  match cs with
  | '$' :: rest =>
    if isPlaceholder rest then rest else if isPlaceholder cs then [] else cs
  | _ => cs

/-- Whether the name of an argument may contain `c`. -/
def isArgumentChar (c : Char) : Bool := Text.isWordChar c || c = '_' || c = '-'

/-- Name and value of a named argument: a colon and a name, then the end or a blank. -/
def cutName? : List Char → Option (List Char × List Char)
  | ':' :: body =>
    let name := body.takeWhile isArgumentChar
    match name.isEmpty, body.dropWhile isArgumentChar with
    | true, _ => none
    | false, [] => some (name, [])
    | false, c :: rest => if Text.isBlank c then some (name, Text.trim (c :: rest)) else none
  | _ => none

/-- The value after a name. -/
def namedValue (cs : List Char) : Argument :=
  if cs.isEmpty then .flag true
  else if (unquote cs).isEmpty then .flag false
  else .text (String.ofList (unquote cs))

/-- Reads an argument: its name, if it has one, and its value. -/
def readArgument (raw : String) : Option String × Argument :=
  let cs := fillPlaceholder (Text.trim raw.toList)
  match cutName? cs with
  | some (name, rest) => (some (String.ofList name), namedValue rest)
  | none => (none, .text (String.ofList (unquote cs)))

/-- The arguments of an invocation. -/
structure Arguments where
  /-- Names and values in order. -/
  entries : List (Option String × Argument)
  /-- The values by name and by position. -/
  keyed : Dictionary Argument
  deriving DecidableEq

namespace Arguments

/-- No arguments. -/
def empty : Arguments := ⟨[], .empty⟩

/-- The key of a position, counted from one. -/
def ordinalName (position : Nat) : String := "$" ++ toString position

/-- Adds an argument at the end. -/
def add (a : Arguments) (entry : Option String × Argument) : Arguments :=
  let keyed := match entry.1 with
    | some name => a.keyed.insert name entry.2
    | none => a.keyed
  ⟨a.entries ++ [entry], keyed.insert (ordinalName (a.entries.length + 1)) entry.2⟩

/-- Reads all arguments. -/
def ofRaw (raw : List String) : Arguments := (raw.map readArgument).foldl add empty

/-- How many arguments there are. -/
def size (a : Arguments) : Nat := a.entries.length

/-- A number that fits 64 bits. -/
def position? (digits : List Char) : Option Nat :=
  if digits.isEmpty || !digits.all Char.isDigit then none
  else if Decimal.digitsValue digits < 0x10000000000000000 then some (Decimal.digitsValue digits)
  else none

/-- A name, the last dollar sign and a position. -/
def nameThenPosition? (key : List Char) : Option (String × Nat) :=
  match Text.cutAtLast? '$' key with
  | none => none
  | some (name, digits) =>
    if name.isEmpty then none
    else (position? digits).map fun n => (String.ofList name, n)

/-- A dollar sign, a position and a name. -/
def positionThenName? : List Char → Option (Nat × String)
  | '$' :: rest =>
    let name := rest.dropWhile Char.isDigit
    if name.isEmpty then none
    else (position? (rest.takeWhile Char.isDigit)).map fun n => (n, String.ofList name)
  | _ => none

/-- The value of a key: the one with exactly this key, or by name and position in the order in which
the key has them. -/
def lookup? (a : Arguments) (key : String) : Option Argument :=
  match a.keyed.get? key with
  | some value => some value
  | none =>
    match nameThenPosition? key.toList with
    | some (name, n) => (a.keyed.get? name).or (a.keyed.get? (ordinalName n))
    | none =>
      match positionThenName? key.toList with
      | some (n, name) => (a.keyed.get? (ordinalName n)).or (a.keyed.get? name)
      | none => none

/-- The value of a key, empty if it has none. -/
def get (a : Arguments) (key : String) : Argument := (a.lookup? key).getD .absent

/-- The value at a position, counted from one. -/
def ordinal (a : Arguments) (position : Nat) : Argument := a.get (ordinalName position)

end Arguments

end Stencil
