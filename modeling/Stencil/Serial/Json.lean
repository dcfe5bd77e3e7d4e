import Stencil.Text.Quoted

/-!
# JSON

* `Json` is a JSON value. Numbers are whole or not; nothing here computes with the latter.
* `Json.pretty` writes a value over several lines.
* `Json.fields?` gives the fields of a record by their names, or by position from an array.
-/

namespace Stencil

/-- A JSON value. -/
inductive Json where
  | null
  | boolean (value : Bool)
  | integer (value : Int)
  /-- The number `mantissa / 10 ^ places`. -/
  | fraction (mantissa : Int) (places : Nat)
  | text (value : String)
  | array (items : List Json)
  | object (members : List (String × Json))
  deriving Inhabited

namespace Json

/-! ## Writing -/

/-- Four digits in base sixteen. -/
def fourHex (n : Nat) : List Char :=
  let digits := Text.hexDigits n
  List.replicate (4 - digits.length) '0' ++ digits

/-- A character of a quoted text. -/
def escapeChar (c : Char) : List Char :=
  if c = '"' then ['\\', '"']
  else if c = '\\' then ['\\', '\\']
  else if c = '\n' then ['\\', 'n']
  else if c = '\r' then ['\\', 'r']
  else if c = '\t' then ['\\', 't']
  else if c = '\x08' then ['\\', 'b']
  else if c = '\x0c' then ['\\', 'f']
  else if c.toNat < 0x20 then '\\' :: 'u' :: fourHex c.toNat
  else [c]

/-- A quoted text. -/
def quoted (s : String) : String :=
  String.ofList ('"' :: s.toList.flatMap escapeChar ++ ['"'])

/-- A line feed and the indentation of a level. -/
def lineStart (level : Nat) : String := String.ofList ('\n' :: List.replicate (2 * level) ' ')

/-- Items at a level between brackets, or the brackets alone. -/
def bracketed (level : Nat) (left right : String) (items : List String) : String :=
  if items.isEmpty then left ++ right
  else left ++ lineStart (level + 1) ++ String.intercalate ("," ++ lineStart (level + 1)) items
    ++ lineStart level ++ right

mutual

/-- A value at a level of indentation. -/
def prettyAt (level : Nat) : Json → String
  | .null => "null"
  | .boolean value => if value then "true" else "false"
  | .integer value => toString value
  | .fraction mantissa places => toString mantissa ++ "e-" ++ toString places
  | .text value => quoted value
  | .array items => bracketed level "[" "]" (prettyItems (level + 1) items)
  | .object members => bracketed level "\x7b" "\x7d" (prettyMembers (level + 1) members)

/-- The items of an array. -/
def prettyItems (level : Nat) : List Json → List String
  | [] => []
  | item :: items => prettyAt level item :: prettyItems level items

/-- The members of an object. -/
def prettyMembers (level : Nat) : List (String × Json) → List String
  | [] => []
  | (key, value) :: members =>
    (quoted key ++ ": " ++ prettyAt level value) :: prettyMembers level members

end

/-- A value over several lines, indented by two spaces. -/
def pretty (j : Json) : String := prettyAt 0 j

/-! ## Reading -/

mutual

/-- How deeply values are nested. -/
def depth : Json → Nat
  | .array items => depthItems items + 1
  | .object members => depthMembers members + 1
  | _ => 0

/-- The depth of the deepest item. -/
def depthItems : List Json → Nat
  | [] => 0
  | item :: items => max item.depth (depthItems items)

/-- The depth of the deepest member. -/
def depthMembers : List (String × Json) → Nat
  | [] => 0
  | (_, value) :: members => max value.depth (depthMembers members)

end

/-- The value of a member. -/
def member? (key : String) : List (String × Json) → Option Json
  | [] => none
  | (k, value) :: members => if k = key then some value else member? key members

/-- The fields of a record: by name from an object, by position from an array, which has no more
items than there are names. Missing fields are `none`. -/
def fields? (names : List String) : Json → Option (List (Option Json))
  | .object members => some (names.map fun name => member? name members)
  | .array items =>
    if items.length ≤ names.length then
      some ((List.range names.length).map fun i => items[i]?)
    else none
  | _ => none

/-- A text. -/
def text? : Json → Option String
  | .text value => some value
  | _ => none

/-- A whole number between two bounds. -/
def integer? (low high : Int) : Json → Option Int
  | .integer value => if low ≤ value ∧ value ≤ high then some value else none
  | _ => none

/-- A signed number of 64 bits. -/
def int64? : Json → Option Int :=
  integer? (-0x8000000000000000) 0x7FFFFFFFFFFFFFFF

/-- A signed number of 32 bits. -/
def int32? : Json → Option Int := integer? (-0x80000000) 0x7FFFFFFF

/-- An unsigned number of 64 bits. -/
def nat64? (j : Json) : Option Nat := (integer? 0 0xFFFFFFFFFFFFFFFF j).map Int.toNat

/-- An array of things. -/
def list? {α : Type} (read : Json → Option α) : Json → Option (List α)
  | .array items => items.mapM read
  | _ => none

/-- A field that has to be there. -/
def required {α : Type} (read : Json → Option α) : Option Json → Option α
  | some value => read value
  | none => none

/-- A field that may be missing. -/
def defaulted {α : Type} (d : α) (read : Json → Option α) : Option Json → Option α
  | some value => read value
  | none => some d

/-- A field that may be missing or null. -/
def optional {α : Type} (read : Json → Option α) : Option Json → Option (Option α)
  | none | some .null => some none
  | some value => (read value).map some

end Json

end Stencil
