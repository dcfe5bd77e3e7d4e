import Stencil.Arguments
import Stencil.Calendar.Format
import Stencil.Decimal.Whole

/-!
# Values

What expressions evaluate to.

* `Value.isFalsy` and `Value.isEmpty` are the two ways in which a value counts as nothing.
* `Value.same` is equality, under which NaN differs from itself.
* `Value.display` is the text of a value as it is; `Value.linkText` writes pages, blocks and dates
  as links.
-/

namespace Stencil

open Calendar

/-- What a record stands for. -/
inductive RecordForm where
  | page | block | plain
  deriving Repr, DecidableEq

/-- A value. -/
inductive Value where
  | number (value : Float)
  | flag (value : Bool)
  | text (value : String)
  | null
  | list (items : List Value)
  | record (kind : RecordForm) (fields : Dictionary Value)
  | date (value : Date)
  | args (value : Arguments)

instance : Inhabited Value := ⟨.null⟩

namespace Value

/-- A text that may be missing. -/
def ofText? : Option String → Value
  | some s => .text s
  | none => .null

/-- A whole number. -/
def ofInt (n : Int) : Value := .number (Decimal.ofWhole n)

/-- A list of texts. -/
def ofTexts (texts : List String) : Value := .list (texts.map .text)

/-- A record with some fields. -/
def ofFields (kind : RecordForm) (fields : List (String × Value)) : Value :=
  .record kind (.ofList fields)

/-- Whether the value counts as false: false itself, null, zero, NaN and the empty text. -/
def isFalsy : Value → Bool
  | .flag b => !b
  | .null => true
  | .number x => x == 0.0 || x.isNaN
  | .text s => s.isEmpty
  | _ => false

/-- Whether the value is not false. -/
def isTruthy (v : Value) : Bool := !v.isFalsy

/-- Whether the value holds nothing: null, the empty text, the empty list and no arguments. -/
def isEmpty : Value → Bool
  | .null => true
  | .text s => s.isEmpty
  | .list items => items.isEmpty
  | .args a => a.size == 0
  | _ => false

/-- The name of the type of a value. -/
def typeName : Value → String
  | .number _ => "Number"
  | .flag _ => "Boolean"
  | .text _ => "String"
  | .null => "Null"
  | .list _ => "List"
  | .record .page _ => "Page"
  | .record .block _ => "Block"
  | .record .plain _ => "Record"
  | .date _ => "Date"
  | .args _ => "Args"

/-! ## Equality -/

mutual

/-- Whether two values are equal. Numbers are compared as numbers, so NaN differs from itself. -/
def same : Value → Value → Bool
  | .number x, .number y => x == y
  | .flag a, .flag b => a == b
  | .text s, .text t => s == t
  | .null, .null => true
  | .list items, .list others => sameItems items others
  | .record kind ⟨fields⟩, .record other ⟨others⟩ => kind == other && sameFields fields others
  | .date d, .date e => d == e
  | .args a, .args b => a == b
  | _, _ => false

/-- Whether two lists have equal values at the same places. -/
def sameItems : List Value → List Value → Bool
  | [], [] => true
  | v :: vs, w :: ws => same v w && sameItems vs ws
  | _, _ => false

/-- Whether two lists of fields have equal names and values at the same places. -/
def sameFields : List (String × Value) → List (String × Value) → Bool
  | [], [] => true
  | (k, v) :: vs, (l, w) :: ws => k == l && same v w && sameFields vs ws
  | _, _ => false

end

/-! ## Texts -/

/-- The text of a record without a name. -/
def unnamed : String := "[record]"

mutual

/-- The text of a value. Pages are shown by their names and blocks by their identifiers. -/
def display : Value → String
  | .number x => Decimal.plainNumeral x
  | .flag b => if b then "true" else "false"
  | .text s => s
  | .null => ""
  | .list items => ", ".intercalate (displayAll items)
  | .record .page ⟨fields⟩ => (displayField? "name" fields).getD unnamed
  | .record .block ⟨fields⟩ => (displayField? "uuid" fields).getD unnamed
  | .record .plain _ => unnamed
  | .date d => d.iso
  | .args a => " ".intercalate (a.entries.map fun entry => entry.2.toText)

/-- The texts of values. -/
def displayAll : List Value → List String
  | [] => []
  | v :: vs => display v :: displayAll vs

/-- The text of the field with a name. -/
def displayField? (name : String) : List (String × Value) → Option String
  | [] => none
  | (k, v) :: rest => if k = name then some (display v) else displayField? name rest

end

/-- The link to a page. -/
def pageLink (name : String) : String := "[[" ++ name ++ "]]"

/-- The reference to a block. -/
def blockLink (uuid : String) : String := "((" ++ uuid ++ "))"

mutual

/-- The text of a value in which pages, blocks and dates are links. Dates are written after a
pattern. -/
def linkText (pattern : String) : Value → String
  | .null => ""
  | .number x => Decimal.plainNumeral x
  | .list items => ", ".intercalate (linkTexts pattern items)
  | .record .page fields =>
    match fields.get? "name" with
    | some name => pageLink name.display
    | none => ""
  | .record .block fields =>
    match fields.get? "uuid" with
    | some (.text uuid) => blockLink uuid
    | _ => ""
  | .date d => pageLink (d.format pattern)
  | v => v.display

/-- The texts of values in which pages, blocks and dates are links. -/
def linkTexts (pattern : String) : List Value → List String
  | [] => []
  | v :: vs => linkText pattern v :: linkTexts pattern vs

end

end Value

end Stencil
