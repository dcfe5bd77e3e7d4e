import Stencil.Calendar.Phrase
import Stencil.Helper.Basic

/-!
# The standard helpers

Links, dates, letter case, lengths, choices and padding. `Helpers.standard` is the registry of
them all.
-/

namespace Stencil.Helper

open Calendar

/-! ## Arguments -/

/-- The argument at a position. -/
def argument? (args : List Value) (i : Nat) : Option Value := args[i]?

/-- The text of the argument at a position, empty if there is none. -/
def textAt (args : List Value) (i : Nat) : String := ((argument? args i).map Value.display).getD ""

/-- The greatest width of a padding. -/
def widestPadding : Nat := 4096

/-- A number that can be a width: finite and not negative. -/
def isWidth (x : Float) : Bool :=
  match Decimal.view x with
  | .finite .. => 0.0 ≤ x
  | _ => false

/-- The width that the argument at a position asks for. -/
def widthAt (name : String) (args : List Value) (i : Nat) : Except EvalError Nat :=
  let refuse (message : String) : Except EvalError Nat := .error (.helper name message)
  let check (x : Float) : Except EvalError Nat :=
    if (widestPadding : Nat) < Decimal.truncatedSize x (widestPadding + 1) then
      refuse ("width " ++ String.ofList (Decimal.numeral (Decimal.truncated x)) ++
        " is larger than " ++ toString widestPadding)
    else .ok (Decimal.truncatedSize x widestPadding)
  match argument? args i with
  | none => refuse "missing width argument"
  | some (.text s) =>
    match (Decimal.readNumeral? (Text.trim s.toList)).filter isWidth with
    | some x => check x
    | none => refuse ("'" ++ s ++ "' is not a width")
  | some (.number x) =>
    if isWidth x then check x else refuse "expected a width, got Number"
  | some v => refuse ("expected a width, got " ++ v.typeName)

/-- The date that a value stands for: a date, a phrase, or a page of the journal. -/
def dateOf? (s : Settings) : Option Value → Except EvalError (Option Date)
  | some (.date d) => .ok (some d)
  | some (.text phrase) =>
    match resolve s.today phrase.toList with
    | .beyondCalendar => .error .beyondCalendar
    | found => .ok found.date?
  | some (.record .page fields) =>
    match fields.get? "day" with
    | some (.date d) => .ok (some d)
    | _ => .ok none
  | _ => .ok none

/-! ## Links and dates -/

/-- Whether a text is a link to a page or a reference to a block already. -/
def isLink (cs : List Char) : Bool :=
  (['[', '['].isPrefixOf cs && [']', ']'].isSuffixOf cs) ||
    (['(', '('].isPrefixOf cs && [')', ')'].isSuffixOf cs)

/-- A link: to the page of a name, or to what the value stands for. -/
def reference : Helper := fun args s =>
  match argument? args 0 with
  | some (.text name) =>
    let name := trimmed name
    .ok (.text (if isLink name.toList then name else Value.pageLink name))
  | some .null | none => .ok (.text "")
  | some v => .ok (.text (v.linkText s.dateFormat))

/-- The day of the render. -/
def today : Helper := fun _ s => .ok (.date s.today)

/-- The date of a phrase, null if there is none. -/
def readDate : Helper := fun args s => do
  return ((← dateOf? s (argument? args 0)).map Value.date).getD .null

/-- A date written after a pattern, by default the one for links. -/
def writeDate : Helper := fun args s => do
  match ← dateOf? s (argument? args 0) with
  | none => return .null
  | some d =>
    match argument? args 1 with
    | some (.text pattern) => return .text (d.format pattern)
    | _ => return .text (d.format s.dateFormat)

/-! ## Texts and lists -/

/-- A helper that changes the text of its first argument. -/
def onText (f : String → String) : Helper := fun args _ => .ok (.text (f (textAt args 0)))

/-- How many characters, items, arguments or fields a value has. -/
def size : Helper := fun args _ =>
  match argument? args 0 with
  | some (.text s) => .ok (.ofInt s.length)
  | some (.list items) => .ok (.ofInt items.length)
  | some (.args a) => .ok (.ofInt a.size)
  | some (.record _ fields) => .ok (.ofInt fields.size)
  | some .null | none => .ok (.ofInt 0)
  | some v => .error (.helper "len" (v.typeName ++ " has no length"))

/-- The texts of the items of a list with a separator between them. -/
def join : Helper := fun args _ =>
  let separator := match argument? args 1 with
    | some (.text s) => s
    | _ => ", "
  match argument? args 0 with
  | some (.list items) => .ok (.text (separator.intercalate (items.map Value.display)))
  | some v => .ok (.text v.display)
  | none => .ok (.text "")

/-- Whether a value holds nothing. -/
def isEmpty : Helper := fun args _ => .ok (.flag (((argument? args 0).map Value.isEmpty).getD true))

/-- A text with the value put in the place of `$1`, or a fallback when the value counts as
false. -/
def choose : Helper := fun args _ =>
  let v := args.headD .null
  if v.isFalsy then .ok ((argument? args 2).getD (.text ""))
  else
    match argument? args 1 with
    | some (.text pattern) =>
      .ok (.text (String.ofList (Text.replaceAll ['$', '1'] v.display.toList pattern.toList)))
    | some other => .ok other
    | none => .ok v

/-- The truth value that a value spells, null if it spells none. -/
def readFlag : Helper := fun args _ =>
  match argument? args 0 with
  | some (.flag b) => .ok (.flag b)
  | some (.number x) => .ok (.flag (x != 0.0))
  | some (.text s) =>
    let word := lowered (trimmed s)
    if ["yes", "y", "true", "on", "1", "+"].contains word then .ok (.flag true)
    else if ["no", "n", "false", "off", "0", "-", ""].contains word then .ok (.flag false)
    else .ok .null
  | _ => .ok .null

/-! ## Padding -/

/-- A text padded to a width. It stays on the left, in the middle or, for any other alignment, on
the right. -/
def pad (fill : Char) (width : Nat) (alignment : String) (text : String) : String :=
  let missing := width - text.length
  let padding (n : Nat) : String := String.ofList (List.replicate n fill)
  match trimmed alignment with
  | "left" => text ++ padding missing
  | "center" => padding (missing / 2) ++ text ++ padding (missing - missing / 2)
  | _ => padding missing ++ text

/-- Pads with a given character. -/
def fill : Helper := fun args _ => do
  let width ← widthAt "fill" args 2
  return .text (pad ((textAt args 1).toList.headD ' ') width (textAt args 3) (textAt args 0))

/-- Pads with zeros on the left. -/
def zeros : Helper := fun args _ => do
  return .text (pad '0' (← widthAt "zeros" args 1) "right" (textAt args 0))

/-- Pads with blanks. -/
def space : Helper := fun args _ => do
  return .text (pad ' ' (← widthAt "space" args 1) (textAt args 2) (textAt args 0))

/-- The helpers that are always there. -/
def standard : Helpers :=
  .ofList [
    ("ref", reference),
    ("date.today", today),
    ("date.nlp", readDate),
    ("date.format", writeDate),
    ("upper", onText uppered),
    ("lower", onText lowered),
    ("trim", onText trimmed),
    ("len", size),
    ("join", join),
    ("empty", isEmpty),
    ("when", choose),
    ("fill", fill),
    ("zeros", zeros),
    ("space", space),
    ("bool", readFlag)]

end Stencil.Helper
