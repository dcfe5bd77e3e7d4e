import Stencil.Dictionary
import Stencil.Text.Blank
import Stencil.Text.Case
import Stencil.Text.Letter
import Stencil.Text.Line

/-!
# Properties

A property is a line `key:: value`.

* `PropertyValue` is a value with the pages it refers to; `PropertyValue.ofText` finds them.
* `propertyOf?` reads a property line, `Properties.ofContent` all of them.
* `normalName` is the spelling of a name that scripts can use.
* `Properties.texts` and `Properties.references` give every property under its own name and under
  its normal name.
-/

namespace Stencil

/-- The value of a property. -/
structure PropertyValue where
  /-- The text as written. -/
  text : String
  /-- The names of the pages it refers to, in lower case and without repeats. -/
  refs : List String
  deriving Repr, DecidableEq, Inhabited

/-- The properties of a page or block under the names they were given. -/
abbrev Properties := Dictionary PropertyValue

namespace PropertyValue

/-- Adds a name at the end, unless it is empty or there already. -/
def addName (names : List String) (name : List Char) : List String :=
  let name := String.ofList name
  if name.isEmpty || names.contains name then names else names ++ [name]

/-- The texts between two opening and the next two closing brackets, from the left. `limit` is at
least the length of the text. -/
def linksIn (limit : Nat) (cs : List Char) : List (List Char) :=
  match limit with
  | 0 => []
  | limit + 1 =>
    match Text.cutAt? ['[', '['] cs with
    | none => []
    | some (_, after) =>
      match Text.cutAt? [']', ']'] after with
      | none => []
      | some (link, rest) => link :: linksIn limit rest

/-- The name of a tag, if a word is one. Brackets around it do not count. -/
def tagName? : List Char → Option (List Char)
  | '#' :: tag =>
    let name := Text.stripEnd [']', ']'] (Text.stripStart ['[', '['] tag)
    if name.isEmpty then none else some name
  | _ => none

/-- The names of the tags of a text, whose words end at blanks and commas. -/
def tagsIn (cs : List Char) : List (List Char) :=
  (Text.splitWhere (fun c => Text.isBlank c || c = ',') cs).filterMap tagName?

/-- The names between commas, if there are commas. -/
def listedIn (cs : List Char) : List (List Char) :=
  if cs.contains ',' then (Text.splitWhere (· = ',') cs).map Text.trim else []

/-- The pages that a text refers to: its links, then its tags. Only when there are neither, a text
with commas is a list of names. -/
def refsIn (cs : List Char) : List String :=
  let links := (linksIn cs.length cs).map fun link => Text.lower (Text.trim link)
  let names := (links ++ (tagsIn cs).map Text.lower).foldl addName []
  if names.isEmpty then ((listedIn cs).map Text.lower).foldl addName [] else names

/-- The value written as a text. -/
def ofText (raw : String) : PropertyValue :=
  let text := Text.trim raw.toList
  ⟨String.ofList text, refsIn text⟩

end PropertyValue

/-- Whether a property name may contain `c`. -/
def isPropertyChar (c : Char) : Bool := Text.isWordChar c || c = '-' || c = '_'

/-- Name and value of a property line. -/
def propertyOf? (line : List Char) : Option (List Char × List Char) :=
  match Text.cutAt? [':', ':'] (Text.trim line) with
  | none => none
  | some (key, value) =>
    let key := Text.trim key
    if key.isEmpty || !key.all isPropertyChar then none else some (key, Text.trim value)

/-- The properties of a content, from its property lines. -/
def Properties.ofContent (content : String) : Properties :=
  .ofList (((Text.lines content.toList).filterMap propertyOf?).map fun (key, value) =>
    (String.ofList key, PropertyValue.ofText (String.ofList value)))

/-- A hyphen or space becomes an underscore. -/
def foldSeparator (c : Char) : Char := if c = '-' || c = ' ' then '_' else c

/-- The normal spelling of a property name: trimmed, in lower case, with underscores. -/
def normalName (name : String) : String :=
  String.ofList ((Text.lower (Text.trim name.toList)).map foldSeparator)

/-- Adds a value under a name and, if it is another one, under the normal name. -/
def Properties.addBoth {α : Type} (d : Dictionary α) (name : String) (a : α) : Dictionary α :=
  let d := d.insert name a
  if normalName name = name then d else d.insert (normalName name) a

/-- Something of every property under its name and its normal name. -/
def Properties.spread {α : Type} (f : PropertyValue → α) (p : Properties) : Dictionary α :=
  p.entries.foldl (fun d (name, value) => addBoth d name (f value)) .empty

/-- The texts of all properties. -/
def Properties.texts (p : Properties) : Dictionary String := p.spread (·.text)

/-- The references of all properties. -/
def Properties.references (p : Properties) : Dictionary (List String) := p.spread (·.refs)

/-- A name with its ASCII letters in lower case. -/
def asciiLowered (name : String) : String := String.ofList (name.toList.map Char.toLower)

/-- The property with a name, or the first whose name differs in the case of ASCII letters only. -/
def Properties.find? (p : Properties) (name : String) : Option PropertyValue :=
  match p.get? name with
  | some value => some value
  | none =>
    (p.entries.find? fun entry => asciiLowered entry.1 = asciiLowered name).map (·.2)

end Stencil
