import Stencil.Toml.Basic
import Stencil.Toml.Scalar

/-!
# TOML documents

* `Toml.readValue?` reads a value and `Toml.readKeys?` a path of keys.
* `Toml.Line.ofChars?` reads a line, which may go on over several lines of text.
* `Toml.ofText?` reads a document.
-/

namespace Stencil.Toml

/-! ## Blanks -/

/-- Drops spaces and tabs. -/
def dropSpaces (cs : List Char) : List Char := cs.dropWhile isSpace

/-- Drops a comment, if there is one. -/
def dropComment? : List Char → Option (List Char)
  | '#' :: cs =>
    let comment := cs.takeWhile (· ≠ '\n')
    if comment.all isPlain then some (cs.drop comment.length) else none
  | cs => some cs

/-- Drops blanks, line feeds and comments; `limit` bounds their number. -/
def dropGap? (limit : Nat) (cs : List Char) : Option (List Char) :=
  match limit, cs with
  | 0, _ => none
  | _, [] => some []
  | limit + 1, c :: rest =>
    if isSpace c || c = '\n' then dropGap? limit rest
    else if c = '#' then do dropGap? limit (← dropComment? cs)
    else some cs

/-! ## Keys -/

/-- Whether a character may stand in a key without quotes. -/
def isKeyChar (c : Char) : Bool := c.isAlphanum || c = '_' || c = '-'

/-- Reads a key. -/
def readKey? : List Char → Option (List Char × List Char)
  | '"' :: cs => readLine? '"' cs
  | '\'' :: cs => readLine? '\'' cs
  | cs =>
    let key := cs.takeWhile isKeyChar
    if key.isEmpty then none else some (key, cs.drop key.length)

/-- Reads a path of keys with dots between them, and the blanks after it. -/
def readKeys? (limit : Nat) (cs : List Char) : Option (List String × List Char) :=
  match limit with
  | 0 => none
  | limit + 1 => do
    let (key, rest) ← readKey? (dropSpaces cs)
    match dropSpaces rest with
    | '.' :: rest =>
      let (keys, rest) ← readKeys? limit rest
      some (String.ofList key :: keys, rest)
    | rest => some ([String.ofList key], rest)

/-! ## Values -/

mutual

/-- Reads a value; `limit` bounds the steps. -/
def readValue? (limit : Nat) (cs : List Char) : Option (Toml × List Char) :=
  match limit with
  | 0 => none
  | limit + 1 =>
    match cs with
    | '[' :: rest => do
      let (items, rest) ← readItems? limit (← dropGap? (rest.length + 1) rest)
      some (.array items, rest)
    | '\x7b' :: rest =>
      match dropSpaces rest with
      | '\x7d' :: rest => some (.table .inline [], rest)
      | rest => do
        let (entries, rest) ← readEntries? limit [] rest
        some (.table .inline entries, rest)
    | c :: _ =>
      if c = '"' || c = '\'' then do
        let (value, rest) ← readQuoted? cs
        some (.text (String.ofList value), rest)
      else
        let (written, rest) := cutScalar cs
        let source := String.ofList written
        if source = "true" then some (.boolean true, rest)
        else if source = "false" then some (.boolean false, rest)
        else if isNumber written || isMoment written then some (.scalar source, rest)
        else none
    | [] => none

/-- Reads the items of an array up to the bracket that closes it. A comma may stand after the last
of them. -/
def readItems? (limit : Nat) (cs : List Char) : Option (List Toml × List Char) :=
  match limit with
  | 0 => none
  | limit + 1 =>
    match cs with
    | ']' :: rest => some ([], rest)
    | _ => do
      let (item, rest) ← readValue? limit cs
      match ← dropGap? (rest.length + 1) rest with
      | ']' :: rest => some ([item], rest)
      | ',' :: rest =>
        let (items, rest) ← readItems? limit (← dropGap? (rest.length + 1) rest)
        some (item :: items, rest)
      | _ => none

/-- Reads the entries of a table up to the brace that closes it. -/
def readEntries? (limit : Nat) (table : Table) (cs : List Char) : Option (Table × List Char) :=
  match limit with
  | 0 => none
  | limit + 1 =>
    match readKeys? cs.length cs with
    | some (keys, '=' :: rest) => do
      let (value, rest) ← readValue? limit (dropSpaces rest)
      let table ← table.set? keys value
      match dropSpaces rest with
      | '\x7d' :: rest => some (table, rest)
      | ',' :: rest => readEntries? limit table rest
      | _ => none
    | _ => none

end

/-! ## Lines -/

/-- A line of a document. -/
inductive Line where
  | blank
  | entry (keys : List String) (value : Toml)
  | header (keys : List String)
  /-- A header between double brackets. -/
  | listHeader (keys : List String)

/-- Drops the rest of a line: blanks, a comment and the line feed. -/
def dropLineEnd? (cs : List Char) : Option (List Char) := do
  match ← dropComment? (dropSpaces cs) with
  | [] => some []
  | '\n' :: rest => some rest
  | _ => none

/-- Reads a line without its end. -/
def readLineBody? (cs : List Char) : Option (Line × List Char) :=
  match dropSpaces cs with
  | [] => some (.blank, [])
  | '#' :: rest => some (.blank, '#' :: rest)
  | '\n' :: rest => some (.blank, '\n' :: rest)
  | '[' :: '[' :: rest =>
    match readKeys? rest.length rest with
    | some (keys, ']' :: ']' :: rest) => some (.listHeader keys, rest)
    | _ => none
  | '[' :: rest =>
    match readKeys? rest.length rest with
    | some (keys, ']' :: rest) => some (.header keys, rest)
    | _ => none
  | rest =>
    match readKeys? rest.length rest with
    | some (keys, '=' :: rest) => do
      let (value, rest) ← readValue? (rest.length + 1) (dropSpaces rest)
      some (.entry keys value, rest)
    | _ => none

/-- Reads the lines of a document; `limit` bounds their number. -/
def readDocumentLines? (limit : Nat) (cs : List Char) : Option (List Line) :=
  match limit, cs with
  | _, [] => some []
  | 0, _ => none
  | limit + 1, cs => do
    let (line, rest) ← readLineBody? cs
    let lines ← readDocumentLines? limit (← dropLineEnd? rest)
    some (line :: lines)

/-! ## Documents -/

/-- Adds the entries at the front of some lines to a table, up to the next header. -/
def addEntries? : List Line → Table → Option Table
  | .blank :: lines, t => addEntries? lines t
  | .entry keys value :: lines, t => do addEntries? lines (← t.set? keys value)
  | _, t => some t

/-- Adds the tables that the headers among some lines name. -/
def addTables? : List Line → Table → Option Table
  | [], t => some t
  | .header keys :: lines, t => do addTables? lines (← t.define? keys (addEntries? lines))
  | .listHeader keys :: lines, t => do addTables? lines (← t.append? keys (addEntries? lines))
  | _ :: lines, t => addTables? lines t

/-- Drops a byte order mark at the start. -/
def dropByteOrderMark : List Char → List Char
  | '\uFEFF' :: cs => cs
  | cs => cs

/-- Reads a document. A carriage return before a line feed belongs to the line break. -/
def ofText? (text : String) : Option Table := do
  let cs := Text.replaceAll ['\r', '\n'] ['\n'] (dropByteOrderMark text.toList)
  let lines ← readDocumentLines? (cs.length + 1) cs
  addTables? lines (← addEntries? lines [])

end Stencil.Toml
