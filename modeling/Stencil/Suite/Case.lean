import Stencil.Toml.Document

/-!
# Test cases

A test case is a document with a header: a TOML document between lines of three hyphens that says
what to render and what to expect. The graph to render from follows it.

* `TestCase.ofToml?` reads what a header says.
* `TestCase.ofDocument` reads a whole test case.
-/

namespace Stencil

/-- What to render and what to expect. -/
structure TestCase where
  description : Option String := none
  /-- The template to render, as it is referred to. -/
  template : String
  /-- The block to render into. -/
  target : String
  args : List String := []
  /-- The day on which to render. -/
  today : Option String := none
  expectedOutput : Option String := none
  /-- A part of the message of the expected error. -/
  expectedError : Option String := none
  expectsSyntaxError : Bool := false
  deriving Repr, DecidableEq

/-- Why a header cannot be read. -/
inductive HeaderError where
  | unopened
  | unclosed
  /-- The header is no table of the expected entries. -/
  | invalid
  deriving Repr, DecidableEq

/-- The wording of an error. -/
def HeaderError.message : HeaderError → String
  | .unopened => "missing opening --- frontmatter delimiter"
  | .unclosed => "missing closing --- frontmatter delimiter"
  | .invalid => "TOML parse error"

namespace TestCase

/-- The keys that a header may have. -/
def keys : List String := ["description", "template", "target", "args", "today", "expect_output",
  "expect_error", "expect_parse_error"]

/-- Reads what a header says. No other keys may occur in it. -/
def ofToml? (t : Toml.Table) : Option TestCase := do
  guard (t.all fun entry => keys.contains entry.1)
  let description ← t.read? "description" Toml.text?
  let template ← (← t.read? "template" Toml.text?)
  let target ← (← t.read? "target" Toml.text?)
  let args ← t.read? "args" Toml.texts?
  let today ← t.read? "today" Toml.text?
  let expectedOutput ← t.read? "expect_output" Toml.text?
  let expectedError ← t.read? "expect_error" Toml.text?
  let expectsSyntaxError ← t.read? "expect_parse_error" Toml.boolean?
  some { description, template, target, today, expectedOutput, expectedError
         args := args.getD []
         expectsSyntaxError := expectsSyntaxError.getD false }

/-- Drops one line break at the start. -/
def dropBreak : List Char → List Char
  | '\r' :: '\n' :: cs => cs
  | '\n' :: cs => cs
  | cs => cs

/-- The hyphens around a header. -/
def fence : List Char := ['-', '-', '-']

/-- The header of a document and what follows it. Byte order marks at the start are dropped. -/
def cutHeader (cs : List Char) : Except HeaderError (List Char × List Char) :=
  match fence.isPrefixOf? (cs.dropWhile (· = '\uFEFF')) with
  | none => .error .unopened
  | some rest =>
    match Text.cutAt? ('\n' :: fence) (dropBreak rest) with
    | none => .error .unclosed
    | some (header, after) => .ok (Text.stripEnd ['\r'] header, dropBreak after)

/-- Reads a test case, and gives the graph document that follows its header. -/
def ofDocument (document : String) : Except HeaderError (TestCase × String) := do
  let (header, graph) ← cutHeader document.toList
  match (Toml.ofText? (String.ofList header)).bind ofToml? with
  | some c => .ok (c, String.ofList graph)
  | none => .error .invalid

end TestCase

end Stencil
