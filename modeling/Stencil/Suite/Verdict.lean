import Stencil.Files.Basic
import Stencil.Invocation.Graph
import Stencil.Suite.Case

/-!
# Verdicts

* `TestRun` is what a test case gave, as far as expectations can tell; `TestCase.run` finds it out.
* `TestFailure` is everything that can fail a test case, and `TestFailure.message` its wording.
* `TestCase.failure?` compares what was expected with what came out.
-/

namespace Stencil

/-- What came of a test case. -/
inductive TestRun where
  /-- The graph or the template could not be read. -/
  | unreadable (message : String)
  | failed (message : String)
  | output (text : String)
  deriving Repr, DecidableEq

/-- Why a test case fails. -/
inductive TestFailure where
  | file (error : FileError)
  | header (error : HeaderError)
  | today (text : String) (error : Calendar.DateError)
  /-- A syntax error was expected, but there was another one, or none. -/
  | noSyntaxError (other : Option String)
  | syntaxError (message : String)
  /-- An error was expected, but there was another one, or none. -/
  | noSuchError (part : String) (other : Option String)
  | error (message : String)
  | output (expected actual : String)
  deriving Repr, DecidableEq

namespace TestFailure

/-- A text with all lines moved to the right. -/
def indented (text : String) : String :=
  "\n".intercalate ((linesOf text).map fun line => "    " ++ line)

/-- The wording of a failure. -/
def message : TestFailure → String
  | .file e => "cannot read file: " ++ e.message
  | .header e => "frontmatter error: " ++ e.message
  | .today text e => "invalid today '" ++ text ++ "': " ++ e.message
  | .noSyntaxError (some other) => "expected parse error, got: " ++ other
  | .noSyntaxError none => "expected parse error, but parsing succeeded"
  | .syntaxError message => "unexpected parse error: " ++ message
  | .noSuchError part (some other) =>
    "expected error containing \"" ++ part ++ "\", got: " ++ other
  | .noSuchError part none =>
    "expected error containing \"" ++ part ++ "\", but rendering succeeded"
  | .error message => "unexpected error: " ++ message
  | .output expected actual =>
    "output mismatch\n  expected:\n" ++ indented expected ++ "\n  actual:\n" ++ indented actual

end TestFailure

namespace TestRun

/-- What the outcome of an invocation is to a test. -/
def ofOutcome : Except InvocationError Outcome → TestRun
  | .ok (.rendered nodes) => .output (Node.forestMarkdown nodes)
  | .ok .empty => .output ""
  | .ok .skipped => .failed "render was skipped"
  | .error (.render e@(.compile ..)) => .unreadable e.message
  | .error e => .failed e.message

end TestRun

namespace TestCase

/-- The settings under which a test case is rendered. -/
def settings (c : TestCase) (today : Calendar.Date) : Except TestFailure Settings :=
  match c.today with
  | none => .ok { today, graph := "test" }
  | some text =>
    match Calendar.Date.readLoose text.toList with
    | .ok today => .ok { today, graph := "test" }
    | .error e => .error (.today text e)

/-- Renders a test case from a graph document. A graph that cannot be read comes before a bad
day. -/
def run (c : TestCase) (today : Calendar.Date) (graph : String) : Except TestFailure TestRun :=
  match Graph.ofSource graph 0 with
  | .error e => .ok (.unreadable e.message)
  | .ok g => do
    let settings ← c.settings today
    .ok (.ofOutcome (g.invoke settings (.ofText c.template) c.target c.args).1)

/-- Compares an output with the expected one, without regard to blanks around either. -/
def outputFailure? (expected actual : String) : Option TestFailure :=
  if trimmed actual = trimmed expected then none
  else some (.output (trimmed expected) (trimmed actual))

/-- What fails a test case, if anything does. -/
def failure? (c : TestCase) (r : TestRun) : Option TestFailure :=
  match c.expectsSyntaxError, c.expectedError, r with
  | true, _, .unreadable _ => none
  | true, _, .failed e => some (.noSyntaxError (some e))
  | true, _, .output _ => some (.noSyntaxError none)
  | false, _, .unreadable e => some (.syntaxError e)
  | false, some part, .failed e =>
    if Text.hasPart part.toList e.toList then none else some (.noSuchError part (some e))
  | false, some part, .output _ => some (.noSuchError part none)
  | false, none, .failed e => some (.error e)
  | false, none, .output actual => c.expectedOutput.bind fun expected =>
    outputFailure? expected actual

/-- What fails a test case that is rendered from a graph document, if anything does. -/
def verdict (c : TestCase) (today : Calendar.Date) (graph : String) : Option TestFailure :=
  match c.run today graph with
  | .ok r => c.failure? r
  | .error e => some e

end TestCase

/-- What came of a test file. -/
structure TestResult where
  path : String
  description : Option String
  failure : Option TestFailure
  deriving Repr, DecidableEq

namespace TestResult

/-- The result of a test file with some content. -/
def ofContent (today : Calendar.Date) (path : String) :
    Except FileError String → TestResult
  | .error e => ⟨path, none, some (.file e)⟩
  | .ok content =>
    match TestCase.ofDocument content with
    | .error e => ⟨path, none, some (.header e)⟩
    | .ok (c, graph) => ⟨path, c.description, c.verdict today graph⟩

end TestResult

end Stencil
