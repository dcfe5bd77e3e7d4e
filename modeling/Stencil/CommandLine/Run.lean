import Stencil.CommandLine.Command
import Stencil.Configuration
import Stencil.Query.Step
import Stencil.Serial.Entity
import Stencil.Suite.Report

/-!
# Running commands

* `Transcript` is what a command writes and with which status it ends.
* `Host` is what commands need of the place where they run.
* `Request.run` carries out a request, `CommandLine.run` what the arguments of the program ask for.
-/

namespace Stencil

/-- What a command writes, and its status. -/
structure Transcript where
  /-- The text on the standard output. -/
  output : String := ""
  /-- The text on the standard error output. -/
  messages : String := ""
  status : Nat := 0
  deriving Repr, DecidableEq

namespace Transcript

/-- Lines, each with a line feed after it. -/
def textOf (lines : List String) : String := String.join (lines.map fun line => line ++ "\n")

/-- The transcript of a command that failed for one reason. -/
def failed (message : String) : Transcript :=
  { messages := "error: " ++ message ++ "\n", status := 1 }

/-- The lines about a syntax error and what can be done about it. -/
def syntaxLines (e : SyntaxError) : List String :=
  ("error: " ++ e.cause.message) :: e.notes.map fun note => "  = " ++ note.message

end Transcript

open Transcript (failed textOf)

/-- What commands need of the place where they run. -/
structure Host (m : Type → Type) where
  files : Files m
  today : Calendar.Date
  /-- A number that nobody can foresee. -/
  seed : Nat

/-! ## Rendering -/

/-- Rendered nodes as they are shown. -/
def Node.shown (json : Bool) (nodes : List Node) : String :=
  if json then (Json.array (Node.toJsons nodes)).pretty ++ "\n" else forestMarkdown nodes

/-- What is reported about an invocation that failed. -/
def InvocationError.lines (e : InvocationError) : List String :=
  ("error: " ++ e.message) :: match e with
    | .render (.compile _ cause) => cause.notes.map fun note => "  = " ++ note.message
    | _ => []

/-- Renders a template of a graph into a block, and shows what was inserted. -/
def Graph.rendered (g : Graph) (settings : Settings) (template target : String) (json : Bool)
    (args : List String) : Transcript :=
  let template := TemplateReference.ofText template
  match g.invoke settings template target args with
  | (.ok (.rendered _), store) => { output := Node.shown json (store.insertedAt target) }
  | (.ok .empty, _) => { messages := "warning: template '" ++ template.toText ++ "' is empty\n" }
  | (.ok .skipped, _) =>
    { messages := "warning: a render into '" ++ target ++ "' is already running\n" }
  | (.error e, _) => { messages := textOf e.lines, status := 1 }

/-! ## Checking -/

/-- The listing of a block whose program is not just text. -/
def Block.listing (b : Block) (p : Program) : String :=
  if p.isStatic then ""
  else b.page.title ++ " ((" ++ b.uuid ++ "))\n" ++ p.listing b.content

/-- Compiles all blocks of a graph, lists them if asked to, and reports the errors. -/
def Graph.checked (g : Graph) (listing : Bool) : Transcript :=
  let compiled := g.blocks.map fun b => (b, Program.compile .standard b.content 0)
  let errors := compiled.filterMap fun (_, p) =>
    match p with
    | .ok _ => none
    | .error e => some e
  let listings := compiled.map fun (b, p) =>
    match p with
    | .ok p => if listing then b.listing p else ""
    | .error _ => ""
  let summary :=
    if errors.isEmpty then "ok: " ++ toString compiled.length ++ " blocks compiled"
    else toString errors.length ++ " of " ++ toString compiled.length ++ " blocks failed to compile"
  { output := String.join listings
    messages := textOf (errors.flatMap Transcript.syntaxLines ++ [summary])
    status := if errors.isEmpty then 0 else 1 }

/-! ## Queries -/

/-- The query of some steps, or the first step that cannot be added. -/
def Query.ofSteps [PatternEngine] (q : Query) :
    List String → Except (String × StepError) Query
  | [] => .ok q
  | step :: steps =>
    match q.addStep step with
    | .ok q => q.ofSteps steps
    | .error e => .error (step, e)

/-- The pages that are chosen of those that a query finds. -/
def Query.choose (q : Query) (source : Query.Source) (seed : Nat) :
    Choice → Except QueryError (List Page)
  | .all => q.run source
  | .first => do return (← q.first? source).toList
  | .sample n => q.sample source Sample.Words.below n (.ofSeed seed)

/-- Finds pages of a graph, or shows the text of the query. -/
def Graph.queried [PatternEngine] (g : Graph) (steps : List String) (choice : Choice) (seed : Nat)
    (showText : Bool) : Transcript :=
  match Query.pages.ofSteps steps with
  | .error (step, e) => failed ("filter '" ++ step ++ "': " ++ e.message)
  | .ok q =>
    if showText then { output := q.text ++ "\n" }
    else match q.choose (.ofList (g.map (·.page))) seed choice with
      | .ok pages => { output := textOf (pages.map (·.title)) }
      | .error e => failed e.message

/-! ## Tests -/

/-- The categories that are asked for, all of them if none is, and what is to be said about those
that were not found. -/
def Category.chosen (all : Categories) (requests : List String) : Categories × List String :=
  if requests.isEmpty then (all, [])
  else
    let (selected, idle) := select all requests
    let available := ", ".intercalate (all.keys.map label)
    (selected, idle.map fun request =>
      "warning: category '" ++ request ++ "' not found (available: " ++ available ++ ")")

/-- A list of categories with the number of their tests. -/
def Category.listed (all : Categories) : List String :=
  "available categories:" :: all.entries.map fun (category, files) =>
    "  " ++ label category ++ " (" ++ toString files.length ++ " tests)"

/-- The transcript of a report after some other lines. -/
def TestReport.transcript (r : TestReport) (plain : Bool) (before : List String) : Transcript :=
  { messages := textOf (before ++ r.lines plain), status := if r.passed then 0 else 1 }

namespace Host

variable {m : Type → Type} [Monad m]

/-- Goes on with the graph document at a path, unless it cannot be read. -/
def withGraph (host : Host m) (path : String) (use : Graph → Transcript) : m Transcript := do
  match ← host.files.read path with
  | .error e => return failed ("cannot read '" ++ path ++ "': " ++ e.message)
  | .ok source =>
    match Graph.ofSource source 0 with
    | .error e => return { messages := textOf (Transcript.syntaxLines e), status := 1 }
    | .ok g => return use g

/-- Runs the test file at a path. -/
def runTest (host : Host m) (path : String) : m TestResult := do
  return TestResult.ofContent host.today path (← host.files.read path)

/-- Runs the test files of a category. -/
def runCategory (host : Host m) (category : String) (tests : List TestFile) : m TestGroup := do
  return ⟨some category, ← tests.mapM fun test => host.runTest test.path⟩

/-- Says that there are no test files. -/
def noTests (path : String) : List String := ["no .test.md files found in " ++ path]

/-- Runs the test file at a path, or those below it. -/
def testPath (host : Host m) (plain : Bool) (path : String) (requests : List String) :
    m Transcript := do
  if ← host.files.isFile path then
    let report : TestReport := [⟨none, [← host.runTest path]⟩]
    return report.transcript plain []
  let all ← Category.discover host.files path
  if all.size = 0 then return { messages := textOf (noTests path), status := 1 }
  let (chosen, warnings) := Category.chosen all requests
  if chosen.size = 0 then
    return { messages := textOf (warnings ++ ["no matching categories found"]), status := 1 }
  let report ← chosen.entries.mapM fun (category, tests) => host.runCategory category tests
  return TestReport.transcript report plain warnings

/-- Lists the categories of the test files below a path. -/
def showCategories (host : Host m) (path : String) : m Transcript := do
  if ← host.files.isFile path then
    return { messages := textOf ["(single file, no categories)"] }
  let all ← Category.discover host.files path
  return { messages := textOf (if all.size = 0 then noTests path else Category.listed all) }

/-- Carries out a request. -/
def run (host : Host m) (r : Request) : m Transcript :=
  match r.command with
  | .render graph template target configuration json args => do
    match ← Settings.load host.files host.today configuration graph with
    | .error e => return failed e.message
    | .ok settings =>
      host.withGraph graph fun g => g.rendered settings template target json args
  | .check graph listing => host.withGraph graph fun g => g.checked listing
  | .query graph steps choice seed showText =>
    host.withGraph graph fun g => g.queried steps choice (seed.getD host.seed) showText
  | .test path categories => host.testPath r.plain path categories
  | .showCategories path => host.showCategories path

end Host

/-- Carries out what the arguments of the program ask for. -/
def CommandLine.run {m : Type → Type} [Monad m] (host : Host m) (args : List String) :
    m Transcript :=
  match Request.ofArgs args with
  | .ok r => host.run r
  | .error e => return { messages := "error: " ++ e.message ++ "\n", status := 2 }

end Stencil
