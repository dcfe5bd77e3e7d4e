import Stencil.CommandLine.Option
import Stencil.Decimal.Numeral

/-!
# Commands

What the program can be told to do.

* `Command` is one thing to do, `Request` a command with what holds for all of them.
* `Request.ofArgs` reads a request off the arguments of the program.
-/

namespace Stencil

open CommandLine (Given Known UsageError)

/-- Which of the pages found are to be shown. -/
inductive Choice where
  | all
  | first
  | sample (size : Nat)
  deriving Repr, DecidableEq

/-- A thing to do. -/
inductive Command where
  /-- Render a template of a graph into a block. -/
  | render (graph template target : String) (configuration : Option String) (json : Bool)
    (args : List String)
  /-- Compile all blocks of a graph. -/
  | check (graph : String) (listing : Bool)
  /-- Find pages of a graph. -/
  | query (graph : String) (steps : List String) (choice : Choice) (seed : Option Nat)
    (showText : Bool)
  /-- Run test files. -/
  | test (path : String) (categories : List String)
  /-- List the categories of test files. -/
  | showCategories (path : String)
  deriving Repr, DecidableEq

namespace Command

/-! ## Options -/

/-- The options that hold for all commands. -/
def common : List Known :=
  [{ long := "no-color" }, { long := "verbose", short := some 'v', repeatable := true }]

/-- The options of a render. -/
def ofRender : List Known :=
  [{ long := "template", short := some 't', valueName := some "TEMPLATE" },
   { long := "target", valueName := some "TARGET" },
   { long := "config", short := some 'c', valueName := some "CONFIG" },
   { long := "json" }]

/-- The options of a check. -/
def ofCheck : List Known := [{ long := "listing" }]

/-- The options of a query. -/
def ofQuery : List Known :=
  [{ long := "filter", short := some 'f', valueName := some "FILTERS", repeatable := true },
   { long := "first" }, { long := "random" },
   { long := "sample", valueName := some "SAMPLE" },
   { long := "seed", valueName := some "SEED" },
   { long := "show-query" }]

/-- The options of a test. -/
def ofTest : List Known :=
  [{ long := "category", short := some 'c', valueName := some "CATEGORY", repeatable := true },
   { long := "list-categories" }]

/-! ## Reading -/

/-- A value that has to be there. -/
def required (label : String) : Option String → Except UsageError String
  | some text => .ok text
  | none => .error (.missing label)

/-- A path that has to be there and is not empty. -/
def requiredPath (label : String) (text? : Option String) : Except UsageError String := do
  let text ← required label text?
  if text = "" then .error (.noValue label) else .ok text

/-- The single word of a command. -/
def onlyWord (label : String) (words : List String) : Except UsageError String :=
  match words with
  | _ :: word :: _ => .error (.unexpected word)
  | words => requiredPath label words.head?

/-- A number of 64 bits without a sign, if it was given. -/
def number? (given : List Given) (option : Known) : Except UsageError (Option Nat) :=
  match Given.value? given option.long with
  | none => .ok none
  | some text =>
    let digits := match text.toList with
      | '+' :: cs => cs
      | cs => cs
    let n := Decimal.digitsValue digits
    if digits.isEmpty || !digits.all Char.isDigit || 0x10000000000000000 ≤ n then
      .error (.badNumber option.label text)
    else .ok (some n)

/-- Reads a render. Words after two hyphens are arguments of the template. -/
def readRender (given : List Given) : Except UsageError Command := do
  let graph ← onlyWord "<GRAPH>" (Given.words given)
  let template ← required "--template <TEMPLATE>" (Given.value? given "template")
  let target ← required "--target <TARGET>" (Given.value? given "target")
  let configuration := Given.value? given "config"
  if configuration = some "" then throw (.noValue "--config <CONFIG>")
  return .render graph template target configuration (Given.has given "json")
    (Given.trailings given)

/-- Reads a check. -/
def readCheck (given : List Given) : Except UsageError Command := do
  let graph ← onlyWord "<GRAPH>" (Given.words given ++ Given.trailings given)
  return .check graph (Given.has given "listing")

/-- Refuses two options that exclude each other. -/
def exclude (given : List Given) (one other : Known) : Except UsageError Unit :=
  if Given.has given one.long && Given.has given other.long then
    .error (.conflict one.label other.label)
  else .ok ()

/-- Reads which pages are to be shown. -/
def readChoice (given : List Given) : Except UsageError Choice := do
  let first : Known := { long := "first" }
  let random : Known := { long := "random" }
  let sample : Known := { long := "sample", valueName := some "SAMPLE" }
  exclude given first random
  exclude given first sample
  exclude given random sample
  let size ← number? given sample
  return if Given.has given "first" then .first
    else if Given.has given "random" then .sample 1
    else match size with
      | some n => .sample n
      | none => .all

/-- Reads a query. -/
def readQuery (given : List Given) : Except UsageError Command := do
  let graph ← onlyWord "<GRAPH>" (Given.words given ++ Given.trailings given)
  let choice ← readChoice given
  let seed ← number? given { long := "seed", valueName := some "SEED" }
  return .query graph (Given.values given "filter") choice seed (Given.has given "show-query")

/-- Reads a test. -/
def readTest (given : List Given) : Except UsageError Command := do
  match Given.words given ++ Given.trailings given with
  | _ :: word :: _ => throw (.unexpected word)
  | words =>
    let path ← required "<PATH>" words.head?
    return if Given.has given "list-categories" then .showCategories path
      else .test path (Given.values given "category")

/-- The options and the reader of a command. -/
def reader? (name : String) :
    Option (List Known × (List Given → Except UsageError Command)) :=
  match name with
  | "render" => some (ofRender, readRender)
  | "check" => some (ofCheck, readCheck)
  | "query" => some (ofQuery, readQuery)
  | "test" => some (ofTest, readTest)
  | _ => none

end Command

/-- What the program is asked for. -/
structure Request where
  command : Command
  /-- Whether texts are to be written without styles. -/
  plain : Bool
  deriving Repr, DecidableEq

namespace Request

/-- Reads the options in front of a command, and gives the name of the command and the arguments
after it. -/
def cutCommand : List String → Except UsageError (List Given × String × List String)
  | [] => .error .noCommand
  | text :: texts => do
    if Given.isOption text then
      let (given, _) ← Given.ofWord Command.common text
      let (more, name, args) ← cutCommand texts
      .ok (given ++ more, name, args)
    else .ok ([], text, texts)

/-- Reads a request off the arguments of the program. -/
def ofArgs (args : List String) : Except UsageError Request := do
  let (before, name, args) ← cutCommand args
  match Command.reader? name with
  | none => throw (.unknownCommand name)
  | some (options, read) =>
    let known := options ++ Command.common
    let given ← Given.scan known none args
    Given.checkRepeated known before
    Given.checkRepeated known given
    let command ← read given
    return ⟨command, Given.has (before ++ given) "no-color"⟩

end Request

end Stencil
