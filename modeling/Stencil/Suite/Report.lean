import Stencil.Suite.Category
import Stencil.Suite.Verdict

/-!
# Reports on test files

* `TestReport` is what came of test files, by category.
* `TestReport.lines` writes it down and `TestReport.passed` says whether nothing failed.
-/

namespace Stencil

/-- The name under which a category is shown. -/
def Category.label (category : String) : String := if category = "" then "(root)" else category

namespace TestResult

/-- The name under which a result is shown: the description, or else the name of the file. -/
def label (r : TestResult) : String := r.description.getD (Path.stem r.path)

end TestResult

/-- How words can stand out in a text. -/
inductive Style where
  | bold | red | green
  deriving Repr, DecidableEq

/-- The number of a style in a terminal. -/
def Style.code : Style → String
  | .bold => "1"
  | .red => "31"
  | .green => "32"

/-- A text in a style, unless it is to be plain. -/
def Style.paint (plain : Bool) (style : Style) (text : String) : String :=
  if plain then text else "\x1b[" ++ style.code ++ "m" ++ text ++ "\x1b[0m"

/-- The results of a category, or of a single file. -/
structure TestGroup where
  category : Option String
  results : List TestResult
  deriving Repr, DecidableEq

/-- What came of test files. -/
abbrev TestReport := List TestGroup

namespace TestReport

/-- All results in order. -/
def results (r : TestReport) : List TestResult := r.flatMap (·.results)

/-- The failures in order, with the files that failed. -/
def failures (r : TestReport) : List (String × TestFailure) :=
  r.results.filterMap fun result => result.failure.map fun failure => (result.path, failure)

/-- Whether no test failed. -/
def passed (r : TestReport) : Bool := r.failures.isEmpty

/-- The line of a result. -/
def resultLine (plain : Bool) (r : TestResult) : String :=
  let mark := match r.failure with
    | none => Style.paint plain .green "PASS"
    | some _ => Style.paint plain .red "FAIL"
  "  " ++ mark ++ "  " ++ r.label

/-- The lines of a group. -/
def groupLines (plain : Bool) (g : TestGroup) : List String :=
  let header := match g.category with
    | none => []
    | some category => ["", Style.paint plain .bold (Category.label category)]
  header ++ g.results.map (resultLine plain)

/-- The lines about a failure. -/
def failureLines (path : String) (failure : TestFailure) : List String :=
  ["", "  --- " ++ path ++ " ---"] ++ (linesOf failure.message).map fun line => "  " ++ line

/-- The line that sums up. -/
def summary (plain : Bool) (r : TestReport) : String :=
  let failed := r.failures.length
  let all := r.results.length
  let good := toString (all - failed) ++ " passed, "
  if r.passed then "test result: " ++ Style.paint plain .green "ok" ++ ". " ++ good ++ "0 failed"
  else "test result: " ++ Style.paint plain .red "FAILED" ++ ". " ++ good ++ toString failed
    ++ " failed (of " ++ toString all ++ ")"

/-- The lines of a report: the results, the failures in detail, and a line that sums up. -/
def lines (plain : Bool) (r : TestReport) : List String :=
  let details := r.failures.flatMap fun (path, failure) => failureLines path failure
  r.flatMap (groupLines plain) ++ (if r.passed then [] else "" :: "failures:" :: details)
    ++ ["", summary plain r]

end TestReport

end Stencil
