import Stencil.Dictionary
import Stencil.Files.Basic
import Stencil.Files.Path

/-!
# Categories of test files

Test files are found below a folder. The folder in which a file lies, as seen from the first one, is
its category; the files of the first folder itself have the empty category.

* `Category.discover` finds the test files by category.
* `Category.select` keeps the categories that are asked for.
-/

namespace Stencil

/-- A test file that was found. -/
structure TestFile where
  path : String
  /-- The names that lead to the file from the folder where the search began. -/
  names : List String
  deriving Repr, DecidableEq

/-- Test files by category. -/
abbrev Categories := Dictionary (List TestFile)

namespace Category

/-! ## Discovery -/

/-- Whether a name is that of a test file. -/
def isTestName (name : String) : Bool := ".test.md".toList.isSuffixOf name.toList

/-- The category of a file. -/
def ofNames (names : List String) : String :=
  String.ofList (("/".intercalate names.dropLast).toList.map fun c => if c = '\\' then '/' else c)

/-- The test files below a folder, which is reached by some names; folders are followed `depth`
deep. -/
def findFiles {m : Type → Type} [Monad m] (files : Files m) (depth : Nat) (names : List String)
    (folder : String) : m (List TestFile) :=
  match depth with
  | 0 => return []
  | depth + 1 => do
    let found ← (← files.entries folder).mapM fun entry => do
      let path := Path.join folder entry.name
      let names := names ++ [entry.name]
      if entry.isDirectory then findFiles files depth names path
      else return if isTestName entry.name then [⟨path, names⟩] else []
    return found.flatten

/-- The files in the order of the names that lead to them. -/
def sorted (found : List TestFile) : List TestFile :=
  found.mergeSort fun a b => !decide (b.names < a.names)

/-- Adds a file to its category. -/
def addFile (all : Categories) (f : TestFile) : Categories :=
  let category := ofNames f.names
  all.insert category ((all.get? category).getD [] ++ [f])

/-- Test files by category, in order. -/
def ofFiles (found : List TestFile) : Categories := (sorted found).foldl addFile .empty

/-- How deep folders can be nested: no path is longer than 4096 bytes. -/
def maxDepth : Nat := 4096

/-- Finds the test files below a folder. -/
def discover {m : Type → Type} [Monad m] (files : Files m) (folder : String) : m Categories := do
  return ofFiles (← findFiles files maxDepth [] folder)

/-! ## Selection -/

/-- The category that is asked for, without slashes around it. -/
def requested (request : String) : String :=
  String.ofList (((request.toList.dropWhile (· = '/')).reverse.dropWhile (· = '/')).reverse)

/-- Whether a category is the requested one or lies below it. -/
def isWithin (request category : String) : Bool :=
  category = request || (request.toList ++ ['/']).isPrefixOf category.toList

/-- Adds the categories that are within the requested one. -/
def addWithin {α : Type} (all : Dictionary α) (request : String) (selected : Dictionary α) :
    Dictionary α :=
  (all.entries.filter fun entry => isWithin request entry.1).foldl
    (fun selected entry => selected.insert entry.1 entry.2) selected

/-- The categories that are asked for, with those below them, and the requests that added none. -/
def selectInto {α : Type} (all : Dictionary α) :
    List String → Dictionary α → Dictionary α × List String
  | [], selected => (selected, [])
  | request :: requests, selected =>
    let request := requested request
    let extended := addWithin all request selected
    let (final, idle) := selectInto all requests extended
    (final, if extended.size = selected.size then request :: idle else idle)

/-- The categories that are asked for, with those below them, and the requests that added none. -/
def select {α : Type} (all : Dictionary α) (requests : List String) :
    Dictionary α × List String := selectInto all requests .empty

end Category

end Stencil
