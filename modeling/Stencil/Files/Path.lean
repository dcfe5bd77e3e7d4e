import Stencil.Text.Search

/-!
# Paths

A path is a text with slashes between its steps.

* `Path.steps` are the steps of a path, `Path.names` those that lead somewhere else.
* `Path.fileName?` is the last name of a path and `Path.stem` that name without its extension.
* `Path.join` is the path of an entry of a directory.
-/

namespace Stencil.Path

/-- The texts between the slashes. -/
def steps (path : String) : List String :=
  (Text.splitWhere (· = '/') path.toList).map String.ofList

/-- The steps of a path that lead somewhere else. -/
def names (path : String) : List String :=
  (steps path).filter fun step => step ≠ "" ∧ step ≠ "."

/-- The last name of a path; none if the path ends by going up. -/
def fileName? (path : String) : Option String := ((names path).getLast?).filter (· ≠ "..")

/-- A name without what follows its last dot. A dot at the start belongs to the name. -/
def withoutExtension (name : List Char) : List Char :=
  match Text.cutAtLast? '.' name with
  | some (before, _) => if before.isEmpty then name else before
  | none => name

/-- The last name of a path without its extension; empty if there is none. -/
def stem (path : String) : String :=
  String.ofList (withoutExtension ((fileName? path).getD "").toList)

/-- The path of an entry of a directory. -/
def join (directory name : String) : String :=
  if directory = "" ∨ directory.toList.getLast? = some '/' then directory ++ name
  else directory ++ "/" ++ name

end Stencil.Path
