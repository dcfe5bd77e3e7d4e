import Stencil.Text.Blank

/-!
# Namespaces

A page name with slashes is a path.

* `Namespace.ofName?` takes a name apart.
-/

namespace Stencil

/-- The parts of a page name. -/
structure Namespace where
  parts : List String
  /-- The name without its last part. -/
  parent : String
  /-- The last part. -/
  leaf : String
  /-- The names of the pages above, from the outermost. -/
  ancestors : List String
  deriving Repr, DecidableEq

namespace Namespace

/-- The parts of a name, each trimmed. -/
def partsOf (name : List Char) : List (List Char) :=
  (Text.splitWhere (· = '/') name).map Text.trim

/-- Parts joined by slashes. -/
def join (parts : List (List Char)) : List Char := Text.joinWith ['/'] parts

/-- The joins of the first one, two, … of the parts, except all of them. -/
def ancestorsOf (parts : List (List Char)) : List (List Char) :=
  (List.range (parts.length - 1)).map fun i => join (parts.take (i + 1))

/-- The namespace of a name that has a slash in it. -/
def ofName? (name : String) : Option Namespace :=
  if name.toList.contains '/' then
    let parts := partsOf name.toList
    let ancestors := ancestorsOf parts
    some {
      parts := parts.map String.ofList
      parent := String.ofList (ancestors.getLast?.getD [])
      leaf := String.ofList (parts.getLast?.getD [])
      ancestors := ancestors.map String.ofList }
  else none

end Namespace

end Stencil
