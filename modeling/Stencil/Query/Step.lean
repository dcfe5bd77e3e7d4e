import Stencil.Query.Basic

/-!
# Filters in one text

A filter is written as its kind and its arguments with bars between them, such as
`title|starts with|Proj`, `property|status` or `empty`.
-/

namespace Stencil

/-- Why a filter could not be added. -/
inductive StepError where
  | unrecognized
  | query (error : QueryError)
  deriving Repr, DecidableEq

/-- The wording of an error. -/
def StepError.message : StepError → String
  | .unrecognized => "unrecognized filter step"
  | .query error => error.message

namespace Query

/-- The pieces of a text between some characters. -/
def pieces (separator : Char) (text : String) : List String :=
  (Text.splitWhere (· = separator) text.toList).map String.ofList

/-- Adds a filter that is given by its kind and its arguments; none where there is no such kind with
so many arguments. -/
def addParts? [PatternEngine] (q : Query) : List String → Option (Except QueryError Query)
  | ["title", operator, text] => some (q.title operator text)
  | ["namespace", name] => some (q.inNamespace name)
  | ["inner namespace", name] | ["inner_namespace", name] => some (q.directlyInNamespace name)
  | ["property", name] => some (.ok (q.property name))
  | ["empty"] => some q.emptyValue
  | ["non empty"] | ["non_empty"] => some q.nonEmptyValue
  | ["integer", operator, value] => some (q.integer operator value)
  | ["value", operator, text] => some (q.value operator text)
  | ["reference", operator, names] => some (q.reference operator (pieces ',' names))
  | _ => none

/-- Adds a filter that is written in one text. -/
def addStep [PatternEngine] (q : Query) (step : String) : Except StepError Query :=
  match q.addParts? ((pieces '|' step).map trimmed) with
  | some result => result.mapError .query
  | none => .error .unrecognized

end Query

end Stencil
