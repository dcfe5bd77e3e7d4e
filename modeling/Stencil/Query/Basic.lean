import Stencil.Query.Filter
import Stencil.Query.Sample

/-!
# Queries

A query is a chain of filters on pages. Filters on values concern the property that was selected
last. Patterns are read and searched for by whatever engine is at hand.

* `Query.pages` lets all pages pass; the other functions add a filter at the end.
* `Query.text` is the text of a query, `Query.accepts` its decision about a page.
* `Query.run`, `Query.first?` and `Query.sample` fetch pages from a source.
-/

namespace Stencil

/-- A chain of filters. -/
structure Query where
  filters : List Filter
  /-- The properties that have been selected. -/
  bound : List String
  /-- The property that filters on values concern. -/
  focus : Option String

namespace Query

/-- The query that lets all pages pass. -/
def pages : Query := ⟨[], [], none⟩

/-- How many filters there are. -/
def size (q : Query) : Nat := q.filters.length

/-- The query with one more filter. -/
def add (q : Query) (f : Filter) : Query := { q with filters := q.filters ++ [f] }

/-- The property in focus, which a filter needs. -/
def focused (q : Query) (filter : String) : Except QueryError String :=
  match q.focus with
  | some key => .ok key
  | none => .error (.missingProperty filter)

/-! ## Filters on pages -/

/-- Pages whose title compares to a text. -/
def title [PatternEngine] (q : Query) (operator text : String) : Except QueryError Query := do
  return q.add (.text .title (← TextCondition.make (← TextOperator.ofText operator) text))

/-- The name of a namespace as it starts the names of its pages. -/
def namespacePath (name : String) : List Char :=
  Text.lower (Text.stripEnd ['/'] (Text.trim name.toList))

/-- Pages whose name in lower case matches a pattern. -/
def searchName [PatternEngine] (q : Query) (pattern : List Char) : Except QueryError Query := do
  return q.add (.text .name (← TextCondition.make ⟨.regex, false⟩ (String.ofList pattern)))

/-- Pages anywhere below a namespace. -/
def inNamespace [PatternEngine] (q : Query) (name : String) : Except QueryError Query :=
  q.searchName ('^' :: PatternEngine.escape (namespacePath name) ++ ['/'])

/-- Pages directly below a namespace. -/
def directlyInNamespace [PatternEngine] (q : Query) (name : String) : Except QueryError Query :=
  q.searchName ('^' :: PatternEngine.escape (namespacePath name) ++
    ['/', '[', '^', '/', ']', '+', '$'])

/-! ## Filters on properties -/

/-- Selects a property; pages without it do not pass. -/
def property (q : Query) (name : String) : Query :=
  let key := propertySymbol name
  if q.bound.contains key then { q with focus := some key }
  else { q.add (.property key) with bound := q.bound ++ [key], focus := some key }

/-- Pages on which the property is empty. -/
def emptyValue (q : Query) : Except QueryError Query := do
  return q.add (.empty (← q.focused "empty"))

/-- Pages on which the property is not empty. -/
def nonEmptyValue (q : Query) : Except QueryError Query := do
  return q.add (.nonEmpty (← q.focused "non empty"))

/-- Pages on which the property is an integer that compares to another. -/
def integer (q : Query) (operator value : String) : Except QueryError Query := do
  let key ← q.focused "integer"
  let op ← IntegerOperator.ofText operator
  match Decimal.readLong? (Text.trim value.toList) with
  | some n => return q.add (.integer key op n)
  | none => throw (.invalidInteger value)

/-- Pages on which the text of the property compares to another. -/
def value [PatternEngine] (q : Query) (operator text : String) : Except QueryError Query := do
  let key ← q.focused "value"
  return q.add (.text (.property key) (← TextCondition.make (← TextOperator.ofText operator) text))

/-- The key of a reference that may be written as a link. -/
def referenceKey (name : String) : String :=
  String.ofList (Text.lower
    (Text.stripEnd [']', ']'] (Text.stripStart ['[', '['] (Text.trim name.toList))))

/-- The keys of references, without empty ones and without repetitions. -/
def referenceKeys (names : List String) : List String :=
  names.foldl (fun keys name =>
    let key := referenceKey name
    if key.isEmpty || keys.contains key then keys else keys ++ [key]) []

/-- Pages on which the references of the property compare to some names. -/
def reference (q : Query) (operator : String) (names : List String) : Except QueryError Query := do
  let key ← q.focused "reference"
  let op ← ReferenceOperator.ofText operator
  return q.add (.reference key op (referenceKeys names))

/-! ## The text and the pages of a query -/

/-- The forms of filters, numbered from an index on. -/
def formsFrom (index : Nat) : List Filter → List Form
  | [] => []
  | f :: fs => f.forms index ++ formsFrom (index + 1) fs

/-- The form of a query. -/
def form (q : Query) : Form :=
  .vector ([.symbol ":find", .call [.symbol "pull", .symbol "?p", .vector [.symbol "*"]],
    .symbol ":where", .fact ["?p", ":block/name", "?name"],
    .fact ["?p", ":block/original-name", "?title"]] ++ formsFrom 0 q.filters)

/-- The text of a query. -/
def text (q : Query) : String := q.form.text

/-- Whether all filters let a page pass. -/
def accepts (q : Query) (p : Page) : Bool := q.filters.all fun f => f.accepts p

/-- Where the pages of a query come from; it may fail with a message of its own. -/
abbrev Source := Query → Except String (List Page)

/-- The pages of a list that a query accepts, in order. -/
def Source.ofList (pages : List Page) : Source := fun q => .ok (pages.filter q.accepts)

/-- The pages of a query. -/
def run (q : Query) (source : Source) : Except QueryError (List Page) :=
  (source q).mapError .store

/-- The first page of a query. -/
def first? (q : Query) (source : Source) : Except QueryError (Option Page) := do
  return (← q.run source).head?

/-- A sample of the pages of a query. -/
def sample {σ : Type} (q : Query) (source : Source) (below : Nat → σ → Nat × σ) (n : Nat) (s : σ) :
    Except QueryError (List Page) := do
  return (Sample.sample below n (← q.run source) s).1

end Query

end Stencil
