import Stencil.Decimal.Numeral
import Stencil.Pattern.Read
import Stencil.Query.Form
import Stencil.Query.Operator
import Stencil.View.Page

/-!
# Filters

A filter is written as forms of a query and decides about pages in memory.

* `Filter.forms` are the forms of a filter, with an index that keeps its own variables apart.
* `Filter.accepts` decides about a page.
-/

namespace Stencil

/-- What a comparison of texts reads from a page. -/
inductive Field where
  /-- The name in lower case. -/
  | name
  /-- The name to show. -/
  | title
  /-- The text of a property. -/
  | property (key : String)
  deriving Repr, DecidableEq

/-- A comparison with a text. A regular expression is read when the test is made. -/
structure TextCondition where
  operator : TextOperator
  text : String
  /-- The search for a regular expression. -/
  search : Option (List Char → Bool)

namespace TextCondition

/-- The test of a comparison with a text. -/
def make [PatternEngine] (operator : TextOperator) (text : String) :
    Except QueryError TextCondition :=
  match operator.relation with
  | .regex =>
    match PatternEngine.compile text.toList with
    | .ok search => .ok ⟨operator, text, some search⟩
    | .error report => .error (.invalidPattern report)
  | _ => .ok ⟨operator, text, none⟩

/-- Whether a value is in the relation that the test asks for. -/
def holds (t : TextCondition) (value : String) : Bool :=
  let value := value.toList
  match t.operator.relation with
  | .equals => value = t.text.toList
  | .startsWith => t.text.toList.isPrefixOf value
  | .endsWith => t.text.toList.isSuffixOf value
  | .includes => Text.hasPart t.text.toList value
  | .regex => t.search.any fun found => found value

/-- Whether a value passes the test. -/
def accepts (t : TextCondition) (value : String) : Bool := t.holds value != t.operator.negated

end TextCondition

/-- A filter on pages. -/
inductive Filter where
  | text (field : Field) (test : TextCondition)
  /-- Pages that have a property. -/
  | property (key : String)
  | empty (key : String)
  | nonEmpty (key : String)
  | integer (key : String) (op : IntegerOperator) (value : Int)
  | reference (key : String) (op : ReferenceOperator) (names : List String)

/-- The name of a property as a keyword: trimmed, in lower case, with hyphens. -/
def propertySymbol (name : String) : String :=
  String.ofList ((Text.lower (Text.trim name.toList)).map fun c =>
    if c = '_' || c = ' ' then '-' else c)

/-- The variable for the value of a property. -/
def rawVariable (key : String) : String := "?prop-" ++ key

/-- The variable for the text of a property. -/
def textVariable (key : String) : String := "?prop-" ++ key ++ "-text"

/-- The variable for a field. -/
def Field.variableName : Field → String
  | .name => "?name"
  | .title => "?title"
  | .property key => textVariable key

namespace TextCondition

/-- The forms of a test before it is negated. -/
def plainForms (t : TextCondition) (index : Nat) (subject : String) : List Form :=
  let compare (name : String) : List Form :=
    [.test [.symbol name, .symbol subject, .literal t.text]]
  match t.operator.relation with
  | .equals => compare "="
  | .startsWith => compare "clojure.string/starts-with?"
  | .endsWith => compare "clojure.string/ends-with?"
  | .includes => compare "clojure.string/includes?"
  | .regex =>
    let own := "?re-" ++ toString index
    [.bind [.symbol "re-pattern", .literal t.text] own,
      .test [.symbol "re-find", .symbol own, .symbol subject]]

/-- The forms of a test. -/
def forms (t : TextCondition) (index : Nat) (subject : String) : List Form :=
  if t.operator.negated then [.call (.symbol "not" :: t.plainForms index subject)]
  else t.plainForms index subject

end TextCondition

namespace Filter

/-- The forms of a filter. -/
def forms (index : Nat) : Filter → List Form
  | .text field test => test.forms index field.variableName
  | .property key =>
    [.fact ["?p", ":block/properties", "?props"],
      .bind [.symbol "get", .symbol "?props", .symbol (":" ++ key)] (rawVariable key),
      .fact ["?p", ":block/properties-text-values", "?texts"],
      .bind [.symbol "get", .symbol "?texts", .symbol (":" ++ key)] (textVariable key)]
  | .empty key => [.test [.symbol "=", .symbol (textVariable key), .literal ""]]
  | .nonEmpty key => [.test [.symbol "not=", .symbol (textVariable key), .literal ""]]
  | .integer key op value =>
    let own := "?int-" ++ toString index
    [.bind [.symbol "parse-long", .symbol (textVariable key)] own,
      .test [.symbol op.name, .symbol own, .symbol (toString value)]]
  | .reference key .includes names =>
    let own := "?refs-" ++ toString index
    [.bind [.symbol "clojure.set/intersection", .set (names.map .literal),
        .symbol (rawVariable key)] own,
      .test [.symbol "not-empty", .symbol own]]
  | .reference key .includesOnly names =>
    [.test [.symbol "=", .set (names.map .literal), .symbol (rawVariable key)]]

/-- The text of a filter in a query. -/
def clause (f : Filter) (index : Nat) : String := Form.textAll (f.forms index)

/-- The property of a page under any spelling of its name. -/
def propertyOf? (p : Page) (key : String) : Option PropertyValue :=
  (p.properties.entries.find? fun entry => normalName entry.1 == normalName key).map (·.2)

/-- Whether the references of a property are as asked. -/
def testReferences (op : ReferenceOperator) (names : List String) (v : PropertyValue) : Bool :=
  match op with
  | .includes => names.any v.refs.contains
  | .includesOnly => v.refs.length == names.length && names.all v.refs.contains

/-- Whether a filter lets a page pass. -/
def accepts (p : Page) : Filter → Bool
  | .text .name test => test.accepts p.name
  | .text .title test => test.accepts (PageView.displayName p)
  | .text (.property key) test => (propertyOf? p key).any fun v => test.accepts v.text
  | .property key => (propertyOf? p key).isSome
  | .empty key => (propertyOf? p key).any fun v => v.text.isEmpty
  | .nonEmpty key => (propertyOf? p key).any fun v => !v.text.isEmpty
  | .integer key op value =>
    ((propertyOf? p key).bind fun v => Decimal.readLong? (Text.trim v.text.toList)).any
      fun n => op.test n value
  | .reference key op names => (propertyOf? p key).any (testReferences op names)

end Filter

end Stencil
