import Stencil.Text.Blank
import Stencil.Text.Case

/-!
# Operators of queries

The operators that compare texts, integers and references, and how they are written.
-/

namespace Stencil

/-- Why a query could not be made or run. -/
inductive QueryError where
  /-- A filter on values comes before any property. -/
  | missingProperty (filter : String)
  | invalidInteger (text : String)
  | unknownOperator (kind operator : String)
  /-- A search pattern could not be read. -/
  | invalidPattern (report : String)
  /-- The pages could not be read. -/
  | store (message : String)
  deriving Repr, DecidableEq

/-- The wording of an error. -/
def QueryError.message : QueryError → String
  | .missingProperty filter => "'" ++ filter ++ "' needs a property selected first"
  | .invalidInteger text => "'" ++ text ++ "' is not an integer"
  | .unknownOperator kind operator => "unknown " ++ kind ++ " operator '" ++ operator ++ "'"
  | .invalidPattern report => "invalid pattern: " ++ report
  | .store _ => "query store failed"

/-- The relations between texts. -/
inductive TextRelation where
  | equals | startsWith | endsWith | includes | regex
  deriving Repr, DecidableEq

/-- A comparison of texts. -/
structure TextOperator where
  relation : TextRelation
  negated : Bool
  deriving Repr, DecidableEq

/-- The relation with a name in lower case. -/
def TextRelation.ofName? (name : String) : Option TextRelation :=
  match name with
  | "equals" | "equal to" | "is" => some .equals
  | "starts with" => some .startsWith
  | "ends with" => some .endsWith
  | "includes" | "contains" => some .includes
  | "regex" | "matches" => some .regex
  | _ => none

/-- A name without the word that negates it, and whether it had that word. -/
def withoutNot (name : String) : Bool × String :=
  match ['n', 'o', 't', ' '].isPrefixOf? name.toList with
  | some rest => (true, String.ofList (Text.trim rest))
  | none => (false, name)

/-- Reads a comparison of texts, in any letter case. -/
def TextOperator.ofText (text : String) : Except QueryError TextOperator :=
  match lowered (trimmed text) with
  | "=" | "==" => .ok ⟨.equals, false⟩
  | "!=" | "≠" => .ok ⟨.equals, true⟩
  | name =>
    let (negated, name) := withoutNot name
    match TextRelation.ofName? name with
    | some relation => .ok ⟨relation, negated⟩
    | none => .error (.unknownOperator "text" text)

/-- The comparisons of integers. -/
inductive IntegerOperator where
  | equal | notEqual | greater | greaterEqual | less | lessEqual
  deriving Repr, DecidableEq

namespace IntegerOperator

/-- Reads a comparison of integers. -/
def ofText (text : String) : Except QueryError IntegerOperator :=
  match trimmed text with
  | "=" | "==" => .ok .equal
  | "!=" | "≠" => .ok .notEqual
  | ">" => .ok .greater
  | ">=" | "≥" => .ok .greaterEqual
  | "<" => .ok .less
  | "<=" | "≤" => .ok .lessEqual
  | _ => .error (.unknownOperator "integer" text)

/-- The name of a comparison in the text of a query. -/
def name : IntegerOperator → String
  | .equal => "="
  | .notEqual => "not="
  | .greater => ">"
  | .greaterEqual => ">="
  | .less => "<"
  | .lessEqual => "<="

/-- Whether two integers compare as asked. -/
def test (op : IntegerOperator) (m n : Int) : Bool :=
  match op with
  | .equal => m = n
  | .notEqual => m ≠ n
  | .greater => n < m
  | .greaterEqual => n ≤ m
  | .less => m < n
  | .lessEqual => m ≤ n

end IntegerOperator

/-- The comparisons of sets of references. -/
inductive ReferenceOperator where
  /-- Any of the names. -/
  | includes
  /-- Exactly the names. -/
  | includesOnly
  deriving Repr, DecidableEq

/-- Reads a comparison of sets of references, in any letter case. -/
def ReferenceOperator.ofText (text : String) : Except QueryError ReferenceOperator :=
  match lowered (trimmed text) with
  | "includes" | "contains" => .ok .includes
  | "includes only" | "contains only" => .ok .includesOnly
  | _ => .error (.unknownOperator "reference" text)

end Stencil
