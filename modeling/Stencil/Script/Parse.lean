import Stencil.Script.Binding
import Stencil.Script.Hole

/-!
# Parsing scripts

Expressions are read by operator precedence, statements by their first token.

* `Cursor` is a position among the lexemes of a script.
* `Expr.ofScript` and `Statement.ofScript` read a whole script.

Inside brackets line breaks are passed over, which the argument `nested` says; an operand may
always start on a later line. `depth` bounds the nesting of calls; the wrappers start it from the
length of the script, which is more than any script needs.
-/

namespace Stencil.Script

/-- A position among lexemes: what is left, where the lexeme before it ended, and where the script
ends. -/
structure Cursor where
  rest : List Lexeme
  last : Nat
  stop : Nat

namespace Cursor

/-- The start of a script. -/
def start (lexemes : List Lexeme) (stop : Nat) : Cursor := ⟨lexemes, stop, stop⟩

/-- The span of the next lexeme, or the end of the script. -/
def here (c : Cursor) : Span :=
  match c.rest with
  | lexeme :: _ => lexeme.span
  | [] => ⟨c.stop, c.stop⟩

/-- The next token. -/
def token? (c : Cursor) : Option Token := c.rest.head?.map (·.token)

/-- Whether the next token is the given symbol. -/
def stands (c : Cursor) (sign : Symbol) : Bool := c.token?.any (·.is sign)

/-- The position after the next lexeme. -/
def next (c : Cursor) : Cursor :=
  match c.rest with
  | lexeme :: rest => { c with rest, last := lexeme.span.stop }
  | [] => c

/-- The position after the lexemes at the front that satisfy `p`. -/
def skipWhile (p : Token → Bool) (c : Cursor) : Cursor :=
  let passed := c.rest.takeWhile fun lexeme => p lexeme.token
  { c with
    rest := c.rest.dropWhile fun lexeme => p lexeme.token
    last := (passed.getLast?.map fun lexeme => lexeme.span.stop).getD c.last }

/-- Inside brackets, the position after the line breaks at the front. -/
def settle (nested : Bool) (c : Cursor) : Cursor :=
  if nested then c.skipWhile Token.isLineBreak else c

/-- A fault at this position. -/
def fail {α : Type} (c : Cursor) (cause : Cause) : Except Fault α := .error ⟨cause, c.here⟩

/-- Passes over a symbol that has to stand here: its span and the position after it. -/
def expect (c : Cursor) (nested : Bool) (sign : Symbol) (what : Expected) :
    Except Fault (Span × Cursor) :=
  let c := c.settle nested
  if c.stands sign then .ok (c.here, c.next) else c.fail (.expected what)

/-- Passes over a name that has to stand here. A lexeme that is no name is passed over as well
before the fault is reported. -/
def expectName (c : Cursor) (nested : Bool) : Except Fault (String × Span × Cursor) :=
  let c := c.settle nested
  match c.token? with
  | some (.name name) => .ok (name, c.here, c.next)
  | _ => c.next.fail (.expected .name)

end Cursor

/-! ## Expressions -/

mutual

/-- Reads an expression whose operators bind at least as strongly as `power`. -/
def readExpr (depth : Nat) (nested : Bool) (power : Nat) (c : Cursor) :
    Except Fault (Expr × Cursor) :=
  match depth with
  | 0 => c.fail .tooDeep
  | depth + 1 => do
    let (left, c) ← readOperand depth nested c
    readInfix depth nested power left c

/-- Goes on after a left operand with the operators that bind at least as strongly as `power`. -/
def readInfix (depth : Nat) (nested : Bool) (power : Nat) (left : Expr) (c : Cursor) :
    Except Fault (Expr × Cursor) :=
  match depth with
  | 0 => c.fail .tooDeep
  | depth + 1 =>
    let c := c.settle nested
    match c.token? with
    | some (.symbol sign) =>
      match infixPowers? sign with
      | none => .ok (left, c)
      | some (leftPower, rightPower) =>
        if leftPower < power then .ok (left, c)
        else match BinaryOp.ofSymbol? sign with
          | some op => do
            let (right, c) ← readExpr depth nested rightPower c.next
            readInfix depth nested power (.binary op left right) c
          | none => do
            let (yes, c) ← readExpr depth true 0 c.next
            let (_, c) ← c.expect nested .colon .colon
            let (no, c) ← readExpr depth nested rightPower c
            readInfix depth nested power (.conditional left yes no) c
    | _ => .ok (left, c)

/-- Reads an operand: a unary operator with its operand, or a primary with what follows it. -/
def readOperand (depth : Nat) (nested : Bool) (c : Cursor) : Except Fault (Expr × Cursor) :=
  match depth with
  | 0 => c.fail .tooDeep
  | depth + 1 =>
    let c := c.skipWhile Token.isLineBreak
    let start := c.here.start
    match c.token? with
    | none => c.fail .unexpectedEnd
    | some (.number value) => readSuffixes depth nested start (.number value) c.next
    | some (.text value) => readSuffixes depth nested start (.text value) c.next
    | some (.template body offset) => do
      let parts ← readParts depth (rawParts offset body) (offset + Text.byteLength body)
      let value := match Part.joined? parts with
        | some text => .text text
        | none => .template parts
      readSuffixes depth nested start value c.next
    | some (.keyword .yes) => readSuffixes depth nested start (.flag true) c.next
    | some (.keyword .no) => readSuffixes depth nested start (.flag false) c.next
    | some (.keyword .null) => readSuffixes depth nested start .null c.next
    | some (.name name) => readSuffixes depth nested start (.identifier name c.here) c.next
    | some (.symbol .not) => do
      let (operand, c) ← readExpr depth nested unaryPower c.next
      .ok (.unary .not operand, c)
    | some (.symbol .minus) => do
      let (operand, c) ← readExpr depth nested unaryPower c.next
      .ok (.unary .negate operand, c)
    | some (.symbol .leftParen) => do
      let (value, c) ← readExpr depth true 0 c.next
      let (_, c) ← c.expect true .rightParen .closeParen
      readSuffixes depth nested start value c
    | some (.symbol .leftBracket) => do
      let (items, c) ← readItems depth .rightBracket .commaOrBracket c.next
      readSuffixes depth nested start (.list items) c
    | some token => c.fail (.unexpectedToken token.label)

/-- Goes on after a value that starts at byte `start` with members, indices and calls. A line break
ends them outside of brackets. -/
def readSuffixes (depth : Nat) (nested : Bool) (start : Nat) (value : Expr) (c : Cursor) :
    Except Fault (Expr × Cursor) :=
  match depth with
  | 0 => c.fail .tooDeep
  | depth + 1 =>
    let c := c.settle nested
    match c.token? with
    | some (.symbol .dot) => do
      let (field, span, c) ← c.next.expectName nested
      readSuffixes depth nested start (.member value field ⟨start, span.stop⟩) c
    | some (.symbol .leftBracket) => do
      let (index, c) ← readExpr depth true 0 c.next
      let (span, c) ← c.expect true .rightBracket .closeBracket
      readSuffixes depth nested start (.index value index ⟨start, span.stop⟩) c
    | some (.symbol .leftParen) => do
      let (args, c) ← readItems depth .rightParen .commaOrParen c.next
      readSuffixes depth nested start (.call value args ⟨start, c.last⟩) c
    | _ => .ok (value, c)

/-- Reads expressions between commas up to the symbol `close`, with which the list may end at the
start and after every comma. -/
def readItems (depth : Nat) (close : Symbol) (what : Expected) (c : Cursor) :
    Except Fault (List Expr × Cursor) :=
  match depth with
  | 0 => c.fail .tooDeep
  | depth + 1 =>
    let c := c.settle true
    if c.stands close then .ok ([], c.next)
    else do
      let (item, c) ← readExpr depth true 0 c
      let c := c.settle true
      if c.stands .comma then
        let (items, c) ← readItems depth close what c.next
        .ok (item :: items, c)
      else if c.stands close then .ok ([item], c.next)
      else c.fail (.expected what)

/-- Reads the holes among the pieces of a template literal that ends at byte `stop`. -/
def readParts (depth : Nat) (parts : List RawPart) (stop : Nat) : Except Fault (List Part) :=
  match depth with
  | 0 => .error ⟨.tooDeep, ⟨stop, stop⟩⟩
  | depth + 1 =>
    match parts with
    | [] => .ok []
    | .literal text :: parts => do
      let rest ← readParts depth parts stop
      .ok (.literal (String.ofList text) :: rest)
    | .hole offset body :: parts => do
      let value ← readWhole depth offset body
      let rest ← readParts depth parts stop
      .ok (.hole value :: rest)
    | .unclosed offset :: _ => .error ⟨.unterminatedHole, ⟨offset, stop⟩⟩

/-- Reads a script that is one expression, separators around it aside. -/
def readWhole (depth : Nat) (offset : Nat) (body : List Char) : Except Fault Expr :=
  match depth with
  | 0 => .error ⟨.tooDeep, ⟨offset, offset⟩⟩
  | depth + 1 => do
    let lexemes ← Lexeme.ofScript offset body
    let c := Cursor.start lexemes (offset + Text.byteLength body)
    let (value, c) ← readExpr depth false 0 (c.skipWhile Token.isSeparator)
    let c := c.skipWhile Token.isSeparator
    if c.rest.isEmpty then .ok value else c.fail .trailingTokens

end

/-- A bound on the nesting of calls that a script of this length can need. -/
def depthFor (body : List Char) : Nat := 8 * body.length + 8

/-- Reads a script at byte `offset` of its source as one expression. -/
def Expr.ofScript (offset : Nat) (body : List Char) : Except Fault Expr :=
  readWhole (depthFor body) offset body

/-! ## Statements -/

/-- Whether an assignment starts here: a name and a single equals sign. -/
def Cursor.atAssignment (c : Cursor) : Bool :=
  match c.token? with
  | some (.name _) => c.next.stands .assign
  | _ => false

/-- Whether the next token is the given keyword. -/
def Cursor.atKeyword (c : Cursor) (word : Keyword) : Bool :=
  match c.token? with
  | some (.keyword other) => other = word
  | _ => false

/-- Whether a statement may end here. -/
def Cursor.atStatementEnd (c : Cursor) : Bool :=
  match c.token? with
  | none => true
  | some token => token.isSeparator || token.is .rightBrace

mutual

/-- Reads statements up to the end of the script, or past a closing brace when `braced`. -/
def readBody (depth : Nat) (braced : Bool) (c : Cursor) :
    Except Fault (List Statement × Cursor) :=
  match depth with
  | 0 => c.fail .tooDeep
  | depth + 1 =>
    let c := c.skipWhile Token.isSeparator
    match c.token? with
    | none => if braced then c.fail (.expected .closeBrace) else .ok ([], c)
    | some token =>
      if token.is .rightBrace then .ok ([], if braced then c.next else c)
      else do
        let (statement, c) ← readStatement depth c
        if c.atStatementEnd then
          let (statements, c) ← readBody depth braced c
          .ok (statement :: statements, c)
        else c.fail (.expected .statementEnd)

/-- Reads one statement. -/
def readStatement (depth : Nat) (c : Cursor) : Except Fault (Statement × Cursor) :=
  match depth with
  | 0 => c.fail .tooDeep
  | depth + 1 =>
    let start := c.here.start
    if c.atKeyword .declare then do
      let (name, _, c) ← c.next.expectName false
      let (_, c) ← c.expect false .assign .assignAfterName
      let (value, c) ← readExpr depth false 0 c
      .ok (.assign name value true ⟨start, c.last⟩, c)
    else if c.atKeyword .branch then readBranch depth start c
    else if c.atAssignment then do
      let (name, _, c) ← c.expectName false
      let (_, c) ← c.expect false .assign .assign
      let (value, c) ← readExpr depth false 0 c
      .ok (.assign name value false ⟨start, c.last⟩, c)
    else do
      let (value, c) ← readExpr depth false 0 c
      .ok (.expr value ⟨start, c.last⟩, c)

/-- Reads a branch that starts at byte `start`. What follows `else` may stand on a later line than
the closing brace before it. -/
def readBranch (depth : Nat) (start : Nat) (c : Cursor) : Except Fault (Statement × Cursor) :=
  match depth with
  | 0 => c.fail .tooDeep
  | depth + 1 => do
    let (condition, c) ← readExpr depth false 0 c.next
    let (_, c) ← c.expect false .leftBrace .bodyAfterCondition
    let (yes, c) ← readBody depth true c
    let after := c.skipWhile Token.isLineBreak
    if after.atKeyword .otherwise then
      let c := after.next
      if c.atKeyword .branch then
        let (nested, c) ← readBranch depth c.here.start c
        .ok (.branch condition yes [nested] ⟨start, c.last⟩, c)
      else
        let (_, c) ← c.expect false .leftBrace .bodyAfterElse
        let (no, c) ← readBody depth true c
        .ok (.branch condition yes no ⟨start, c.last⟩, c)
    else .ok (.branch condition yes [] ⟨start, c.last⟩, c)

end

/-- Reads a script at byte `offset` of its source as statements between separators. -/
def Statement.ofScript (offset : Nat) (body : List Char) : Except Fault (List Statement) := do
  let lexemes ← Lexeme.ofScript offset body
  let c := Cursor.start lexemes (offset + Text.byteLength body)
  let (statements, c) ← readBody (depthFor body) false c
  if c.rest.isEmpty then .ok statements else c.fail .unexpectedBrace

end Stencil.Script
