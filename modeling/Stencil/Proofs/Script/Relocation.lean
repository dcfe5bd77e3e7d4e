import Stencil.Proofs.Script.Shift

/-!
# Parsing scripts anywhere in a source

Moving a script moves the spans of what is read from it, and decides nothing. There is one lemma for
each function of the parser, by induction on the depth of its calls: it is equal on both sides, and
each step of a computation goes over to the moved one (`bind_shift`).

* `readExpr_shift` and so on for expressions, `readBody_shift` and so on for statements.
* `expr_shift` and `statements_shift`: a script that is moved gives the same expression or the same
  statements, moved, or the same fault.
-/

namespace Stencil.Script

open Cursor

variable (n : Nat)

theorem joined?_shift (parts : List Part) : Part.joined? (shift n parts) = Part.joined? parts := by
  induction parts with
  | nil => rfl
  | cons part parts ih =>
    cases part with
    | literal value => exact congrArg (Option.map _) ih
    | hole value => rfl

theorem Cursor.rest_isEmpty_shift (c : Cursor) : (shift n c).rest.isEmpty = c.rest.isEmpty := by
  obtain ⟨rest, last, stop⟩ := c
  cases rest <;> rfl

mutual

theorem readExpr_shift : (depth : Nat) → (nested : Bool) → (power : Nat) → (c : Cursor) →
    readExpr depth nested power (shift n c) = shift n (readExpr depth nested power c)
  | 0, nested, power, c => by
    rw [readExpr, readExpr]
    exact fail_shift n c .tooDeep
  | depth + 1, nested, power, c => by
    rw [readExpr, readExpr, readOperand_shift depth]
    exact bind_shift fun (left, c) => readInfix_shift depth nested power left c

theorem readInfix_shift : (depth : Nat) → (nested : Bool) → (power : Nat) → (left : Expr) →
    (c : Cursor) →
    readInfix depth nested power (shift n left) (shift n c) =
      shift n (readInfix depth nested power left c)
  | 0, nested, power, left, c => by
    rw [readInfix, readInfix]
    exact fail_shift n c .tooDeep
  | depth + 1, nested, power, left, c => by
    rw [readInfix, readInfix]
    dsimp only
    rw [settle_shift, token?_shift]
    generalize c.settle nested = c
    rcases c.token? with _ | (_ | _ | _ | _ | _ | sign | _)
    case some.symbol =>
      rw [shift_some, Token.shift_symbol]
      dsimp only
      cases infixPowers? sign with
      | none => rfl
      | some powers =>
        dsimp only
        split
        · rfl
        · cases BinaryOp.ofSymbol? sign with
          | some op =>
            dsimp only
            rw [next_shift, readExpr_shift depth]
            exact bind_shift fun (right, c) =>
              readInfix_shift depth nested power (.binary op left right) c
          | none =>
            dsimp only
            rw [next_shift, readExpr_shift depth]
            refine bind_shift fun (yes, c) => ?_
            dsimp only [shift_pair]
            rw [expect_shift]
            refine bind_shift fun (span, c) => ?_
            dsimp only [shift_pair]
            rw [readExpr_shift depth]
            exact bind_shift fun (no, c) =>
              readInfix_shift depth nested power (.conditional left yes no) c
    all_goals rfl

theorem readOperand_shift : (depth : Nat) → (nested : Bool) → (c : Cursor) →
    readOperand depth nested (shift n c) = shift n (readOperand depth nested c)
  | 0, nested, c => by
    rw [readOperand, readOperand]
    exact fail_shift n c .tooDeep
  | depth + 1, nested, c => by
    rw [readOperand, readOperand]
    dsimp only
    rw [skipWhile_shift n _ (Token.isLineBreak_shift n), token?_shift, here_shift]
    generalize c.skipWhile Token.isLineBreak = c
    rcases c.token? with _ | (value | value | ⟨body, offset⟩ | name | word | sign | _)
    case none => exact fail_shift n c .unexpectedEnd
    case some.number =>
      rw [next_shift]
      exact readSuffixes_shift depth nested c.here.start (.number value) c.next
    case some.text =>
      rw [next_shift]
      exact readSuffixes_shift depth nested c.here.start (.text value) c.next
    case some.name =>
      rw [next_shift]
      exact readSuffixes_shift depth nested c.here.start (.identifier name c.here) c.next
    case some.template =>
      rw [shift_some, Token.shift_template]
      dsimp only
      rw [rawParts_shift, Nat.add_assoc, readParts_shift depth, next_shift]
      refine bind_shift fun parts => ?_
      rw [joined?_shift]
      cases Part.joined? parts with
      | none =>
        exact Expr.shift_template n parts ▸
          readSuffixes_shift depth nested c.here.start (.template parts) c.next
      | some text => exact readSuffixes_shift depth nested c.here.start (.text text) c.next
    case some.keyword =>
      rw [shift_some, Token.shift_keyword, next_shift]
      cases word
      case yes => exact readSuffixes_shift depth nested c.here.start (.flag true) c.next
      case no => exact readSuffixes_shift depth nested c.here.start (.flag false) c.next
      case null => exact readSuffixes_shift depth nested c.here.start .null c.next
      all_goals exact fail_shift n c (.unexpectedToken _)
    case some.symbol =>
      rw [shift_some, Token.shift_symbol, next_shift]
      cases sign
      case not =>
        dsimp only
        rw [readExpr_shift depth]
        exact bind_shift fun (operand, c) => rfl
      case minus =>
        dsimp only
        rw [readExpr_shift depth]
        exact bind_shift fun (operand, c) => rfl
      case leftParen =>
        dsimp only
        rw [readExpr_shift depth]
        refine bind_shift fun (value, c') => ?_
        dsimp only [shift_pair]
        rw [expect_shift]
        exact bind_shift fun (_, c') => readSuffixes_shift depth nested c.here.start value c'
      case leftBracket =>
        dsimp only
        rw [readItems_shift depth]
        exact bind_shift fun (items, c') => Expr.shift_listOf n items ▸
          readSuffixes_shift depth nested c.here.start (.list items) c'
      all_goals exact fail_shift n c (.unexpectedToken _)
    case some.lineBreak => exact fail_shift n c (.unexpectedToken _)

theorem readSuffixes_shift : (depth : Nat) → (nested : Bool) → (start : Nat) → (value : Expr) →
    (c : Cursor) →
    readSuffixes depth nested (n + start) (shift n value) (shift n c) =
      shift n (readSuffixes depth nested start value c)
  | 0, nested, start, value, c => by
    rw [readSuffixes, readSuffixes]
    exact fail_shift n c .tooDeep
  | depth + 1, nested, start, value, c => by
    rw [readSuffixes, readSuffixes]
    dsimp only
    rw [settle_shift, token?_shift]
    generalize c.settle nested = c
    rcases c.token? with _ | (_ | _ | _ | _ | _ | sign | _)
    case some.symbol =>
      rw [shift_some, Token.shift_symbol]
      cases sign
      case dot =>
        dsimp only
        rw [next_shift, expectName_shift]
        exact bind_shift fun (field, span, c) =>
          readSuffixes_shift depth nested start (.member value field ⟨start, span.stop⟩) c
      case leftBracket =>
        dsimp only
        rw [next_shift, readExpr_shift depth]
        refine bind_shift fun (index, c) => ?_
        dsimp only [shift_pair]
        rw [expect_shift]
        exact bind_shift fun (span, c) =>
          readSuffixes_shift depth nested start (.index value index ⟨start, span.stop⟩) c
      case leftParen =>
        dsimp only
        rw [next_shift, readItems_shift depth]
        refine bind_shift fun (args, c) => ?_
        exact Expr.shift_call n value args ⟨start, c.last⟩ ▸
          readSuffixes_shift depth nested start (.call value args ⟨start, c.last⟩) c
      all_goals rfl
    all_goals rfl

theorem readItems_shift : (depth : Nat) → (close : Symbol) → (what : Expected) →
    (c : Cursor) → readItems depth close what (shift n c) = shift n (readItems depth close what c)
  | 0, close, what, c => by
    rw [readItems, readItems]
    exact fail_shift n c .tooDeep
  | depth + 1, close, what, c => by
    rw [readItems, readItems]
    dsimp only
    rw [settle_shift, stands_shift, next_shift]
    split
    · rfl
    · rw [readExpr_shift depth]
      refine bind_shift fun (item, c) => ?_
      simp only [shift_pair, settle_shift, stands_shift, next_shift, readItems_shift depth]
      split
      · exact bind_shift fun (items, c) => rfl
      · split
        · rfl
        · exact fail_shift n _ (.expected what)

theorem readParts_shift : (depth : Nat) → (parts : List RawPart) → (stop : Nat) →
    readParts depth (shift n parts) (n + stop) = shift n (readParts depth parts stop)
  | 0, parts, stop => by
    rw [readParts, readParts]
    rfl
  | depth + 1, [], stop => by
    rw [shift_nil, readParts, readParts]
    rfl
  | depth + 1, .literal text :: parts, stop => by
    rw [readParts]
    show readParts (depth + 1) (.literal text :: shift n parts) (n + stop) = _
    rw [readParts, readParts_shift depth]
    exact bind_shift fun rest => rfl
  | depth + 1, .hole offset body :: parts, stop => by
    rw [readParts]
    show readParts (depth + 1) (.hole (n + offset) body :: shift n parts) (n + stop) = _
    rw [readParts, readWhole_shift depth]
    refine bind_shift fun value => ?_
    rw [readParts_shift depth]
    exact bind_shift fun rest => rfl
  | depth + 1, .unclosed offset :: parts, stop => by
    rw [readParts]
    show readParts (depth + 1) (.unclosed (n + offset) :: shift n parts) (n + stop) = _
    rw [readParts]
    rfl

theorem readWhole_shift : (depth : Nat) → (offset : Nat) → (body : List Char) →
    readWhole depth (n + offset) body = shift n (readWhole depth offset body)
  | 0, offset, body => by
    rw [readWhole, readWhole]
    rfl
  | depth + 1, offset, body => by
    rw [readWhole, readWhole, lexemes_shift]
    refine bind_shift fun lexemes => ?_
    dsimp only
    rw [Nat.add_assoc, start_shift, skipWhile_shift n _ (Token.isSeparator_shift n),
      readExpr_shift depth]
    refine bind_shift fun (value, c) => ?_
    simp only [shift_pair, skipWhile_shift n _ (Token.isSeparator_shift n), rest_isEmpty_shift]
    split
    · rfl
    · exact fail_shift n _ .trailingTokens

end

/-! ## Statements -/

theorem branch_shift (condition : Expr) (yes no : List Statement) (start : Nat) (c : Cursor) :
    shift n
        (.ok (.branch condition yes no ⟨start, c.last⟩, c) : Except Fault (Statement × Cursor)) =
      .ok (.branch (shift n condition) (shift n yes) (shift n no) ⟨n + start, n + c.last⟩,
        shift n c) := by
  rw [shift_ok, shift_pair, Statement.shift_branch, shift_span]

mutual

theorem readBody_shift : (depth : Nat) → (braced : Bool) → (c : Cursor) →
    readBody depth braced (shift n c) = shift n (readBody depth braced c)
  | 0, braced, c => by
    rw [readBody, readBody]
    exact fail_shift n c .tooDeep
  | depth + 1, braced, c => by
    rw [readBody, readBody]
    dsimp only
    rw [skipWhile_shift n _ (Token.isSeparator_shift n), token?_shift]
    generalize c.skipWhile Token.isSeparator = c
    cases c.token? with
    | none =>
      rw [shift_none]
      dsimp only
      split
      · exact fail_shift n c (.expected .closeBrace)
      · rfl
    | some token =>
      rw [shift_some]
      dsimp only
      rw [Token.is_shift, next_shift]
      split
      · split <;> rfl
      · rw [readStatement_shift depth]
        refine bind_shift fun (statement, c) => ?_
        simp only [shift_pair, atStatementEnd_shift, readBody_shift depth]
        split
        · exact bind_shift fun (statements, c) => rfl
        · exact fail_shift n c (.expected .statementEnd)

theorem readStatement_shift : (depth : Nat) → (c : Cursor) →
    readStatement depth (shift n c) = shift n (readStatement depth c)
  | 0, c => by
    rw [readStatement, readStatement]
    exact fail_shift n c .tooDeep
  | depth + 1, c => by
    rw [readStatement, readStatement]
    dsimp only
    rw [atKeyword_shift, atKeyword_shift, atAssignment_shift, here_shift, next_shift]
    split
    · rw [expectName_shift]
      refine bind_shift fun (name, _, c') => ?_
      dsimp only [shift_pair]
      rw [expect_shift]
      refine bind_shift fun (_, c') => ?_
      dsimp only [shift_pair]
      rw [readExpr_shift]
      exact bind_shift fun (value, c') => rfl
    · split
      · exact readBranch_shift depth c.here.start c
      · split
        · rw [expectName_shift]
          refine bind_shift fun (name, _, c') => ?_
          dsimp only [shift_pair]
          rw [expect_shift]
          refine bind_shift fun (_, c') => ?_
          dsimp only [shift_pair]
          rw [readExpr_shift]
          exact bind_shift fun (value, c') => rfl
        · rw [readExpr_shift]
          exact bind_shift fun (value, c') => rfl

theorem readBranch_shift : (depth : Nat) → (start : Nat) → (c : Cursor) →
    readBranch depth (n + start) (shift n c) = shift n (readBranch depth start c)
  | 0, start, c => by
    rw [readBranch, readBranch]
    exact fail_shift n c .tooDeep
  | depth + 1, start, c => by
    rw [readBranch, readBranch, next_shift, readExpr_shift]
    refine bind_shift fun (condition, c) => ?_
    dsimp only [shift_pair]
    rw [expect_shift]
    refine bind_shift fun (_, c) => ?_
    dsimp only [shift_pair]
    rw [readBody_shift depth]
    refine bind_shift fun (yes, c) => ?_
    simp only [shift_pair, skipWhile_shift n _ (Token.isLineBreak_shift n), atKeyword_shift,
      next_shift, here_shift, shift_start, readBranch_shift depth, expect_shift]
    split
    · split
      · exact bind_shift fun (nested, c) => (branch_shift n condition yes [nested] start c).symm
      · refine bind_shift fun (_, c) => ?_
        dsimp only [shift_pair]
        rw [readBody_shift depth]
        exact bind_shift fun (no, c) => (branch_shift n condition yes no start c).symm
    · exact (branch_shift n condition yes [] start c).symm

end

theorem expr_shift (offset : Nat) (body : List Char) :
    Expr.ofScript (n + offset) body = shift n (Expr.ofScript offset body) :=
  readWhole_shift n (depthFor body) offset body

theorem statements_shift (offset : Nat) (body : List Char) :
    Statement.ofScript (n + offset) body = shift n (Statement.ofScript offset body) := by
  rw [Statement.ofScript, Statement.ofScript, lexemes_shift]
  refine bind_shift fun lexemes => ?_
  dsimp only
  rw [Nat.add_assoc, start_shift, readBody_shift]
  refine bind_shift fun (statements, c) => ?_
  simp only [shift_pair, rest_isEmpty_shift]
  split
  · rfl
  · exact fail_shift n _ .unexpectedBrace

end Stencil.Script
