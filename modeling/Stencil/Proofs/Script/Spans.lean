import Stencil.Proofs.Script.Cursor
import Stencil.Proofs.Script.Window

/-!
# Spans of what is read

What is read from a script in a window carries spans of the window only, and so does the fault when
it cannot be read. A span that reaches from the start of one lexeme to the end of another is in
order because the parser never turns back.

* `Expr.spans` and `Statement.spans` are all spans in a tree.
* `Cursor.Ahead` says that what is left at a position lies in the window at or after an offset,
  `Cursor.Past` that the position has come past the offset as well. Every step keeps both.
* `readExpr_outcome`, `readBody_outcome` and so on: one lemma for each function of the parser.
* `expr_outcome` and `statements_outcome`: whole scripts.
-/

namespace Stencil

open Script Text

/-! ## The spans of a tree -/

namespace Script

mutual

/-- The spans in an expression. -/
def Expr.spans : Expr → List Span
  | .text _ | .number _ | .flag _ | .null => []
  | .list items => Expr.spansAll items
  | .template parts => Part.spansAll parts
  | .identifier _ span => [span]
  | .member object _ span => span :: object.spans
  | .index object place span => span :: (object.spans ++ place.spans)
  | .call callee args span => span :: (callee.spans ++ Expr.spansAll args)
  | .unary _ operand => operand.spans
  | .binary _ left right => left.spans ++ right.spans
  | .conditional condition yes no => condition.spans ++ (yes.spans ++ no.spans)

/-- The spans in the expressions of a list. -/
def Expr.spansAll : List Expr → List Span
  | [] => []
  | e :: es => e.spans ++ Expr.spansAll es

/-- The spans in a part of a template literal. -/
def Part.spans : Part → List Span
  | .literal _ => []
  | .hole value => value.spans

/-- The spans in the parts of a template literal. -/
def Part.spansAll : List Part → List Span
  | [] => []
  | p :: ps => p.spans ++ Part.spansAll ps

end

mutual

/-- The spans in a statement, its own included. -/
def Statement.spans : Statement → List Span
  | .assign _ value _ span => span :: value.spans
  | .expr value span => span :: value.spans
  | .branch condition yes no span =>
    span :: (condition.spans ++ (Statement.spansAll yes ++ Statement.spansAll no))

/-- The spans in the statements of a list. -/
def Statement.spansAll : List Statement → List Span
  | [] => []
  | s :: ss => s.spans ++ Statement.spansAll ss

end

end Script

namespace Window

variable {w : Window} {s : Span} {ss ts : List Span}

/-- Spans in the window. -/
def Covers (w : Window) (spans : List Span) : Prop := ∀ s ∈ spans, w.Shows s

theorem covers_nil : w.Covers [] := nofun

theorem Shows.covers_cons (h : w.Shows s) (hss : w.Covers ss) : w.Covers (s :: ss) :=
  List.forall_mem_cons.mpr ⟨h, hss⟩

theorem Covers.append (hss : w.Covers ss) (hts : w.Covers ts) : w.Covers (ss ++ ts) :=
  List.forall_mem_append.mpr ⟨hss, hts⟩

end Window

namespace Script

open Window

variable {w : Window} {n m : Nat}

/-! ## Positions -/

namespace Cursor

variable {c : Cursor} {t : Token}

/-- A position in the window at which nothing is left that starts before `n`. -/
structure Ahead (w : Window) (n : Nat) (c : Cursor) : Prop where
  rest : LexemesStand w n c.rest
  last : w.Marks c.last
  stop : w.Marks c.stop

/-- A position in the window that has come past `n`. -/
structure Past (w : Window) (n : Nat) (c : Cursor) : Prop extends Ahead w n c where
  reached : n ≤ c.last

theorem exists_rest_of_token? (h : c.token? = some t) :
    ∃ lexeme rest, c.rest = lexeme :: rest ∧ lexeme.token = t := by
  obtain ⟨_ | ⟨lexeme, rest⟩, last, stop⟩ := c
  · exact nomatch h
  · exact ⟨lexeme, rest, rfl, Option.some.inj h⟩

namespace Ahead

theorem mono (h : c.Ahead w n) (hle : m ≤ n) : c.Ahead w m := ⟨h.rest.mono hle, h.last, h.stop⟩

theorem here (h : c.Ahead w n) : w.Shows c.here := by
  obtain ⟨_ | ⟨lexeme, rest⟩, last, stop⟩ := c
  · exact h.stop.shows
  · exact (h.rest.stands lexeme List.mem_cons_self).span

theorem le_here (h : c.Ahead w n) (ht : c.token? = some t) : n ≤ c.here.start := by
  obtain ⟨_ | ⟨lexeme, rest⟩, last, stop⟩ := c
  · exact nomatch ht
  · exact h.rest.floor_le lexeme List.mem_cons_self

theorem token (h : c.Ahead w n) (ht : c.token? = some t) : t.Stands w := by
  obtain ⟨lexeme, rest, hrest, rfl⟩ := exists_rest_of_token? ht
  exact (h.rest.stands lexeme (hrest ▸ List.mem_cons_self)).token

theorem from_here (h : c.Ahead w n) (ht : c.token? = some t) : c.Ahead w c.here.start := by
  obtain ⟨_ | ⟨lexeme, rest⟩, last, stop⟩ := c
  · exact nomatch ht
  · exact ⟨.cons (h.rest.stands lexeme List.mem_cons_self) h.rest.tail, h.last, h.stop⟩

/-- Whoever passes over a lexeme has come past its start. -/
theorem next_past (h : c.Ahead w n) (ht : c.token? = some t) : c.next.Past w c.here.start := by
  obtain ⟨_ | ⟨lexeme, rest⟩, last, stop⟩ := c
  · exact nomatch ht
  · have hspan := (h.rest.stands lexeme List.mem_cons_self).span
    exact ⟨⟨h.rest.tail.mono hspan.ordered, hspan.stop, h.stop⟩, hspan.ordered⟩

theorem next (h : c.Ahead w n) : c.next.Ahead w n := by
  cases ht : c.token? with
  | none =>
    obtain ⟨_ | ⟨lexeme, rest⟩, last, stop⟩ := c
    · exact h
    · exact nomatch ht
  | some t => exact (h.next_past ht).toAhead.mono (h.le_here ht)

theorem skipWhile (h : c.Ahead w n) (p : Token → Bool) : (c.skipWhile p).Ahead w n :=
  skipWhile_of_next (Ahead w n) next p h

theorem settle (h : c.Ahead w n) (nested : Bool) : (c.settle nested).Ahead w n :=
  settle_of_next (Ahead w n) next nested h

theorem fail {α : Type} {P : α → Prop} (h : c.Ahead w n) (cause : Cause) :
    w.Outcome P (c.fail cause) := h.here

end Ahead

namespace Past

theorem mono (h : c.Past w n) (hle : m ≤ n) : c.Past w m :=
  ⟨h.toAhead.mono hle, Nat.le_trans hle h.reached⟩

theorem next (h : c.Past w n) : c.next.Past w n := by
  cases ht : c.token? with
  | none =>
    obtain ⟨_ | ⟨lexeme, rest⟩, last, stop⟩ := c
    · exact h
    · exact nomatch ht
  | some t => exact (h.next_past ht).mono (h.le_here ht)

theorem skipWhile (h : c.Past w n) (p : Token → Bool) : (c.skipWhile p).Past w n :=
  skipWhile_of_next (Past w n) next p h

theorem settle (h : c.Past w n) (nested : Bool) : (c.settle nested).Past w n :=
  settle_of_next (Past w n) next nested h

/-- The span from an offset to where a position past it has come. -/
theorem shows_last (h : c.Past w n) (hn : w.Marks n) : w.Shows ⟨n, c.last⟩ :=
  ⟨hn, h.last, h.reached⟩

end Past

/-- A span that does not start before `n`, and a position past `n`. -/
def Passed (w : Window) (n : Nat) (span : Span) (c : Cursor) : Prop :=
  w.Shows span ∧ n ≤ span.start ∧ c.Past w n

theorem Ahead.passed (h : c.Ahead w n) (ht : c.token? = some t) : Passed w n c.here c.next :=
  ⟨h.here, h.le_here ht, (h.next_past ht).mono (h.le_here ht)⟩

theorem expect_outcome (h : c.Ahead w n) (nested : Bool) (sign : Symbol) (what : Expected) :
    w.Outcome (fun (span, c) => Passed w n span c) (c.expect nested sign what) := by
  have hc := h.settle nested
  unfold expect
  dsimp only
  split
  · next hstands => exact hc.passed (token?_of_stands hstands)
  · exact hc.fail _

theorem expectName_outcome (h : c.Ahead w n) (nested : Bool) :
    w.Outcome (fun (_, span, c) => Passed w n span c) (c.expectName nested) := by
  have hc := h.settle nested
  unfold expectName
  dsimp only
  split
  · next ht => exact hc.passed ht
  · exact hc.next.fail _

end Cursor

open Cursor

variable {α : Type}

/-- What was read has its spans in the window, and the position after it is past `n`. -/
def Spanned (w : Window) (n : Nat) (spans : α → List Span) : α × Cursor → Prop
  | (a, c) => w.Covers (spans a) ∧ c.Past w n

theorem Spanned.mono {spans : α → List Span} {r : α × Cursor} (h : Spanned w n spans r)
    (hle : m ≤ n) : Spanned w m spans r := ⟨h.1, h.2.mono hle⟩

/-! ## Expressions -/

theorem joined_covers {parts : List Part} (h : w.Covers (Part.spansAll parts)) :
    w.Covers (Expr.spans (match Part.joined? parts with
      | some text => .text text
      | none => .template parts)) := by
  split
  · exact covers_nil
  · exact h

mutual

theorem readExpr_outcome : (depth : Nat) → (nested : Bool) → (power : Nat) → {c : Cursor} →
    {n : Nat} → c.Ahead w n → w.Outcome (Spanned w n Expr.spans) (readExpr depth nested power c)
  | 0, nested, power, c, n, hc => by
    rw [readExpr]
    exact hc.fail _
  | depth + 1, nested, power, c, n, hc => by
    rw [readExpr]
    exact (readOperand_outcome depth nested hc).bind fun (left, c) ⟨hleft, hc⟩ =>
      readInfix_outcome depth nested power hleft hc

theorem readInfix_outcome : (depth : Nat) → (nested : Bool) → (power : Nat) → {left : Expr} →
    {c : Cursor} → {n : Nat} → w.Covers left.spans → c.Past w n →
    w.Outcome (Spanned w n Expr.spans) (readInfix depth nested power left c)
  | 0, nested, power, left, c, n, hleft, hc => by
    rw [readInfix]
    exact hc.fail _
  | depth + 1, nested, power, left, c, n, hleft, hc => by
    replace hc := hc.settle nested
    rw [readInfix]
    dsimp only
    split
    · split
      · exact ⟨hleft, hc⟩
      · split
        · exact ⟨hleft, hc⟩
        · split
          · refine (readExpr_outcome depth nested _ hc.next.toAhead).bind
              fun (right, c) ⟨hright, hc⟩ => ?_
            exact readInfix_outcome depth nested power (hleft.append hright) hc
          · refine (readExpr_outcome depth true 0 hc.next.toAhead).bind
              fun (yes, c) ⟨hyes, hc⟩ => ?_
            refine (expect_outcome hc.toAhead nested .colon .colon).bind
              fun (_, c) ⟨_, _, hc⟩ => ?_
            refine (readExpr_outcome depth nested _ hc.toAhead).bind fun (no, c) ⟨hno, hc⟩ => ?_
            exact readInfix_outcome depth nested power (hleft.append (hyes.append hno)) hc
    · exact ⟨hleft, hc⟩

theorem readOperand_outcome : (depth : Nat) → (nested : Bool) → {c : Cursor} → {n : Nat} →
    c.Ahead w n → w.Outcome (Spanned w n Expr.spans) (readOperand depth nested c)
  | 0, nested, c, n, hc => by
    rw [readOperand]
    exact hc.fail _
  | depth + 1, nested, c, n, hc => by
    rw [readOperand]
    dsimp only
    replace hc := hc.skipWhile Token.isLineBreak
    generalize c.skipWhile Token.isLineBreak = c at hc
    have hstart : w.Marks c.here.start := hc.here.start
    -- Suffixes are read past the start of the operand, which nothing that is left stands before.
    have hsuffixes {token : Token} (htoken : c.token? = some token) {value : Expr} {c' : Cursor}
        (hvalue : w.Covers value.spans) (hc' : c'.Past w c.here.start) :
        w.Outcome (Spanned w n Expr.spans) (readSuffixes depth nested c.here.start value c') :=
      (readSuffixes_outcome depth nested hstart hvalue hc').imp fun _ h =>
        h.mono (hc.le_here htoken)
    rcases htoken : c.token? with _ | (value | value | ⟨body, offset⟩ | name | word | sign | _)
    case none => exact hc.fail _
    case some.number => exact hsuffixes htoken covers_nil (hc.next_past htoken)
    case some.text => exact hsuffixes htoken covers_nil (hc.next_past htoken)
    case some.name => exact hsuffixes htoken (hc.here.covers_cons covers_nil) (hc.next_past htoken)
    case some.template =>
      have hbody : w.Holds offset body := hc.token htoken
      refine (readParts_outcome depth (rawParts_stand hbody) hbody.shows.stop).bind
        fun parts hparts => ?_
      exact hsuffixes htoken (joined_covers hparts) (hc.next_past htoken)
    case some.keyword =>
      cases word
      case yes | no | null => exact hsuffixes htoken covers_nil (hc.next_past htoken)
      all_goals exact hc.fail _
    case some.symbol =>
      cases sign
      case not => exact (readExpr_outcome depth nested unaryPower hc.next).bind fun _ h => h
      case minus => exact (readExpr_outcome depth nested unaryPower hc.next).bind fun _ h => h
      case leftParen =>
        refine (readExpr_outcome depth true 0 (hc.next_past htoken).toAhead).bind
          fun (value, c') ⟨hvalue, hc'⟩ => ?_
        exact (expect_outcome hc'.toAhead true .rightParen .closeParen).bind
          fun (_, c') ⟨_, _, hc'⟩ => hsuffixes htoken hvalue hc'
      case leftBracket =>
        exact (readItems_outcome depth _ _ (hc.next_past htoken)).bind
          fun (items, c') ⟨hitems, hc'⟩ => hsuffixes htoken hitems hc'
      all_goals exact hc.fail _
    case some.lineBreak => exact hc.fail _

theorem readSuffixes_outcome : (depth : Nat) → (nested : Bool) → {start : Nat} → {value : Expr} →
    {c : Cursor} → w.Marks start → w.Covers value.spans → c.Past w start →
    w.Outcome (Spanned w start Expr.spans) (readSuffixes depth nested start value c)
  | 0, nested, start, value, c, hstart, hvalue, hc => by
    rw [readSuffixes]
    exact hc.fail _
  | depth + 1, nested, start, value, c, hstart, hvalue, hc => by
    replace hc := hc.settle nested
    rw [readSuffixes]
    dsimp only
    split
    · refine (expectName_outcome hc.next.toAhead nested).bind
        fun (field, span, c) ⟨hspan, hle, hc⟩ => ?_
      have hmember : w.Shows ⟨start, span.stop⟩ :=
        ⟨hstart, hspan.stop, Nat.le_trans hle hspan.ordered⟩
      exact readSuffixes_outcome depth nested hstart (hmember.covers_cons hvalue) hc
    · refine (readExpr_outcome depth true 0 hc.next.toAhead).bind fun (index, c) ⟨hindex, hc⟩ => ?_
      refine (expect_outcome hc.toAhead true .rightBracket .closeBracket).bind
        fun (span, c) ⟨hspan, hle, hc⟩ => ?_
      have hwhole : w.Shows ⟨start, span.stop⟩ :=
        ⟨hstart, hspan.stop, Nat.le_trans hle hspan.ordered⟩
      exact readSuffixes_outcome depth nested hstart
        (hwhole.covers_cons (hvalue.append hindex)) hc
    · refine (readItems_outcome depth _ _ hc.next).bind fun (args, c) ⟨hargs, hc⟩ => ?_
      exact readSuffixes_outcome depth nested hstart
        ((hc.shows_last hstart).covers_cons (hvalue.append hargs)) hc
    · exact ⟨hvalue, hc⟩

theorem readItems_outcome : (depth : Nat) → (close : Symbol) → (what : Expected) →
    {c : Cursor} → {n : Nat} → c.Past w n →
    w.Outcome (Spanned w n Expr.spansAll) (readItems depth close what c)
  | 0, close, what, c, n, hc => by
    rw [readItems]
    exact hc.fail _
  | depth + 1, close, what, c, n, hc => by
    replace hc := hc.settle true
    rw [readItems]
    dsimp only
    split
    · exact ⟨covers_nil, hc.next⟩
    · refine (readExpr_outcome depth true 0 hc.toAhead).bind fun (item, c) ⟨hitem, hc⟩ => ?_
      replace hc := hc.settle true
      dsimp only
      split
      · exact (readItems_outcome depth close what hc.next).bind
          fun (items, c) ⟨hitems, hc⟩ => ⟨hitem.append hitems, hc⟩
      · split
        · exact ⟨hitem.append covers_nil, hc.next⟩
        · exact hc.fail _

theorem readParts_outcome : (depth : Nat) → {parts : List RawPart} → {stop : Nat} →
    (∀ part ∈ parts, part.Stands w stop) → w.Marks stop →
    w.Outcome (fun parts => w.Covers (Part.spansAll parts)) (readParts depth parts stop)
  | 0, parts, stop, hparts, hstop => by
    rw [readParts]
    exact hstop.shows
  | depth + 1, [], stop, hparts, hstop => by
    rw [readParts]
    exact covers_nil
  | depth + 1, .literal text :: parts, stop, hparts, hstop => by
    rw [readParts]
    exact (readParts_outcome depth (List.forall_mem_cons.mp hparts).2 hstop).bind
      fun rest hrest => hrest
  | depth + 1, .hole offset body :: parts, stop, hparts, hstop => by
    obtain ⟨hbody, hparts⟩ := List.forall_mem_cons.mp hparts
    rw [readParts]
    refine (readWhole_outcome depth hbody).bind fun value hvalue => ?_
    exact (readParts_outcome depth hparts hstop).bind fun rest hrest => hvalue.append hrest
  | depth + 1, .unclosed offset :: parts, stop, hparts, hstop => by
    obtain ⟨hoffset, hle⟩ := hparts _ List.mem_cons_self
    rw [readParts]
    exact ⟨hoffset, hstop, hle⟩

theorem readWhole_outcome : (depth : Nat) → {offset : Nat} → {body : List Char} →
    w.Holds offset body → w.Outcome (fun e => w.Covers e.spans) (readWhole depth offset body)
  | 0, offset, body, hbody => by
    rw [readWhole]
    exact hbody.marks.shows
  | depth + 1, offset, body, hbody => by
    rw [readWhole]
    refine (lexemes_outcome hbody).bind fun lexemes hlexemes => ?_
    have hc : (Cursor.start lexemes (offset + byteLength body)).Ahead w offset :=
      ⟨hlexemes, hbody.shows.stop, hbody.shows.stop⟩
    refine (readExpr_outcome depth false 0 (hc.skipWhile _)).bind fun (value, c) ⟨hvalue, hc⟩ => ?_
    dsimp only
    split
    · exact hvalue
    · exact (hc.skipWhile _).fail _

end

/-- **An expression read from a text in the window has its spans there**, as has the fault. -/
theorem expr_outcome {offset : Nat} {body : List Char} (h : w.Holds offset body) :
    w.Outcome (fun e => w.Covers e.spans) (Expr.ofScript offset body) :=
  readWhole_outcome _ h

/-! ## Statements -/

mutual

theorem readBody_outcome : (depth : Nat) → (braced : Bool) → {c : Cursor} → {n : Nat} →
    c.Past w n → w.Outcome (Spanned w n Statement.spansAll) (readBody depth braced c)
  | 0, braced, c, n, hc => by
    rw [readBody]
    exact hc.fail _
  | depth + 1, braced, c, n, hc => by
    replace hc := hc.skipWhile Token.isSeparator
    rw [readBody]
    dsimp only
    generalize c.skipWhile Token.isSeparator = c at hc
    cases htoken : c.token? with
    | none =>
      dsimp only
      split
      · exact hc.fail _
      · exact ⟨covers_nil, hc⟩
    | some token =>
      dsimp only
      split
      · split
        · exact ⟨covers_nil, hc.next⟩
        · exact ⟨covers_nil, hc⟩
      · refine (readStatement_outcome depth hc.toAhead htoken).bind
          fun (statement, c) ⟨hstatement, hc⟩ => ?_
        dsimp only
        split
        · exact (readBody_outcome depth braced hc).bind
            fun (statements, c) ⟨hstatements, hc⟩ => ⟨hstatement.append hstatements, hc⟩
        · exact hc.fail _

theorem readStatement_outcome : (depth : Nat) → {c : Cursor} → {n : Nat} → {token : Token} →
    c.Ahead w n → c.token? = some token →
    w.Outcome (Spanned w n Statement.spans) (readStatement depth c)
  | 0, c, n, token, hc, htoken => by
    rw [readStatement]
    exact hc.fail _
  | depth + 1, c, n, token, hc, htoken => by
    -- All of the statement is read past its start.
    have hhere := hc.from_here htoken
    have hstart : w.Marks c.here.start := hc.here.start
    refine Outcome.imp (P := Spanned w c.here.start Statement.spans) ?_ fun _ h =>
      h.mono (hc.le_here htoken)
    rw [readStatement]
    dsimp only
    split
    · refine (expectName_outcome hhere.next false).bind fun (name, _, c) ⟨_, _, hc⟩ => ?_
      refine (expect_outcome hc.toAhead false .assign .assignAfterName).bind
        fun (_, c) ⟨_, _, hc⟩ => ?_
      exact (readExpr_outcome depth false 0 hc.toAhead).bind fun (value, c) ⟨hvalue, hc⟩ =>
        ⟨(hc.shows_last hstart).covers_cons hvalue, hc⟩
    · split
      · exact readBranch_outcome depth hstart hhere
      · split
        · refine (expectName_outcome hhere false).bind fun (name, _, c) ⟨_, _, hc⟩ => ?_
          refine (expect_outcome hc.toAhead false .assign .assign).bind fun (_, c) ⟨_, _, hc⟩ => ?_
          exact (readExpr_outcome depth false 0 hc.toAhead).bind fun (value, c) ⟨hvalue, hc⟩ =>
            ⟨(hc.shows_last hstart).covers_cons hvalue, hc⟩
        · exact (readExpr_outcome depth false 0 hhere).bind fun (value, c) ⟨hvalue, hc⟩ =>
            ⟨(hc.shows_last hstart).covers_cons hvalue, hc⟩

theorem readBranch_outcome : (depth : Nat) → {start : Nat} → {c : Cursor} → w.Marks start →
    c.Ahead w start → w.Outcome (Spanned w start Statement.spans) (readBranch depth start c)
  | 0, start, c, hstart, hc => by
    rw [readBranch]
    exact hc.fail _
  | depth + 1, start, c, hstart, hc => by
    rw [readBranch]
    refine (readExpr_outcome depth false 0 hc.next).bind fun (condition, c) ⟨hcondition, hc⟩ => ?_
    refine (expect_outcome hc.toAhead false .leftBrace .bodyAfterCondition).bind
      fun (_, c) ⟨_, _, hc⟩ => ?_
    refine (readBody_outcome depth true hc).bind fun (yes, c) ⟨hyes, hc⟩ => ?_
    have hafter := (hc.skipWhile Token.isLineBreak).next
    dsimp only
    split
    · split
      · next hbranch =>
        have htoken := token?_of_atKeyword hbranch
        have hhere := hafter.toAhead.from_here htoken
        refine (readBranch_outcome depth hhere.here.start hhere).bind
          fun (nested, c) ⟨hnested, hc⟩ => ?_
        replace hc := hc.mono (hafter.le_here htoken)
        exact ⟨(hc.shows_last hstart).covers_cons
          (hcondition.append (hyes.append (hnested.append covers_nil))), hc⟩
      · refine (expect_outcome hafter.toAhead false .leftBrace .bodyAfterElse).bind
          fun (_, c) ⟨_, _, hc⟩ => ?_
        exact (readBody_outcome depth true hc).bind fun (no, c) ⟨hno, hc⟩ =>
          ⟨(hc.shows_last hstart).covers_cons (hcondition.append (hyes.append hno)), hc⟩
    · exact ⟨(hc.shows_last hstart).covers_cons
        (hcondition.append (hyes.append covers_nil)), hc⟩

end

/-- **Statements read from a text in the window have their spans there**, as has the fault. -/
theorem statements_outcome {offset : Nat} {body : List Char} (h : w.Holds offset body) :
    w.Outcome (fun ss => w.Covers (Statement.spansAll ss)) (Statement.ofScript offset body) := by
  have hstop : w.Marks (offset + byteLength body) := h.shows.stop
  rw [Statement.ofScript]
  refine (lexemes_outcome h).bind fun lexemes hlexemes => ?_
  have hc : (Cursor.start lexemes (offset + byteLength body)).Past w offset :=
    ⟨⟨hlexemes, hstop, hstop⟩, Nat.le_add_right _ _⟩
  refine (readBody_outcome (depthFor body) false hc).bind
    fun (statements, c) ⟨hstatements, hc⟩ => ?_
  dsimp only
  split
  · exact hstatements
  · exact hc.fail _

end Script

end Stencil
