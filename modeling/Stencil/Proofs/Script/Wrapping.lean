import Mathlib
import Stencil.Proofs.Result
import Stencil.Proofs.Script.Cursor

/-!
# Line breaks between brackets

Line breaks between parentheses or square brackets can be left out without a change in what is
parsed. The parser says whether it is between brackets by an argument of its functions, and not all
of them look at line breaks in the same way; the tokens themselves show how many brackets are open.

* `Brackets` counts the brackets that are open behind a token; `DropsBreaks` leaves out line breaks
  where one is.
* `Alike` and `Level`: two positions in such lists, and two that stand at the same lexeme.
* `readExpr_breaks` and so on: the same is read from both positions, and the positions behind it
  are alike again. Outside of brackets they stand behind the same lexeme, and so the spans of
  statements are the same. There is one lemma for each function of the parser.
* `Expr.ofLexemes` and `Statement.ofLexemes` are the parser behind the lexer.
* `parse_dropsBreaks`: lists that differ in such line breaks are parsed alike.
-/

namespace Stencil.Script

open Text

theorem Token.isLineBreak_iff {t : Token} : t.isLineBreak = true ↔ t = .lineBreak := by
  cases t <;> simp [isLineBreak]

/-! ## Open brackets -/

/-- How many parentheses and square brackets are open. -/
structure Brackets where
  parens : Nat
  squares : Nat

namespace Brackets

/-- Nothing is open at the start of a script. -/
def none : Brackets := ⟨0, 0⟩

/-- The brackets that are open behind a token. A closing bracket that closes nothing is passed
over. -/
def after (o : Brackets) : Token → Brackets
  | .symbol .leftParen => ⟨o.parens + 1, o.squares⟩
  | .symbol .rightParen => ⟨o.parens - 1, o.squares⟩
  | .symbol .leftBracket => ⟨o.parens, o.squares + 1⟩
  | .symbol .rightBracket => ⟨o.parens, o.squares - 1⟩
  | _ => o

/-- Whether a bracket is open. -/
def IsOpen (o : Brackets) : Prop := 0 < o.parens ∨ 0 < o.squares

theorem after_of_isSeparator {t : Token} (h : t.isSeparator = true) (o : Brackets) :
    o.after t = o := by
  cases t with
  | symbol sign => cases sign <;> first | rfl | cases h
  | _ => rfl

/-- Nothing is asked between brackets. -/
theorem closed_of_nested (o : Brackets) : true = false → ¬ o.IsOpen := fun h => nomatch h

theorem not_isOpen_none : ¬ none.IsOpen := fun h => h.elim (Nat.lt_irrefl 0) (Nat.lt_irrefl 0)

end Brackets

/-- Whether the second list is the first without some of the line breaks that stand where a bracket
is open. -/
inductive DropsBreaks : Brackets → List Lexeme → List Lexeme → Prop
  | nil {o : Brackets} : DropsBreaks o [] []
  | keep {o : Brackets} {x : Lexeme} {ls ls' : List Lexeme} :
    DropsBreaks (o.after x.token) ls ls' → DropsBreaks o (x :: ls) (x :: ls')
  | drop {o : Brackets} {x : Lexeme} {ls ls' : List Lexeme} : o.IsOpen → x.token = .lineBreak →
    DropsBreaks o ls ls' → DropsBreaks o (x :: ls) ls'

namespace DropsBreaks

variable {o : Brackets} {ls ls' : List Lexeme} {p : Token → Bool}

/-- The line breaks in front can be passed over on both sides. -/
theorem dropWhile (h : DropsBreaks o ls ls') :
    DropsBreaks o (ls.dropWhile fun x => x.token.isLineBreak)
      (ls'.dropWhile fun x => x.token.isLineBreak) := by
  induction h with
  | nil => exact .nil
  | @keep o x ls ls' h ih =>
    by_cases hx : x.token.isLineBreak = true
    · have heq : o.after x.token = o := by rw [Token.isLineBreak_iff.mp hx]; rfl
      rw [heq] at ih
      simpa [hx] using ih
    · simpa [hx] using h.keep
  | drop _ hx _ ih => simpa [hx, Token.isLineBreak] using ih

/-- Where nothing is open, the separators in front are the same on both sides. -/
theorem split_of_closed (h : DropsBreaks o ls ls') (hclosed : ¬ o.IsOpen)
    (hp : ∀ t, p t = true → t.isSeparator = true) :
    (ls.takeWhile fun x => p x.token) = (ls'.takeWhile fun x => p x.token) ∧
      DropsBreaks o (ls.dropWhile fun x => p x.token) (ls'.dropWhile fun x => p x.token) := by
  induction h with
  | nil => exact ⟨rfl, .nil⟩
  | @keep o x ls ls' h ih =>
    by_cases hx : p x.token = true
    · rw [Brackets.after_of_isSeparator (hp _ hx)] at ih
      simpa [hx] using ih hclosed
    · simpa [hx] using h.keep
  | drop hopen => exact absurd hopen hclosed

/-- Either both lists end, or they go on with the same lexeme. -/
theorem cases_level (h : DropsBreaks o ls ls')
    (hlevel : ∀ x ∈ ls.head?, x.token = .lineBreak → ¬ o.IsOpen) :
    ls = [] ∧ ls' = [] ∨ ∃ x rest rest', ls = x :: rest ∧ ls' = x :: rest' ∧
      DropsBreaks (o.after x.token) rest rest' := by
  cases h with
  | nil => exact .inl ⟨rfl, rfl⟩
  | keep h => exact .inr ⟨_, _, _, rfl, rfl, h⟩
  | drop hopen hx => exact absurd hopen (hlevel _ rfl hx)

end DropsBreaks

/-! ## Positions -/

/-- Two positions with the same brackets open behind which the same stands but for line breaks
between brackets. Unless `nested`, they stand behind the same lexeme. -/
structure Alike (o : Brackets) (nested : Bool) (c c' : Cursor) : Prop where
  rest : DropsBreaks o c.rest c'.rest
  stop : c.stop = c'.stop
  last : nested = false → c.last = c'.last

/-- Two such positions at the same lexeme, or at the end. -/
structure Level (o : Brackets) (c c' : Cursor) : Prop where
  alike : Alike o true c c'
  level : ∀ x ∈ c.rest.head?, x.token = .lineBreak → ¬ o.IsOpen

section Positions

variable {o : Brackets} {nested : Bool} {c c' : Cursor} {t : Token} {p : Token → Bool}

/-- Positions behind the same lexeme are alike between brackets as well. -/
theorem Alike.loosen (h : Alike o false c c') : Alike o nested c c' :=
  ⟨h.rest, h.stop, fun _ => h.last rfl⟩

/-- Outside of brackets all line breaks are kept. -/
theorem Alike.level_of_closed (h : Alike o nested c c') (hclosed : ¬ o.IsOpen) : Level o c c' :=
  ⟨⟨h.rest, h.stop, nofun⟩, fun _ _ _ => hclosed⟩

theorem Alike.skipBreaks (h : Alike o nested c c') :
    Level o (c.skipWhile Token.isLineBreak) (c'.skipWhile Token.isLineBreak) := by
  refine ⟨⟨h.rest.dropWhile, h.stop, nofun⟩, fun x hx hbreak => ?_⟩
  have hnot := List.head?_dropWhile_not (fun x : Lexeme => x.token.isLineBreak) c.rest
  rw [show (c.rest.dropWhile fun x => x.token.isLineBreak).head? = some x from hx] at hnot
  cases (Token.isLineBreak_iff.mpr hbreak).symm.trans hnot

/-- Outside of brackets the separators that are passed over are the same. -/
theorem Alike.skipWhile (h : Alike o false c c') (hclosed : ¬ o.IsOpen)
    (hp : ∀ t, p t = true → t.isSeparator = true) :
    Alike o false (c.skipWhile p) (c'.skipWhile p) := by
  obtain ⟨htake, hdrop⟩ := h.rest.split_of_closed hclosed hp
  refine ⟨hdrop, h.stop, fun _ => ?_⟩
  unfold Cursor.skipWhile
  dsimp only
  rw [htake, h.last rfl]

theorem Alike.settle (h : Alike o nested c c') :
    Alike o nested (c.settle nested) (c'.settle nested) := by
  cases nested with
  | true => exact h.skipBreaks.alike
  | false => exact h

/-- Between brackets no line break is left in front, and outside of them all are kept. -/
theorem Alike.settle_level {loose : Bool} (h : Alike o loose c c')
    (hclosed : nested = false → ¬ o.IsOpen) : Level o (c.settle nested) (c'.settle nested) := by
  cases nested with
  | true => exact h.skipBreaks
  | false => exact h.level_of_closed (hclosed rfl)

end Positions

namespace Level

variable {o : Brackets} {c c' : Cursor} {t : Token}

theorem head?_eq (h : Level o c c') : c'.rest.head? = c.rest.head? := by
  obtain ⟨hc, hc'⟩ | ⟨x, rest, rest', hc, hc', -⟩ := h.alike.rest.cases_level h.level
  · rw [hc, hc']
  · rw [hc, hc']
    rfl

theorem token?_eq (h : Level o c c') : c'.token? = c.token? := by
  rw [Cursor.token?, Cursor.token?, h.head?_eq]

theorem stands_eq (h : Level o c c') (sign : Symbol) : c'.stands sign = c.stands sign := by
  rw [Cursor.stands, Cursor.stands, h.token?_eq]

theorem atKeyword_eq (h : Level o c c') (word : Keyword) :
    c'.atKeyword word = c.atKeyword word := by
  rw [Cursor.atKeyword, Cursor.atKeyword, h.token?_eq]

theorem atStatementEnd_eq (h : Level o c c') : c'.atStatementEnd = c.atStatementEnd := by
  rw [Cursor.atStatementEnd, Cursor.atStatementEnd, h.token?_eq]

theorem isEmpty_eq (h : Level o c c') : c'.rest.isEmpty = c.rest.isEmpty := by
  obtain ⟨hc, hc'⟩ | ⟨x, rest, rest', hc, hc', -⟩ := h.alike.rest.cases_level h.level
  · rw [hc, hc']
  · rw [hc, hc']
    rfl

theorem here_eq (h : Level o c c') : c'.here = c.here := by
  obtain ⟨hc, hc'⟩ | ⟨x, rest, rest', hc, hc', -⟩ := h.alike.rest.cases_level h.level
  · rw [Cursor.here, Cursor.here, hc, hc', h.alike.stop]
  · rw [Cursor.here, Cursor.here, hc, hc']

/-- Behind the same token both stand behind the same lexeme. -/
theorem next (h : Level o c c') (ht : c.token? = some t) :
    Alike (o.after t) false c.next c'.next := by
  obtain ⟨hc, hc'⟩ | ⟨x, rest, rest', hc, hc', hrest⟩ := h.alike.rest.cases_level h.level
  · rw [Cursor.token?, hc] at ht
    cases ht
  · rw [Cursor.token?, hc] at ht
    obtain rfl := Option.some.inj ht
    refine ⟨?_, ?_, fun _ => ?_⟩
    · rw [Cursor.next, Cursor.next, hc, hc']
      exact hrest
    · rw [Cursor.next, Cursor.next, hc, hc']
      exact h.alike.stop
    · rw [Cursor.next, Cursor.next, hc, hc']

end Level

/-- Two results that are the same, at positions that are alike. -/
inductive Same {α : Type} (o : Brackets) (nested : Bool) : α × Cursor → α × Cursor → Prop where
  | intro {a : α} {c c' : Cursor} : Alike o nested c c' → Same o nested (a, c) (a, c')

section Expected

variable {o : Brackets} {nested loose : Bool} {c c' : Cursor}
  (hclosed : nested = false → ¬ o.IsOpen) (h : Alike o loose c c')
include hclosed h

theorem expect_breaks (sign : Symbol) (what : Expected) :
    Agree (Same (o.after (.symbol sign)) false) (c.expect nested sign what)
      (c'.expect nested sign what) := by
  have hlevel := h.settle_level hclosed
  unfold Cursor.expect
  dsimp only
  rw [hlevel.stands_eq, hlevel.here_eq]
  split
  · next hstands => exact .ok ⟨hlevel.next (Cursor.token?_of_stands hstands)⟩
  · exact .error

theorem expectName_breaks :
    Agree (fun r r' => ∃ name span c c', r = (name, span, c) ∧ r' = (name, span, c') ∧
      Alike o false c c') (c.expectName nested) (c'.expectName nested) := by
  have hlevel := h.settle_level hclosed
  unfold Cursor.expectName
  dsimp only
  rw [hlevel.token?_eq, hlevel.here_eq]
  rcases ht : (c.settle nested).token? with _ | (_ | _ | _ | name | _ | _ | _)
  case some.name => exact .ok ⟨_, _, _, _, rfl, rfl, hlevel.next ht⟩
  all_goals exact .error

end Expected

/-! ## Expressions -/

/-- No operator between operands opens or closes a bracket. -/
theorem Brackets.after_of_infixPowers? {sign : Symbol} {powers : Nat × Nat}
    (h : infixPowers? sign = some powers) (o : Brackets) : o.after (.symbol sign) = o := by
  cases sign <;> first | rfl | cases h

mutual

theorem readExpr_breaks : (depth : Nat) → {o : Brackets} → {nested : Bool} → {c c' : Cursor} →
    (power : Nat) → (nested = false → ¬ o.IsOpen) → Alike o nested c c' →
    Agree (Same o nested) (readExpr depth nested power c) (readExpr depth nested power c')
  | 0, _, _, _, _, _, _, _ => by
    rw [readExpr, readExpr]
    exact .error
  | depth + 1, o, nested, c, c', power, hclosed, h => by
    rw [readExpr, readExpr]
    refine (readOperand_breaks depth hclosed h).bind ?_
    rintro _ _ (@⟨left, c, c', h⟩)
    exact readInfix_breaks depth power left hclosed h

theorem readInfix_breaks : (depth : Nat) → {o : Brackets} → {nested : Bool} → {c c' : Cursor} →
    (power : Nat) → (left : Expr) → (nested = false → ¬ o.IsOpen) → Alike o nested c c' →
    Agree (Same o nested) (readInfix depth nested power left c)
      (readInfix depth nested power left c')
  | 0, _, _, _, _, _, _, _, _ => by
    rw [readInfix, readInfix]
    exact .error
  | depth + 1, o, nested, c, c', power, left, hclosed, h => by
    rw [readInfix, readInfix]
    dsimp only
    have hlevel := h.settle_level hclosed
    replace h := h.settle
    rw [hlevel.token?_eq]
    generalize c.settle nested = c at hlevel h ⊢
    generalize c'.settle nested = c' at hlevel h ⊢
    rcases ht : c.token? with _ | (_ | _ | _ | _ | _ | sign | _)
    case some.symbol =>
      dsimp only
      cases hpowers : infixPowers? sign with
      | none => exact .ok ⟨h⟩
      | some powers =>
        dsimp only
        split
        · exact .ok ⟨h⟩
        · have hnext := hlevel.next ht
          rw [Brackets.after_of_infixPowers? hpowers] at hnext
          cases BinaryOp.ofSymbol? sign with
          | some op =>
            refine (readExpr_breaks depth _ hclosed hnext.loosen).bind ?_
            rintro _ _ (@⟨right, c, c', h⟩)
            exact readInfix_breaks depth power (.binary op left right) hclosed h
          | none =>
            refine (readExpr_breaks depth 0 (Brackets.closed_of_nested _) hnext.loosen).bind ?_
            rintro _ _ (@⟨yes, c, c', h⟩)
            refine (expect_breaks hclosed h .colon .colon).bind ?_
            rintro _ _ (@⟨_, c, c', h⟩)
            refine (readExpr_breaks depth _ hclosed h.loosen).bind ?_
            rintro _ _ (@⟨no, c, c', h⟩)
            exact readInfix_breaks depth power (.conditional left yes no) hclosed h
    all_goals exact .ok ⟨h⟩

theorem readOperand_breaks : (depth : Nat) → {o : Brackets} → {nested : Bool} → {c c' : Cursor} →
    (nested = false → ¬ o.IsOpen) → Alike o nested c c' →
    Agree (Same o nested) (readOperand depth nested c) (readOperand depth nested c')
  | 0, _, _, _, _, _, _ => by
    rw [readOperand, readOperand]
    exact .error
  | depth + 1, o, nested, c, c', hclosed, h => by
    rw [readOperand, readOperand]
    dsimp only
    have hlevel := h.skipBreaks
    rw [hlevel.token?_eq, hlevel.here_eq]
    generalize c.skipWhile Token.isLineBreak = c at hlevel ⊢
    generalize c'.skipWhile Token.isLineBreak = c' at hlevel ⊢
    rcases ht : c.token? with _ | (value | value | ⟨body, offset⟩ | name | word | sign | _)
    case none => exact .error
    case some.number => exact readSuffixes_breaks depth _ _ hclosed (hlevel.next ht).loosen
    case some.text => exact readSuffixes_breaks depth _ _ hclosed (hlevel.next ht).loosen
    case some.name => exact readSuffixes_breaks depth _ _ hclosed (hlevel.next ht).loosen
    case some.template =>
      refine Agree.bind_same _ fun parts => ?_
      exact readSuffixes_breaks depth _ _ hclosed (hlevel.next ht).loosen
    case some.keyword =>
      cases word
      case yes => exact readSuffixes_breaks depth _ _ hclosed (hlevel.next ht).loosen
      case no => exact readSuffixes_breaks depth _ _ hclosed (hlevel.next ht).loosen
      case null => exact readSuffixes_breaks depth _ _ hclosed (hlevel.next ht).loosen
      all_goals exact .error
    case some.symbol =>
      have hnext := hlevel.next ht
      cases sign
      case not =>
        refine (readExpr_breaks depth unaryPower hclosed hnext.loosen).bind ?_
        rintro _ _ ⟨h⟩
        exact .ok ⟨h⟩
      case minus =>
        refine (readExpr_breaks depth unaryPower hclosed hnext.loosen).bind ?_
        rintro _ _ ⟨h⟩
        exact .ok ⟨h⟩
      case leftParen =>
        refine (readExpr_breaks depth 0 (Brackets.closed_of_nested _) hnext.loosen).bind ?_
        rintro _ _ (@⟨value, c, c', h⟩)
        refine (expect_breaks (Brackets.closed_of_nested _) h .rightParen .closeParen).bind ?_
        rintro _ _ ⟨h⟩
        exact readSuffixes_breaks depth _ _ hclosed h.loosen
      case leftBracket =>
        refine (readItems_breaks depth .rightBracket .commaOrBracket hnext.loosen).bind ?_
        rintro _ _ ⟨h⟩
        exact readSuffixes_breaks depth _ _ hclosed h.loosen
      all_goals exact .error
    case some.lineBreak => exact .error

theorem readSuffixes_breaks : (depth : Nat) → {o : Brackets} → {nested : Bool} →
    {c c' : Cursor} → (start : Nat) → (value : Expr) → (nested = false → ¬ o.IsOpen) →
    Alike o nested c c' →
    Agree (Same o nested) (readSuffixes depth nested start value c)
      (readSuffixes depth nested start value c')
  | 0, _, _, _, _, _, _, _, _ => by
    rw [readSuffixes, readSuffixes]
    exact .error
  | depth + 1, o, nested, c, c', start, value, hclosed, h => by
    rw [readSuffixes, readSuffixes]
    dsimp only
    have hlevel := h.settle_level hclosed
    replace h := h.settle
    rw [hlevel.token?_eq]
    generalize c.settle nested = c at hlevel h ⊢
    generalize c'.settle nested = c' at hlevel h ⊢
    rcases ht : c.token? with _ | (_ | _ | _ | _ | _ | sign | _)
    case some.symbol =>
      have hnext := hlevel.next ht
      cases sign
      case dot =>
        refine (expectName_breaks hclosed hnext).bind ?_
        rintro _ _ ⟨field, span, c, c', rfl, rfl, h⟩
        exact readSuffixes_breaks depth _ _ hclosed h.loosen
      case leftBracket =>
        refine (readExpr_breaks depth 0 (Brackets.closed_of_nested _) hnext.loosen).bind ?_
        rintro _ _ (@⟨place, c, c', h⟩)
        refine (expect_breaks (Brackets.closed_of_nested _) h .rightBracket .closeBracket).bind ?_
        rintro _ _ ⟨h⟩
        exact readSuffixes_breaks depth _ _ hclosed h.loosen
      case leftParen =>
        refine (readItems_breaks depth .rightParen .commaOrParen hnext.loosen).bind ?_
        rintro _ _ (@⟨args, c, c', h⟩)
        -- The span of the call ends where the closing parenthesis does.
        dsimp only
        rw [h.last rfl]
        exact readSuffixes_breaks depth _ _ hclosed h.loosen
      all_goals exact .ok ⟨h⟩
    all_goals exact .ok ⟨h⟩

theorem readItems_breaks : (depth : Nat) → {o : Brackets} → {c c' : Cursor} → (close : Symbol) →
    (what : Expected) → Alike o true c c' →
    Agree (Same (o.after (.symbol close)) false) (readItems depth close what c)
      (readItems depth close what c')
  | 0, _, _, _, _, _, _ => by
    rw [readItems, readItems]
    exact .error
  | depth + 1, o, c, c', close, what, h => by
    rw [readItems, readItems]
    dsimp only
    have hlevel := h.settle_level (Brackets.closed_of_nested o)
    rw [hlevel.stands_eq]
    split
    · next hend => exact .ok ⟨hlevel.next (Cursor.token?_of_stands hend)⟩
    · refine (readExpr_breaks depth 0 (Brackets.closed_of_nested _) hlevel.alike).bind ?_
      rintro _ _ (@⟨item, c, c', h⟩)
      have hlevel := h.settle_level (Brackets.closed_of_nested o)
      dsimp only
      rw [hlevel.stands_eq, hlevel.stands_eq]
      split
      · next hcomma =>
        have hnext := hlevel.next (Cursor.token?_of_stands hcomma)
        refine (readItems_breaks depth close what hnext.loosen).bind ?_
        rintro _ _ ⟨h⟩
        exact .ok ⟨h⟩
      · split
        · next hclose => exact .ok ⟨hlevel.next (Cursor.token?_of_stands hclose)⟩
        · exact .error

end

/-! ## Statements -/

section Statements

variable {o : Brackets} {c c' : Cursor}

/-- No keyword opens a bracket, and no name does: what stands behind it is the same. -/
theorem Level.atAssignment_eq (h : Level o c c') (hclosed : ¬ o.IsOpen) :
    c'.atAssignment = c.atAssignment := by
  unfold Cursor.atAssignment
  rw [h.token?_eq]
  rcases ht : c.token? with _ | (_ | _ | _ | name | _ | _ | _)
  case some.name => exact ((h.next ht).level_of_closed hclosed).stands_eq .assign
  all_goals rfl

theorem Level.next_keyword {word : Keyword} (h : Level o c c') (hword : c.atKeyword word = true) :
    Alike o false c.next c'.next :=
  h.next (Cursor.token?_of_atKeyword hword)

end Statements

mutual

theorem readBody_breaks : (depth : Nat) → {o : Brackets} → {c c' : Cursor} → (braced : Bool) →
    ¬ o.IsOpen → Alike o false c c' →
    Agree (Same o false) (readBody depth braced c) (readBody depth braced c')
  | 0, _, _, _, _, _, _ => by
    rw [readBody, readBody]
    exact .error
  | depth + 1, o, c, c', braced, hclosed, h => by
    rw [readBody, readBody]
    dsimp only
    replace h := h.skipWhile hclosed fun _ ht => ht
    have hlevel := h.level_of_closed hclosed
    rw [hlevel.token?_eq]
    generalize c.skipWhile Token.isSeparator = c at hlevel h ⊢
    generalize c'.skipWhile Token.isSeparator = c' at hlevel h ⊢
    cases ht : c.token? with
    | none =>
      dsimp only
      split
      · exact .error
      · exact .ok ⟨h⟩
    | some token =>
      dsimp only
      split
      · next hbrace =>
        split
        · refine .ok ⟨?_⟩
          cases token with
          | symbol sign =>
            obtain rfl : sign = .rightBrace := of_decide_eq_true hbrace
            exact hlevel.next ht
          | _ => cases hbrace
        · exact .ok ⟨h⟩
      · refine (readStatement_breaks depth hclosed h).bind ?_
        rintro _ _ (@⟨statement, c, c', h⟩)
        dsimp only
        rw [(h.level_of_closed hclosed).atStatementEnd_eq]
        split
        · refine (readBody_breaks depth braced hclosed h).bind ?_
          rintro _ _ ⟨h⟩
          exact .ok ⟨h⟩
        · exact .error

theorem readStatement_breaks : (depth : Nat) → {o : Brackets} → {c c' : Cursor} → ¬ o.IsOpen →
    Alike o false c c' → Agree (Same o false) (readStatement depth c) (readStatement depth c')
  | 0, _, _, _, _, _ => by
    rw [readStatement, readStatement]
    exact .error
  | depth + 1, o, c, c', hclosed, h => by
    have hlevel := h.level_of_closed hclosed
    have houtside (_ : false = false) : ¬ o.IsOpen := hclosed
    rw [readStatement, readStatement]
    dsimp only
    rw [hlevel.atKeyword_eq, hlevel.atKeyword_eq, hlevel.atAssignment_eq hclosed, hlevel.here_eq]
    split
    · next hdeclare =>
      refine (expectName_breaks houtside (hlevel.next_keyword hdeclare)).bind ?_
      rintro _ _ ⟨name, span, c, c', rfl, rfl, h⟩
      refine (expect_breaks houtside h .assign .assignAfterName).bind ?_
      rintro _ _ (@⟨_, c, c', h⟩)
      refine (readExpr_breaks depth 0 houtside h).bind ?_
      rintro _ _ (@⟨value, c, c', h⟩)
      dsimp only
      rw [h.last rfl]
      exact .ok ⟨h⟩
    · split
      · next hbranch => exact readBranch_breaks depth _ hclosed hlevel hbranch
      · split
        · refine (expectName_breaks houtside h).bind ?_
          rintro _ _ ⟨name, span, c, c', rfl, rfl, h⟩
          refine (expect_breaks houtside h .assign .assign).bind ?_
          rintro _ _ (@⟨_, c, c', h⟩)
          refine (readExpr_breaks depth 0 houtside h).bind ?_
          rintro _ _ (@⟨value, c, c', h⟩)
          dsimp only
          rw [h.last rfl]
          exact .ok ⟨h⟩
        · refine (readExpr_breaks depth 0 houtside h).bind ?_
          rintro _ _ (@⟨value, c, c', h⟩)
          dsimp only
          rw [h.last rfl]
          exact .ok ⟨h⟩

theorem readBranch_breaks : (depth : Nat) → {o : Brackets} → {c c' : Cursor} → (start : Nat) →
    ¬ o.IsOpen → Level o c c' → c.atKeyword .branch = true →
    Agree (Same o false) (readBranch depth start c) (readBranch depth start c')
  | 0, _, _, _, _, _, _, _ => by
    rw [readBranch, readBranch]
    exact .error
  | depth + 1, o, c, c', start, hclosed, hlevel, hbranch => by
    have houtside (_ : false = false) : ¬ o.IsOpen := hclosed
    rw [readBranch, readBranch]
    refine (readExpr_breaks depth 0 houtside (hlevel.next_keyword hbranch)).bind ?_
    rintro _ _ (@⟨condition, c, c', h⟩)
    refine (expect_breaks houtside h .leftBrace .bodyAfterCondition).bind ?_
    rintro _ _ (@⟨_, c, c', h⟩)
    refine (readBody_breaks depth true hclosed h).bind ?_
    rintro _ _ (@⟨yes, c, c', h⟩)
    dsimp only
    have hafter := h.skipBreaks
    rw [hafter.atKeyword_eq]
    split
    · next hotherwise =>
      have hnext := hafter.next_keyword hotherwise
      have hlevel := hnext.level_of_closed hclosed
      rw [hlevel.atKeyword_eq, hlevel.here_eq]
      split
      · next hnested =>
        refine (readBranch_breaks depth _ hclosed hlevel hnested).bind ?_
        rintro _ _ (@⟨nested, c, c', h⟩)
        dsimp only
        rw [h.last rfl]
        exact .ok ⟨h⟩
      · refine (expect_breaks houtside hnext .leftBrace .bodyAfterElse).bind ?_
        rintro _ _ (@⟨_, c, c', h⟩)
        refine (readBody_breaks depth true hclosed h).bind ?_
        rintro _ _ (@⟨no, c, c', h⟩)
        dsimp only
        rw [h.last rfl]
        exact .ok ⟨h⟩
    · rw [h.last rfl]
      exact .ok ⟨h⟩

end

/-! ## Scripts as lists of lexemes -/

/-- Reads the lexemes of a script that ends at byte `stop` as one expression. -/
def Expr.ofLexemes (depth stop : Nat) (lexemes : List Lexeme) : Except Fault Expr := do
  let (value, c) ← readExpr depth false 0 ((Cursor.start lexemes stop).skipWhile Token.isSeparator)
  let c := c.skipWhile Token.isSeparator
  if c.rest.isEmpty then .ok value else c.fail .trailingTokens

/-- Reads the lexemes of a script that ends at byte `stop` as statements. -/
def Statement.ofLexemes (depth stop : Nat) (lexemes : List Lexeme) :
    Except Fault (List Statement) := do
  let (statements, c) ← readBody depth false (Cursor.start lexemes stop)
  if c.rest.isEmpty then .ok statements else c.fail .unexpectedBrace

/-- A script is parsed by its lexemes. -/
theorem Expr.ofScript_eq (offset : Nat) (body : List Char) : Expr.ofScript offset body =
    Lexeme.ofScript offset body >>=
      Expr.ofLexemes (8 * body.length + 7) (offset + byteLength body) := by
  rw [Expr.ofScript, depthFor, readWhole]
  rfl

theorem Statement.ofScript_eq (offset : Nat) (body : List Char) : Statement.ofScript offset body =
    Lexeme.ofScript offset body >>=
      Statement.ofLexemes (depthFor body) (offset + byteLength body) := rfl

section Lists

variable {lexemes lexemes' : List Lexeme} (h : DropsBreaks .none lexemes lexemes')
include h

theorem alike_start (stop : Nat) :
    Alike .none false (Cursor.start lexemes stop) (Cursor.start lexemes' stop) :=
  ⟨h, rfl, fun _ => rfl⟩

theorem Expr.ofLexemes_breaks (depth stop : Nat) :
    Agree Eq (Expr.ofLexemes depth stop lexemes) (Expr.ofLexemes depth stop lexemes') := by
  have hclosed := Brackets.not_isOpen_none
  have hstart := (alike_start h stop).skipWhile hclosed fun _ ht => ht
  refine (readExpr_breaks depth 0 (fun _ => hclosed) hstart).bind ?_
  rintro _ _ (@⟨value, c, c', h⟩)
  replace h := h.skipWhile hclosed fun _ ht => ht
  dsimp only
  rw [(h.level_of_closed hclosed).isEmpty_eq]
  split
  · exact .ok rfl
  · exact .error

theorem Statement.ofLexemes_breaks (depth stop : Nat) :
    Agree Eq (Statement.ofLexemes depth stop lexemes)
      (Statement.ofLexemes depth stop lexemes') := by
  have hclosed := Brackets.not_isOpen_none
  refine (readBody_breaks depth false hclosed (alike_start h stop)).bind ?_
  rintro _ _ (@⟨statements, c, c', h⟩)
  dsimp only
  rw [(h.level_of_closed hclosed).isEmpty_eq]
  split
  · exact .ok rfl
  · exact .error

/-- **Line breaks between brackets do not matter.** Without any of the line breaks that stand where
a parenthesis or a square bracket is open, a list of lexemes is still the same expression, or none,
and the same statements with the same spans, or none. -/
theorem parse_dropsBreaks (depth stop : Nat) :
    (∀ value, Expr.ofLexemes depth stop lexemes = .ok value ↔
        Expr.ofLexemes depth stop lexemes' = .ok value) ∧
      ∀ statements, Statement.ofLexemes depth stop lexemes = .ok statements ↔
        Statement.ofLexemes depth stop lexemes' = .ok statements :=
  ⟨(Expr.ofLexemes_breaks h depth stop).eq_ok_iff,
    (Statement.ofLexemes_breaks h depth stop).eq_ok_iff⟩

/-- Two scripts of one length with such lexemes, as where the line feeds between brackets are
blanks in the other one, are parsed alike. -/
theorem ofScript_dropsBreaks {offset : Nat} {body body' : List Char}
    (hlexemes : Lexeme.ofScript offset body = .ok lexemes)
    (hlexemes' : Lexeme.ofScript offset body' = .ok lexemes')
    (hlength : body.length = body'.length) (hbytes : byteLength body = byteLength body') :
    (∀ value, Expr.ofScript offset body = .ok value ↔ Expr.ofScript offset body' = .ok value) ∧
      ∀ statements, Statement.ofScript offset body = .ok statements ↔
        Statement.ofScript offset body' = .ok statements := by
  simp only [Expr.ofScript_eq, Statement.ofScript_eq, hlexemes, hlexemes', depthFor, hlength,
    hbytes]
  exact ⟨(Expr.ofLexemes_breaks h _ _).eq_ok_iff, (Statement.ofLexemes_breaks h _ _).eq_ok_iff⟩

end Lists

/-- A call over four lines. -/
def brokenCall : List Lexeme :=
  [⟨.name "f", ⟨0, 1⟩⟩, ⟨.symbol .leftParen, ⟨1, 2⟩⟩, ⟨.lineBreak, ⟨2, 3⟩⟩,
    ⟨.symbol .leftBracket, ⟨3, 4⟩⟩, ⟨.name "a", ⟨4, 5⟩⟩, ⟨.symbol .comma, ⟨5, 6⟩⟩,
    ⟨.lineBreak, ⟨6, 7⟩⟩, ⟨.name "b", ⟨7, 8⟩⟩, ⟨.lineBreak, ⟨8, 9⟩⟩,
    ⟨.symbol .rightBracket, ⟨9, 10⟩⟩, ⟨.symbol .rightParen, ⟨10, 11⟩⟩]

/-- The call without its line breaks is the same call. -/
theorem parse_dropsBreaks_call : ∃ joined value,
    Lexeme.ofScript 0 "f(\n[a,\nb\n])".toList = .ok brokenCall ∧
    DropsBreaks .none brokenCall joined ∧ joined.length = 8 ∧
    Expr.ofLexemes 50 11 brokenCall = .ok value ∧ Expr.ofLexemes 50 11 joined = .ok value := by
  have hopen (squares : Nat) : (⟨1, squares⟩ : Brackets).IsOpen := .inl Nat.one_pos
  have hdrops : DropsBreaks .none brokenCall _ :=
    .keep <| .keep <| .drop (hopen 0) rfl <| .keep <| .keep <| .keep <|
      .drop (hopen 1) rfl <| .keep <| .drop (hopen 1) rfl <| .keep <| .keep .nil
  have hvalue : Expr.ofLexemes 50 11 brokenCall = .ok (.call (.identifier "f" ⟨0, 1⟩)
      [.list [.identifier "a" ⟨4, 5⟩, .identifier "b" ⟨7, 8⟩]] ⟨0, 11⟩) := by cbv
  exact ⟨_, _, by cbv, hdrops, rfl, hvalue, ((parse_dropsBreaks hdrops 50 11).1 _).mp hvalue⟩

end Stencil.Script
