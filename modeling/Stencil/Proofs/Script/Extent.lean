import Stencil.Proofs.Result
import Stencil.Proofs.Script.Cursor

/-!
# The tokens of an expression

The parser reads an expression token by token, and no expression has an equals sign, a brace, a
semicolon or a word of a statement in it. So whatever an expression is read from, it ends before the
first of these, and it does not start with one.

* `Cursor.ReadsTo` and `Cursor.ReadsPast`: the way from one position to another leads over tokens of
  expressions only; the latter not only over line breaks.
* `readExpr_reads`: the parser comes to the end of an expression in this way.
* `readWhole_tokens`: so a script that is one expression has no other tokens and separators.
-/

namespace Stencil

namespace Script

/-- Whether a token may be part of an expression outside of template literals. -/
def Token.inExpr : Token → Bool
  | .keyword .declare | .keyword .branch | .keyword .otherwise => false
  | .symbol .assign | .symbol .semicolon | .symbol .leftBrace | .symbol .rightBrace => false
  | _ => true

theorem inExpr_of_infixPowers? {sign : Symbol} {powers : Nat × Nat}
    (h : infixPowers? sign = some powers) : (Token.symbol sign).inExpr = true := by
  cases sign <;> first | rfl | exact nomatch h

namespace Cursor

/-- Only tokens of expressions stand between two positions. -/
def ReadsTo (c c' : Cursor) : Prop :=
  ∃ read, c.tokens = read ++ c'.tokens ∧ ∀ t ∈ read, t.inExpr = true

/-- Only tokens of expressions stand between two positions, and one of them is no line break. -/
def ReadsPast (c c' : Cursor) : Prop :=
  ∃ read, c.tokens = read ++ c'.tokens ∧ (∀ t ∈ read, t.inExpr = true) ∧
    ∃ t ∈ read, t.isLineBreak = false

variable {c c' c'' : Cursor} {t : Token} {ts : List Token}

theorem tokens_skipWhile_eq (p : Token → Bool) (c : Cursor) :
    (c.skipWhile p).tokens = c.tokens.dropWhile p := by
  unfold tokens skipWhile
  rw [List.dropWhile_map]
  rfl

theorem ReadsTo.refl (c : Cursor) : c.ReadsTo c := ⟨[], rfl, nofun⟩

theorem ReadsTo.trans (h : c.ReadsTo c') (h' : c'.ReadsTo c'') : c.ReadsTo c'' := by
  obtain ⟨read, hread, hall⟩ := h
  obtain ⟨read', hread', hall'⟩ := h'
  exact ⟨read ++ read', by rw [hread, hread', List.append_assoc],
    List.forall_mem_append.mpr ⟨hall, hall'⟩⟩

theorem ReadsPast.to (h : c.ReadsPast c') : c.ReadsTo c' := by
  obtain ⟨read, hread, hall, -⟩ := h
  exact ⟨read, hread, hall⟩

theorem ReadsPast.trans (h : c.ReadsPast c') (h' : c'.ReadsTo c'') : c.ReadsPast c'' := by
  obtain ⟨read, hread, hall, t, ht, hbreak⟩ := h
  obtain ⟨read', hread', hall'⟩ := h'
  exact ⟨read ++ read', by rw [hread, hread', List.append_assoc],
    List.forall_mem_append.mpr ⟨hall, hall'⟩, t, List.mem_append_left _ ht, hbreak⟩

theorem ReadsTo.past (h : c.ReadsTo c') (h' : c'.ReadsPast c'') : c.ReadsPast c'' := by
  obtain ⟨read, hread, hall⟩ := h
  obtain ⟨read', hread', hall', t, ht, hbreak⟩ := h'
  exact ⟨read ++ read', by rw [hread, hread', List.append_assoc],
    List.forall_mem_append.mpr ⟨hall, hall'⟩, t, List.mem_append_right _ ht, hbreak⟩

/-- What is read past starts with a token of an expression. -/
theorem ReadsPast.head (h : c.ReadsPast c') (htokens : c.tokens = t :: ts) : t.inExpr = true := by
  obtain ⟨read, hread, hall, u, hu, -⟩ := h
  obtain ⟨r, read, rfl⟩ := List.exists_cons_of_ne_nil (List.ne_nil_of_mem hu)
  rw [(List.cons.inj (htokens.symm.trans hread)).1]
  exact hall r List.mem_cons_self

theorem readsPast_next (h : c.token? = some t) (ht : t.inExpr = true)
    (hbreak : t.isLineBreak = false) : c.ReadsPast c.next :=
  ⟨[t], tokens_of_token? h, fun _ hu => List.mem_singleton.mp hu ▸ ht, t,
    List.mem_singleton_self t, hbreak⟩

theorem readsTo_skipWhile (c : Cursor) : c.ReadsTo (c.skipWhile Token.isLineBreak) := by
  refine ⟨c.tokens.takeWhile Token.isLineBreak, ?_, fun t ht => ?_⟩
  · rw [tokens_skipWhile_eq, List.takeWhile_append_dropWhile]
  · have hbreak := List.all_eq_true.mp List.all_takeWhile t ht
    cases t <;> first | rfl | exact nomatch hbreak

theorem readsTo_settle (nested : Bool) (c : Cursor) : c.ReadsTo (c.settle nested) := by
  unfold settle
  split
  · exact c.readsTo_skipWhile
  · exact .refl c

theorem readsTo_of_stands {sign : Symbol} (h : c.stands sign = true)
    (hsign : (Token.symbol sign).inExpr = true) : c.ReadsTo c.next :=
  (readsPast_next (token?_of_stands h) hsign rfl).to

theorem readsTo_expect (nested : Bool) {sign : Symbol} (what : Expected)
    (hsign : (Token.symbol sign).inExpr = true) :
    Yields (fun r => c.ReadsTo r.2) (c.expect nested sign what) := by
  have hsettle := c.readsTo_settle nested
  unfold expect
  dsimp only
  split
  · next hstands =>
    exact yields_ok (hsettle.trans (readsTo_of_stands hstands hsign))
  · exact yields_error _

theorem readsTo_expectName (nested : Bool) :
    Yields (fun r => c.ReadsTo r.2.2) (c.expectName nested) := by
  have hsettle := c.readsTo_settle nested
  unfold expectName
  dsimp only
  split
  · next hname => exact yields_ok (hsettle.trans (readsPast_next hname rfl rfl).to)
  · exact yields_error _

end Cursor

open Cursor

mutual

/-- **An expression is read over tokens of expressions only**, and over more than line breaks. -/
theorem readExpr_reads : (depth : Nat) → (nested : Bool) → (power : Nat) → (c : Cursor) →
    Yields (fun r => c.ReadsPast r.2) (readExpr depth nested power c)
  | 0, nested, power, c => by
    rw [readExpr]
    exact yields_error _
  | depth + 1, nested, power, c => by
    rw [readExpr]
    exact (readOperand_reads depth nested c).bind fun (left, c') hleft =>
      (readInfix_reads depth nested power left c').imp fun _ h => hleft.trans h

theorem readInfix_reads : (depth : Nat) → (nested : Bool) → (power : Nat) → (left : Expr) →
    (c : Cursor) → Yields (fun r => c.ReadsTo r.2) (readInfix depth nested power left c)
  | 0, nested, power, left, c => by
    rw [readInfix]
    exact yields_error _
  | depth + 1, nested, power, left, c => by
    have hc := c.readsTo_settle nested
    rw [readInfix]
    dsimp only
    generalize c.settle nested = c₁ at hc
    split
    · next sign htoken =>
      split
      · exact yields_ok hc
      · next leftPower rightPower hpowers =>
        have hnext := hc.past (readsPast_next htoken (inExpr_of_infixPowers? hpowers) rfl)
        split
        · exact yields_ok hc
        · split
          · exact (readExpr_reads depth nested rightPower c₁.next).bind fun (right, c₂) hright =>
              (readInfix_reads depth nested power _ c₂).imp fun _ h =>
                hnext.to.trans (hright.to.trans h)
          · refine (readExpr_reads depth true 0 c₁.next).bind fun (yes, c₂) hyes => ?_
            refine (readsTo_expect nested .colon rfl).bind fun (_, c₃) hcolon => ?_
            refine (readExpr_reads depth nested rightPower c₃).bind fun (no, c₄) hno => ?_
            exact (readInfix_reads depth nested power _ c₄).imp fun _ h =>
              hnext.to.trans (hyes.to.trans (hcolon.trans (hno.to.trans h)))
    · exact yields_ok hc

theorem readOperand_reads : (depth : Nat) → (nested : Bool) → (c : Cursor) →
    Yields (fun r => c.ReadsPast r.2) (readOperand depth nested c)
  | 0, nested, c => by
    rw [readOperand]
    exact yields_error _
  | depth + 1, nested, c => by
    have hc := c.readsTo_skipWhile
    rw [readOperand]
    dsimp only
    generalize c.skipWhile Token.isLineBreak = c₁ at hc
    have hnext {t : Token} (htoken : c₁.token? = some t) (ht : t.inExpr = true)
        (hbreak : t.isLineBreak = false) : c.ReadsPast c₁.next :=
      hc.past (readsPast_next htoken ht hbreak)
    have hsuffixes {value : Expr} {c₂ : Cursor} (hpast : c.ReadsPast c₂) :
        Yields (fun r => c.ReadsPast r.2) (readSuffixes depth nested c₁.here.start value c₂) :=
      (readSuffixes_reads depth nested _ value c₂).imp fun _ h => hpast.trans h
    rcases htoken : c₁.token? with _ | (value | value | ⟨body, offset⟩ | name | word | sign | _)
    case none => exact yields_error _
    case some.number => exact hsuffixes (hnext htoken rfl rfl)
    case some.text => exact hsuffixes (hnext htoken rfl rfl)
    case some.name => exact hsuffixes (hnext htoken rfl rfl)
    case some.template =>
      exact Yields.bind_any fun parts => hsuffixes (hnext htoken rfl rfl)
    case some.keyword =>
      cases word
      case yes | no | null => exact hsuffixes (hnext htoken rfl rfl)
      all_goals exact yields_error _
    case some.symbol =>
      cases sign
      case not | minus =>
        exact (readExpr_reads depth nested unaryPower c₁.next).bind fun _ h =>
          yields_ok ((hnext htoken rfl rfl).trans h.to)
      case leftParen =>
        refine (readExpr_reads depth true 0 c₁.next).bind fun (value, c₂) hvalue => ?_
        exact (readsTo_expect true .closeParen rfl).bind fun (_, c₃) hclose =>
          hsuffixes ((hnext htoken rfl rfl).trans (hvalue.to.trans hclose))
      case leftBracket =>
        exact (readItems_reads depth .rightBracket _ c₁.next rfl).bind
          fun (items, c₂) hitems => hsuffixes ((hnext htoken rfl rfl).trans hitems)
      all_goals exact yields_error _
    case some.lineBreak => exact yields_error _

theorem readSuffixes_reads : (depth : Nat) → (nested : Bool) → (start : Nat) → (value : Expr) →
    (c : Cursor) → Yields (fun r => c.ReadsTo r.2) (readSuffixes depth nested start value c)
  | 0, nested, start, value, c => by
    rw [readSuffixes]
    exact yields_error _
  | depth + 1, nested, start, value, c => by
    have hc := c.readsTo_settle nested
    rw [readSuffixes]
    dsimp only
    generalize c.settle nested = c₁ at hc
    split
    · next htoken =>
      have hnext := hc.trans (readsPast_next htoken rfl rfl).to
      exact (readsTo_expectName nested).bind fun (field, span, c₂) hname =>
        (readSuffixes_reads depth nested start _ c₂).imp fun _ h => hnext.trans (hname.trans h)
    · next htoken =>
      have hnext := hc.trans (readsPast_next htoken rfl rfl).to
      refine (readExpr_reads depth true 0 c₁.next).bind fun (index, c₂) hindex => ?_
      exact (readsTo_expect true .closeBracket rfl).bind fun (span, c₃) hclose =>
        (readSuffixes_reads depth nested start _ c₃).imp fun _ h =>
          hnext.trans (hindex.to.trans (hclose.trans h))
    · next htoken =>
      have hnext := hc.trans (readsPast_next htoken rfl rfl).to
      exact (readItems_reads depth .rightParen _ c₁.next rfl).bind fun (args, c₂) hargs =>
        (readSuffixes_reads depth nested start _ c₂).imp fun _ h => hnext.trans (hargs.trans h)
    · exact yields_ok hc

theorem readItems_reads : (depth : Nat) → (close : Symbol) → (what : Expected) →
    (c : Cursor) → (Token.symbol close).inExpr = true →
    Yields (fun r => c.ReadsTo r.2) (readItems depth close what c)
  | 0, close, what, c, hclose => by
    rw [readItems]
    exact yields_error _
  | depth + 1, close, what, c, hclose => by
    have hc := c.readsTo_settle true
    rw [readItems]
    dsimp only
    generalize c.settle true = c₁ at hc
    split
    · next hend => exact yields_ok (hc.trans (readsTo_of_stands hend hclose))
    · refine (readExpr_reads depth true 0 c₁).bind fun (item, c₂) hitem => ?_
      have hitem := hc.trans (hitem.to.trans (c₂.readsTo_settle true))
      dsimp only
      generalize c₂.settle true = c₃ at hitem
      split
      · next hcomma =>
        exact (readItems_reads depth close what c₃.next hclose).bind fun (items, c₄) hitems =>
          yields_ok (hitem.trans ((readsTo_of_stands hcomma rfl).trans hitems))
      · split
        · next hend => exact yields_ok (hitem.trans (readsTo_of_stands hend hclose))
        · exact yields_error _

end

/-- A script that is one expression has tokens of expressions and separators only. -/
theorem readWhole_tokens {depth offset : Nat} {body : List Char} {value : Expr}
    (h : readWhole depth offset body = .ok value) :
    ∃ lexemes, Lexeme.ofScript offset body = .ok lexemes ∧
      ∀ t ∈ lexemes.map Lexeme.token, (t.inExpr || t.isSeparator) = true := by
  cases depth with
  | zero =>
    rw [readWhole] at h
    cases h
  | succ depth =>
    rw [readWhole] at h
    obtain ⟨lexemes, hlexemes, h⟩ := bind_eq_ok_iff.mp h
    obtain ⟨⟨value, c⟩, hvalue, h⟩ := bind_eq_ok_iff.mp h
    obtain ⟨read, hread, hall, -⟩ := readExpr_reads depth false 0 _ _ hvalue
    dsimp only at h hread
    split at h
    · next hend =>
      have hdrop : c.tokens.dropWhile Token.isSeparator = [] := by
        rw [← tokens_skipWhile_eq, tokens, List.isEmpty_iff.mp hend]
        rfl
      have hlast : c.tokens.takeWhile Token.isSeparator = c.tokens := by
        rw [← List.append_nil (c.tokens.takeWhile _), ← hdrop, List.takeWhile_append_dropWhile]
      have hsplit : lexemes.map Lexeme.token =
          (lexemes.map Lexeme.token).takeWhile Token.isSeparator ++ (read ++ c.tokens) := by
        rw [← hread, tokens_skipWhile_eq]
        exact (List.takeWhile_append_dropWhile ..).symm
      refine ⟨lexemes, hlexemes, fun t ht => ?_⟩
      rw [hsplit] at ht
      obtain ht | ht := List.mem_append.mp ht
      · rw [List.all_eq_true.mp List.all_takeWhile t ht, Bool.or_true]
      · obtain ht | ht := List.mem_append.mp ht
        · rw [hall t ht, Bool.true_or]
        · rw [← hlast] at ht
          rw [List.all_eq_true.mp List.all_takeWhile t ht, Bool.or_true]
    · cases h

end Script

end Stencil
