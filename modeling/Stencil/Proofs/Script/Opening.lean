import Stencil.Proofs.Script.Extent
import Stencil.Proofs.Script.Scan

/-!
# How scripts of statements open

The first tokens of a statement decide what it is, and no expression goes on past a token that is
none of an expression.

* `StartsAs` lists the tokens that each kind of statement starts with; `readStatement_startsAs`.
* `exists_first_statement`: what has been read when a script has a first statement.
* `ReadsPast.before`: an expression ends before the first token that is none of an expression.
* `exists_assign_of_run`: a script that opens with words, line breaks and an equals sign starts with
  an assignment: one name stands before the sign, and nothing between them.
* `not_expr_of_isForm`: a script with an assignment or a branch at its start is no expression.
-/

namespace Stencil.Script

open Cursor

/-- Whether a statement is an assignment or a branch. -/
def Statement.isForm : Statement → Bool
  | .assign .. | .branch .. => true
  | .expr .. => false

/-- How a statement that is read up to the position `c'` opens at the position `c`. -/
inductive StartsAs (c c' : Cursor) : Statement → Prop where
  | declare {name : String} {value : Expr} {span : Span} {ts : List Token} :
    c.tokens = .keyword .declare :: .name name :: .symbol .assign :: ts →
    StartsAs c c' (.assign name value true span)
  | branch {condition : Expr} {yes no : List Statement} {span : Span} {ts : List Token}
      {c₁ : Cursor} :
    c.tokens = .keyword .branch :: ts → c.next.ReadsPast c₁ →
    StartsAs c c' (.branch condition yes no span)
  | assign {name : String} {value : Expr} {span : Span} {ts : List Token} :
    c.tokens = .name name :: .symbol .assign :: ts → StartsAs c c' (.assign name value false span)
  | expr {value : Expr} {span : Span} : c.ReadsPast c' → StartsAs c c' (.expr value span)

variable {depth : Nat} {c c' : Cursor} {s : Statement} {ss : List Statement} {t : Token}
  {ts : List Token}

/-! ## One statement -/

theorem expectName_tokens (c : Cursor) :
    Yields (fun r => c.tokens = .name r.1 :: r.2.2.tokens) (c.expectName false) := by
  unfold expectName Cursor.settle
  dsimp only
  rw [if_neg Bool.false_ne_true]
  split
  · next htoken => exact yields_ok (tokens_of_token? htoken)
  · exact yields_error _

theorem expect_tokens (c : Cursor) (sign : Symbol) (what : Expected) :
    Yields (fun r => c.tokens = .symbol sign :: r.2.tokens) (c.expect false sign what) := by
  unfold expect Cursor.settle
  dsimp only
  rw [if_neg Bool.false_ne_true]
  split
  · next hstands => exact yields_ok (tokens_of_token? (token?_of_stands hstands))
  · exact yields_error _

theorem tokens_of_atKeyword {word : Keyword} (h : c.atKeyword word = true) :
    c.tokens = .keyword word :: c.next.tokens :=
  tokens_of_token? (token?_of_atKeyword h)

/-- A branch is read from its condition on. -/
theorem readBranch_startsAs (start : Nat) (h : c.tokens = .keyword .branch :: ts) :
    Yields (fun r => StartsAs c r.2 r.1) (readBranch depth start c) := by
  cases depth with
  | zero =>
    rw [readBranch]
    exact yields_error _
  | succ depth =>
    rw [readBranch]
    refine (readExpr_reads depth false 0 c.next).bind ?_
    rintro ⟨condition, c₁⟩ hcondition
    have hany {yes no : List Statement} {span : Span} {c' : Cursor} :
        Yields (ε := Fault) (fun r => StartsAs c r.2 r.1)
          (.ok (Statement.branch condition yes no span, c')) :=
      yields_ok (.branch h hcondition)
    refine .bind_any fun _ => .bind_any ?_
    rintro ⟨yes, c₂⟩
    dsimp only
    split
    · split
      · exact .bind_any fun _ => hany
      · exact .bind_any fun _ => .bind_any fun _ => hany
    · exact hany

/-- **What a statement starts with decides what it is.** -/
theorem readStatement_startsAs (depth : Nat) (c : Cursor) :
    Yields (fun r => StartsAs c r.2 r.1) (readStatement depth c) := by
  cases depth with
  | zero =>
    rw [readStatement]
    exact yields_error _
  | succ depth =>
    rw [readStatement]
    dsimp only
    split
    · next hdeclare =>
      refine (expectName_tokens c.next).bind ?_
      rintro ⟨name, _, c₁⟩ hname
      refine (expect_tokens c₁ .assign _).bind ?_
      rintro ⟨_, c₂⟩ hassign
      have hstart : c.tokens = .keyword .declare :: .name name :: .symbol .assign :: c₂.tokens := by
        rw [tokens_of_atKeyword hdeclare, hname, hassign]
      exact .bind_any fun _ => yields_ok (.declare hstart)
    · split
      · next hbranch => exact readBranch_startsAs _ (tokens_of_atKeyword hbranch)
      · split
        · refine (expectName_tokens c).bind ?_
          rintro ⟨name, _, c₁⟩ hname
          refine (expect_tokens c₁ .assign _).bind ?_
          rintro ⟨_, c₂⟩ hassign
          have hstart : c.tokens = .name name :: .symbol .assign :: c₂.tokens := by
            rw [hname, hassign]
          exact .bind_any fun _ => yields_ok (.assign hstart)
        · exact (readExpr_reads depth false 0 c).bind fun _ hvalue => yields_ok (.expr hvalue)

/-! ## The first statement -/

/-- A statement does not start with a symbol that is none of an expression. -/
theorem not_startsAs_of_symbol {sign : Symbol} (h : c.tokens = .symbol sign :: ts)
    (hsign : (Token.symbol sign).inExpr = false) : ¬ StartsAs c c' s := by
  rintro (htokens | ⟨htokens, -⟩ | htokens | hvalue)
  · exact nomatch htokens.symm.trans h
  · exact nomatch htokens.symm.trans h
  · exact nomatch htokens.symm.trans h
  · exact absurd (hvalue.head h) (ne_true_of_eq_false hsign)

/-- **What has been read when a script has a first statement**: separators, the statement, and
something that can be read behind it. -/
theorem exists_first_statement {offset : Nat} {body : List Char}
    (h : Statement.ofScript offset body = .ok (s :: ss)) :
    ∃ lexemes depth c c' r, Lexeme.ofScript offset body = .ok lexemes ∧
      c.tokens = (lexemes.map Lexeme.token).dropWhile Token.isSeparator ∧ StartsAs c c' s ∧
      c'.atStatementEnd = true ∧ readBody depth false c' = .ok r := by
  obtain ⟨lexemes, hlexemes, h⟩ := bind_eq_ok_iff.mp h
  obtain ⟨⟨statements, c₁⟩, hbody, h⟩ := bind_eq_ok_iff.mp h
  dsimp only at h
  split at h
  · obtain rfl := Except.ok.inj h
    generalize depthFor body = depth at hbody
    cases depth with
    | zero =>
      rw [readBody] at hbody
      exact nomatch hbody
    | succ depth =>
      rw [readBody] at hbody
      dsimp only at hbody
      split at hbody
      · exact nomatch hbody
      · split at hbody
        · exact nomatch hbody
        · obtain ⟨⟨first, c'⟩, hfirst, hbody⟩ := bind_eq_ok_iff.mp hbody
          dsimp only at hbody
          split at hbody
          · next hend =>
            obtain ⟨⟨others, c₂⟩, hothers, hbody⟩ := bind_eq_ok_iff.mp hbody
            obtain ⟨hss, -⟩ := Prod.mk.inj (Except.ok.inj hbody)
            obtain ⟨rfl, rfl⟩ := List.cons.inj hss
            exact ⟨lexemes, depth, _, c', _, hlexemes, tokens_skipWhile_eq _ _,
              readStatement_startsAs depth _ _ hfirst, hend, hothers⟩
          · exact nomatch hbody
  · exact nomatch h

/-! ## Equals signs -/

/-- **An expression ends before the first token that is none of an expression.** -/
theorem Cursor.ReadsPast.before {front : List Token} (h : c.ReadsPast c')
    (hc : c.tokens = front ++ t :: ts) (ht : t.inExpr = false) :
    ∃ read left, front = read ++ left ∧ c'.tokens = left ++ t :: ts ∧
      ∃ u ∈ read, u.isLineBreak = false := by
  obtain ⟨read, hread, hall, hpast⟩ := h
  obtain ⟨left, hfront, hleft⟩ | ⟨extra, hextra, hrest⟩ :=
    List.append_eq_append_iff.mp (hread.symm.trans hc)
  · exact ⟨read, left, hfront, hleft, hpast⟩
  · obtain ⟨rfl, hrest⟩ | ⟨others, rfl, -⟩ := List.cons_eq_append_iff.mp hrest
    · rw [List.append_nil] at hextra
      exact ⟨read, [], by rw [hextra, List.append_nil], hrest.symm, hpast⟩
    · have hall := hall t (hextra ▸ List.mem_append_right _ List.mem_cons_self)
      rw [ht] at hall
      exact nomatch hall

/-- No statement starts with an equals sign. -/
theorem readBody_assign {seps : List Token} (hc : c.tokens = seps ++ .symbol .assign :: ts)
    (hseps : ∀ t ∈ seps, t.isSeparator = true) (r : List Statement × Cursor) :
    readBody depth false c ≠ .ok r := by
  intro h
  cases depth with
  | zero =>
    rw [readBody] at h
    exact nomatch h
  | succ depth =>
    have htokens : (c.skipWhile Token.isSeparator).tokens = .symbol .assign :: ts := by
      rw [tokens_skipWhile_eq, hc, List.dropWhile_append_of_pos hseps]
      rfl
    rw [readBody] at h
    dsimp only at h
    rw [token?_of_tokens htokens] at h
    obtain ⟨⟨first, c'⟩, hfirst, -⟩ := bind_eq_ok_iff.mp h
    exact not_startsAs_of_symbol htokens rfl (readStatement_startsAs depth _ _ hfirst)

/-- A script that opens with words or numbers, line breaks and an equals sign starts with an
assignment, and there is one name and no line break before the sign. -/
theorem StartsAs.assign_of_run {words : List Token} {n : Nat} {r : List Statement × Cursor}
    (h : StartsAs c c' s) (hend : c'.atStatementEnd = true)
    (hrest : readBody depth false c' = .ok r)
    (hc : c.tokens = words ++ (List.replicate n .lineBreak ++ .symbol .assign :: ts))
    (hwords : ∀ t ∈ words, t.isWord = true)
    (hfirst : (∃ word, words = [.ofWord word]) ∨ ∃ value others, words = .number value :: others) :
    ∃ name value span, s = .assign name value false span ∧ words = [.name name] := by
  have hbreaks : ∀ t ∈ List.replicate n Token.lineBreak, t = .lineBreak :=
    fun t ht => List.eq_of_mem_replicate ht
  cases h with
  | declare htokens =>
    rw [hc] at htokens
    obtain ⟨word, rfl⟩ | ⟨value, others, rfl⟩ := hfirst
    · cases n <;> exact nomatch (List.cons.inj htokens).2
    · exact nomatch (List.cons.inj htokens).1
  | branch htokens hcondition =>
    have hnext := tokens_next htokens
    rw [hc] at htokens
    obtain ⟨word, rfl⟩ | ⟨value, others, rfl⟩ := hfirst
    · rw [← (List.cons.inj htokens).2] at hnext
      obtain ⟨read, left, hread, -, t, ht, hbreak⟩ := hcondition.before hnext rfl
      rw [hbreaks t (hread ▸ List.mem_append_left _ ht)] at hbreak
      exact nomatch hbreak
    · exact nomatch (List.cons.inj htokens).1
  | assign htokens =>
    rw [hc] at htokens
    obtain ⟨word, rfl⟩ | ⟨value, others, rfl⟩ := hfirst
    · exact ⟨_, _, _, rfl, congrArg ([·]) (List.cons.inj htokens).1⟩
    · exact nomatch (List.cons.inj htokens).1
  | expr hvalue =>
    -- The expression ends at a separator, hence behind all words: then the equals sign comes first.
    rw [← List.append_assoc] at hc
    obtain ⟨read, left, hread, hleft, -⟩ := hvalue.before hc rfl
    refine absurd hrest (readBody_assign hleft (fun t ht => ?_) r)
    obtain ⟨extra, -, hextra⟩ | ⟨others, hothers, rfl⟩ := List.append_eq_append_iff.mp hread
    · rw [hbreaks t (hextra ▸ List.mem_append_right _ ht)]
      rfl
    · cases others with
      | nil => exact hbreaks t ht ▸ rfl
      | cons u others =>
        have hword := hwords u (hothers ▸ List.mem_append_right _ List.mem_cons_self)
        rw [atStatementEnd, token?_of_tokens hleft] at hend
        cases u with
        | number | name | keyword => exact absurd hend Bool.false_ne_true
        | text | template | symbol | lineBreak => exact absurd hword Bool.false_ne_true

/-! ## Scripts that are no expression -/

/-- **A script with an assignment or a branch at its start is no expression.** -/
theorem not_expr_of_isForm {offset : Nat} {body : List Char}
    (h : Statement.ofScript offset body = .ok (s :: ss)) (hform : s.isForm = true) (value : Expr) :
    Expr.ofScript offset body ≠ .ok value := by
  intro hexpr
  obtain ⟨lexemes, depth, c, c', r, hlexemes, hc, hstart, -⟩ := exists_first_statement h
  obtain ⟨lexemes', hlexemes', hall⟩ := readWhole_tokens hexpr
  obtain rfl := Except.ok.inj (hlexemes.symm.trans hlexemes')
  have hnot (t : Token) (ht : t ∈ c.tokens) (hexpr : t.inExpr = false)
      (hseparator : t.isSeparator = false) : False := by
    rw [hc] at ht
    have htoken := hall t ((List.dropWhile_sublist _).subset ht)
    rw [hexpr, hseparator] at htoken
    exact nomatch htoken
  cases hstart with
  | declare htokens => exact hnot _ (htokens ▸ List.mem_cons_self) rfl rfl
  | branch htokens => exact hnot _ (htokens ▸ List.mem_cons_self) rfl rfl
  | assign htokens =>
    exact hnot (.symbol .assign) (htokens ▸ List.mem_cons_of_mem _ List.mem_cons_self) rfl rfl
  | expr => exact nomatch hform

end Stencil.Script
