import Stencil.Proofs.Script.Reading

/-!
# Parsing undoes printing

Statements are told apart by their first tokens: an expression that starts with a name must not look
like an assignment, and it does not, since no token of an expression is a single equals sign.

* `Ends` are the tokens that end a statement.
* `readBody_statement`, `readBranch_single` and so on: what the parser of statements does, one step
  at a time.
* `Statement.reads`: every printable statement is read back up to what ends it.
* `parse_print`: a printed expression and printed statements are read back up to spans. The depth
  that the parser starts from is enough, since a script has no more tokens than characters.
-/

namespace Stencil.Script

/-! ## Expressions hold no assignment -/

/-- Whether no piece is a single equals sign. -/
def NoAssign (ps : List Piece) : Prop := ∀ t ∈ tokensOf ps, t.is .assign = false

theorem noAssign_append {ps qs : List Piece} (hps : NoAssign ps) (hqs : NoAssign qs) :
    NoAssign (ps ++ qs) := by
  intro t ht
  rw [tokensOf_append] at ht
  exact (List.mem_append.mp ht).elim (hps t) (hqs t)

theorem noAssign_nil : NoAssign [] := nofun

theorem noAssign_token {t : Token} {ps : List Piece} (ht : t.is .assign = false)
    (hps : NoAssign ps) : NoAssign (.token t :: ps) := by
  intro u hu
  obtain rfl | hmem := List.mem_cons.mp hu
  · exact ht
  · exact hps u hmem

theorem noAssign_enclose {ps : List Piece} (hps : NoAssign ps) (power level : Nat) :
    NoAssign (enclose power level ps) := by
  unfold enclose
  split
  · exact noAssign_token rfl (noAssign_append hps (noAssign_token rfl noAssign_nil))
  · exact hps

theorem noAssign_bracket {ps qs : List Piece} {left right : Symbol} (hps : NoAssign ps)
    (hqs : NoAssign qs) (hleft : left ≠ .assign) (hright : right ≠ .assign) :
    NoAssign (ps ++ .sign left :: qs ++ [.sign right]) :=
  noAssign_append (noAssign_append hps (noAssign_token (decide_eq_false hleft) hqs))
    (noAssign_token (decide_eq_false hright) noAssign_nil)

mutual

theorem Expr.noAssign : (e : Expr) → NoAssign e.inner
  | .text _ => noAssign_token rfl noAssign_nil
  | .number _ => noAssign_token rfl noAssign_nil
  | .flag true => noAssign_token rfl noAssign_nil
  | .flag false => noAssign_token rfl noAssign_nil
  | .null => noAssign_token rfl noAssign_nil
  | .list items =>
    noAssign_token rfl (noAssign_append (Expr.noAssignAll items) (noAssign_token rfl noAssign_nil))
  | .template _ => noAssign_nil
  | .identifier _ _ => noAssign_token rfl noAssign_nil
  | .member object _ _ => noAssign_append (noAssign_enclose object.noAssign _ _)
      (noAssign_token rfl (noAssign_token rfl noAssign_nil))
  | .index object place _ =>
    noAssign_bracket (noAssign_enclose object.noAssign _ _) place.noAssign nofun nofun
  | .call callee args _ =>
    noAssign_bracket (noAssign_enclose callee.noAssign _ _) (Expr.noAssignAll args) nofun nofun
  | .unary op operand =>
    noAssign_token (by cases op <;> rfl) (noAssign_enclose operand.noAssign _ _)
  | .binary op left right => noAssign_append (noAssign_enclose left.noAssign _ _)
      (noAssign_token (by cases op <;> rfl) (noAssign_enclose right.noAssign _ _))
  | .conditional condition yes no =>
    noAssign_append
      (noAssign_append (noAssign_enclose condition.noAssign _ _) (noAssign_token rfl yes.noAssign))
      (noAssign_token rfl (noAssign_enclose no.noAssign _ _))

theorem Expr.noAssignAll : (es : List Expr) → NoAssign (Expr.innerAll es)
  | [] => noAssign_nil
  | [e] => e.noAssign
  | e :: f :: es =>
    noAssign_append e.noAssign (noAssign_token rfl (Expr.noAssignAll (f :: es)))

end

/-! ## Steps -/

/-- Whether a token is the given keyword. -/
def Token.isKeyword (word : Keyword) : Token → Bool
  | .keyword other => other = word
  | _ => false

/-- The tokens that end a statement. -/
def Ends (ts : List Token) : Prop :=
  ∀ t ∈ ts.head?, t = .symbol .semicolon ∨ t = .symbol .rightBrace

section Ends

variable {ts : List Token} {c : Cursor}

theorem Ends.stops (h : Ends ts) (power : Nat) : Stops power ts := by
  intro t ht
  obtain rfl | rfl := h t ht <;> rfl

theorem Ends.atStatementEnd (h : Ends c.tokens) : c.atStatementEnd = true := by
  unfold Cursor.atStatementEnd
  rw [Cursor.token?_eq_head?]
  split
  · rfl
  · next t ht => obtain rfl | rfl := h t ht <;> rfl

theorem Ends.not_otherwise (h : Ends c.tokens) : c.atKeyword .otherwise = false := by
  unfold Cursor.atKeyword
  rw [Cursor.token?_eq_head?]
  split
  · next other ht => obtain heq | heq := h _ ht <;> exact nomatch heq
  · rfl

end Ends

section Steps

variable {depth start : Nat} {braced : Bool} {c c' : Cursor} {ts us : List Token} {t : Token}
  {value : Expr} {name : String}

theorem atKeyword_of_tokens (h : c.tokens = t :: ts) (word : Keyword) :
    c.atKeyword word = t.isKeyword word := by
  unfold Cursor.atKeyword
  rw [Cursor.token?_of_tokens h]
  cases t <;> rfl

/-- A name is assigned to only where an equals sign comes next. -/
theorem atAssignment_of_tokens (h : c.tokens = t :: ts)
    (hts : ∀ u ∈ ts.head?, u.is .assign = false) : c.atAssignment = false := by
  unfold Cursor.atAssignment
  rw [Cursor.token?_of_tokens h]
  cases t with
  | name _ =>
    dsimp only
    unfold Cursor.stands
    rw [Cursor.token?_eq_head?, Cursor.tokens_next h]
    cases ts with
    | nil => rfl
    | cons u ts => exact hts u rfl
  | _ => rfl

theorem readStatement_declare
    (h : c.tokens = .keyword .declare :: .name name :: .symbol .assign :: ts)
    (hvalue : readExpr depth false 0 c.next.next.next = .ok (value, c')) :
    readStatement (depth + 1) c =
      .ok (.assign name value true ⟨c.here.start, c'.last⟩, c') := by
  have hnext := Cursor.tokens_next h
  have hnext' := Cursor.tokens_next hnext
  rw [readStatement]
  dsimp only
  rw [atKeyword_of_tokens h, if_pos (by rfl)]
  show (c.next.expectName false >>= _) = _
  rw [Cursor.expectName_of_tokens hnext]
  show (c.next.next.expect false .assign .assignAfterName >>= _) = _
  rw [Cursor.expect_of_tokens hnext']
  show (readExpr depth false 0 c.next.next.next >>= _) = _
  rw [hvalue]
  rfl

theorem readStatement_assign (h : c.tokens = .name name :: .symbol .assign :: ts)
    (hvalue : readExpr depth false 0 c.next.next = .ok (value, c')) :
    readStatement (depth + 1) c =
      .ok (.assign name value false ⟨c.here.start, c'.last⟩, c') := by
  have hnext := Cursor.tokens_next h
  have hassign : c.atAssignment = true := by
    unfold Cursor.atAssignment
    rw [Cursor.token?_of_tokens h]
    exact Cursor.stands_of_tokens hnext .assign
  have hword (word : Keyword) : c.atKeyword word = false := atKeyword_of_tokens h word
  rw [readStatement]
  dsimp only
  rw [hword, hword, if_neg Bool.false_ne_true, if_neg Bool.false_ne_true, if_pos hassign]
  show (c.expectName false >>= _) = _
  rw [Cursor.expectName_of_tokens h]
  show (c.next.expect false .assign .assign >>= _) = _
  rw [Cursor.expect_of_tokens hnext]
  show (readExpr depth false 0 c.next.next >>= _) = _
  rw [hvalue]
  rfl

theorem readStatement_expr (h : c.tokens = t :: ts) (ht : t.opens = true)
    (hts : ∀ u ∈ ts.head?, u.is .assign = false)
    (hvalue : readExpr depth false 0 c = .ok (value, c')) :
    readStatement (depth + 1) c = .ok (.expr value ⟨c.here.start, c'.last⟩, c') := by
  have hword (word : Keyword) (hword : (Token.keyword word).opens = false) :
      c.atKeyword word = false := by
    rw [atKeyword_of_tokens h]
    cases t with
    | keyword other =>
      refine decide_eq_false fun heq => ?_
      rw [heq, hword] at ht
      exact Bool.false_ne_true ht
    | _ => rfl
  rw [readStatement]
  dsimp only
  rw [hword .declare rfl, hword .branch rfl, atAssignment_of_tokens h hts, if_neg (by decide),
    if_neg (by decide), if_neg (by decide), hvalue]
  rfl

theorem readStatement_branch (h : c.tokens = .keyword .branch :: ts) :
    readStatement (depth + 1) c = readBranch depth c.here.start c := by
  rw [readStatement]
  dsimp only
  rw [atKeyword_of_tokens h, atKeyword_of_tokens h, if_neg (by decide), if_pos (by rfl)]

variable {afterCondition afterYes afterNo : Cursor} {yes no : List Statement}

theorem readBranch_single (hcondition : readExpr depth false 0 c.next = .ok (value, afterCondition))
    (hopen : afterCondition.tokens = .symbol .leftBrace :: ts)
    (hyes : readBody depth true afterCondition.next = .ok (yes, afterYes))
    (hend : Ends afterYes.tokens) :
    readBranch (depth + 1) start c =
      .ok (.branch value yes [] ⟨start, afterYes.last⟩, afterYes) := by
  have hbreak : afterYes.skipWhile Token.isLineBreak = afterYes :=
    Cursor.skipWhile_eq ((hend.stops 0).isLineBreak)
  rw [readBranch, hcondition]
  show (afterCondition.expect false .leftBrace .bodyAfterCondition >>= _) = _
  rw [Cursor.expect_of_tokens hopen]
  show (readBody depth true afterCondition.next >>= _) = _
  rw [hyes]
  show (if (afterYes.skipWhile Token.isLineBreak).atKeyword .otherwise = true then _ else _) = _
  rw [hbreak, hend.not_otherwise, if_neg (by decide)]

theorem readBranch_double (hcondition : readExpr depth false 0 c.next = .ok (value, afterCondition))
    (hopen : afterCondition.tokens = .symbol .leftBrace :: ts)
    (hyes : readBody depth true afterCondition.next = .ok (yes, afterYes))
    (hotherwise : afterYes.tokens = .keyword .otherwise :: .symbol .leftBrace :: us)
    (hno : readBody depth true afterYes.next.next = .ok (no, afterNo)) :
    readBranch (depth + 1) start c = .ok (.branch value yes no ⟨start, afterNo.last⟩, afterNo) := by
  have hbreak : afterYes.skipWhile Token.isLineBreak = afterYes :=
    Cursor.skipWhile_of_tokens hotherwise rfl
  have hnext := Cursor.tokens_next hotherwise
  rw [readBranch, hcondition]
  show (afterCondition.expect false .leftBrace .bodyAfterCondition >>= _) = _
  rw [Cursor.expect_of_tokens hopen]
  show (readBody depth true afterCondition.next >>= _) = _
  rw [hyes]
  show (if (afterYes.skipWhile Token.isLineBreak).atKeyword .otherwise = true then _ else _) = _
  rw [hbreak, atKeyword_of_tokens hotherwise, if_pos (by rfl), atKeyword_of_tokens hnext,
    if_neg (by decide)]
  show (afterYes.next.expect false .leftBrace .bodyAfterElse >>= _) = _
  rw [Cursor.expect_of_tokens hnext]
  show (readBody depth true afterYes.next.next >>= _) = _
  rw [hno]
  rfl

theorem readBody_end (h : (c.skipWhile Token.isSeparator).tokens = []) :
    readBody (depth + 1) false c = .ok ([], c.skipWhile Token.isSeparator) := by
  rw [readBody]
  dsimp only
  rw [Cursor.token?_eq_head?, h]
  rfl

theorem readBody_close (h : (c.skipWhile Token.isSeparator).tokens = .symbol .rightBrace :: ts) :
    readBody (depth + 1) true c = .ok ([], (c.skipWhile Token.isSeparator).next) := by
  rw [readBody]
  dsimp only
  rw [Cursor.token?_of_tokens h]
  rfl

theorem readBody_statement {s : Statement}
    (h : (c.skipWhile Token.isSeparator).tokens = t :: ts) (ht : t.is .rightBrace = false)
    (hs : readStatement depth (c.skipWhile Token.isSeparator) = .ok (s, c'))
    (hend : Ends c'.tokens) : readBody (depth + 1) braced c =
      (readBody depth braced c').map fun (ss, c) => (s :: ss, c) := by
  rw [readBody]
  dsimp only
  rw [Cursor.token?_of_tokens h]
  dsimp only
  rw [ht, if_neg (by decide), hs]
  show (if c'.atStatementEnd = true then _ else _) = _
  rw [if_pos hend.atStatementEnd]
  cases readBody depth braced c' <;> rfl

end Steps

/-! ## Statements -/

/-- Whether the pieces of a statement are read as it up to what ends it. -/
def ReadsStatement (s : Statement) : Prop :=
  ∀ (depth : Nat) (c : Cursor) (ts : List Token), c.tokens = tokensOf s.pieces ++ ts → Ends ts →
    2 * (tokensOf s.pieces).length + 3 ≤ depth →
    ∃ value c', readStatement depth c = .ok (value, c') ∧ value.bare = s.bare ∧ c'.tokens = ts

/-- What ends the statements of a body, with the tokens behind it. -/
def closing (braced : Bool) (ts : List Token) : List Token :=
  if braced then .symbol .rightBrace :: ts else []

/-- Whether the pieces of statements are read as them, and past a brace that closes them. -/
def ReadsBody (ss : List Statement) : Prop :=
  ∀ (depth : Nat) (braced : Bool) (c : Cursor) (ts : List Token),
    (c.skipWhile Token.isSeparator).tokens =
      tokensOf (Statement.piecesAll ss) ++ closing braced ts →
    2 * (tokensOf (Statement.piecesAll ss)).length + 4 ≤ depth →
    ∃ values c', readBody depth braced c = .ok (values, c') ∧
      Statement.bareAll values = Statement.bareAll ss ∧ c'.tokens = if braced then ts else []

theorem ends_closing (braced : Bool) (ts : List Token) : Ends (closing braced ts) := by
  intro t ht
  cases braced with
  | false => exact nomatch ht
  | true => exact .inr (Option.some.inj ht).symm

theorem ends_semicolon (ts : List Token) : Ends (.symbol .semicolon :: ts) :=
  fun _ ht => .inl (Option.some.inj ht).symm

/-- A statement starts with a token that ends none. -/
theorem Statement.pieces_opens (s : Statement) (h : s.Printable) : ∃ t qs,
    s.pieces = .token t :: qs ∧ t.isSeparator = false ∧ t.is .rightBrace = false := by
  cases s with
  | assign name value declare span =>
    cases declare with
    | false => exact ⟨.name name, _, rfl, rfl, rfl⟩
    | true => exact ⟨.keyword .declare, _, rfl, rfl, rfl⟩
  | expr value span =>
    obtain ⟨t, qs, hinner, ht⟩ := value.inner_opens h
    obtain ⟨-, hseparator, hbrace, -⟩ := Token.not_closes_of_opens ht
    exact ⟨t, qs, hinner, hseparator, hbrace⟩
  | branch condition yes no span => exact ⟨.keyword .branch, _, rfl, rfl, rfl⟩

theorem reads_assign {name : String} {value : Expr} (h : Reads value) (declare : Bool)
    (span : Span) : ReadsStatement (.assign name value declare span) := by
  intro depth c ts hc hend hdepth
  obtain ⟨d, rfl⟩ : ∃ d, depth = d + 1 := ⟨depth - 1, by omega⟩
  cases declare with
  | false =>
    replace hc : c.tokens = .name name :: .symbol .assign :: (tokensOf value.inner ++ ts) := hc
    replace hdepth : 2 * ((tokensOf value.inner).length + 2) + 3 ≤ d + 1 := hdepth
    obtain ⟨v, c', hread, hv, hc'⟩ := h.inner_whole d false _ ts
      (Cursor.tokens_next (Cursor.tokens_next hc)) (hend.stops 0) (by omega)
    refine ⟨_, c', readStatement_assign hc hread, ?_, hc'⟩
    rw [Statement.bare, Statement.bare, hv]
  | true =>
    replace hc : c.tokens =
      .keyword .declare :: .name name :: .symbol .assign :: (tokensOf value.inner ++ ts) := hc
    replace hdepth : 2 * ((tokensOf value.inner).length + 3) + 3 ≤ d + 1 := hdepth
    obtain ⟨v, c', hread, hv, hc'⟩ := h.inner_whole d false _ ts
      (Cursor.tokens_next (Cursor.tokens_next (Cursor.tokens_next hc))) (hend.stops 0) (by omega)
    refine ⟨_, c', readStatement_declare hc hread, ?_, hc'⟩
    rw [Statement.bare, Statement.bare, hv]

theorem reads_expr {value : Expr} (h : Reads value) (hopens : Opens value.inner) (span : Span) :
    ReadsStatement (.expr value span) := by
  intro depth c ts hc hend hdepth
  rw [Statement.pieces] at hc hdepth
  obtain ⟨d, rfl⟩ : ∃ d, depth = d + 1 := ⟨depth - 1, by omega⟩
  obtain ⟨v, c', hread, hv, hc'⟩ := h.inner_whole d false c ts hc (hend.stops 0) (by omega)
  obtain ⟨t, qs, hinner, ht⟩ := hopens
  -- Neither the expression nor what ends it has an equals sign.
  have hassign : ∀ u ∈ (tokensOf qs ++ ts).head?, u.is .assign = false := by
    intro u hu
    cases hqs : tokensOf qs with
    | nil =>
      rw [hqs, List.nil_append] at hu
      obtain rfl | rfl := hend u hu <;> rfl
    | cons w ws =>
      rw [hqs, List.cons_append] at hu
      obtain rfl := Option.some.inj hu
      refine value.noAssign w ?_
      rw [hinner, tokensOf_token, hqs]
      exact List.mem_cons_of_mem _ List.mem_cons_self
  rw [hinner, tokensOf_token, List.cons_append] at hc
  refine ⟨_, c', readStatement_expr hc ht hassign hread, ?_, hc'⟩
  rw [Statement.bare, Statement.bare, hv]

/-- Whether the first of the statements' tokens, if there is one, does not separate statements. -/
def OpensBody (ss : List Statement) : Prop :=
  ∀ t ∈ (tokensOf (Statement.piecesAll ss)).head?, t.isSeparator = false

theorem opensBody {ss : List Statement} (h : Statement.PrintableAll ss) : OpensBody ss := by
  intro t ht
  cases ss with
  | nil => cases ht
  | cons s ss =>
    obtain ⟨first, qs, hpieces, hfirst, -⟩ := s.pieces_opens h.1
    cases ss with
    | nil =>
      rw [Statement.piecesAll, hpieces, tokensOf_token] at ht
      exact Option.some.inj ht ▸ hfirst
    | cons s' ss =>
      rw [Statement.piecesAll, hpieces, List.cons_append, tokensOf_token] at ht
      exact Option.some.inj ht ▸ hfirst

theorem closing_not_separator {braced : Bool} {ts : List Token} :
    ∀ t ∈ (closing braced ts).head?, t.isSeparator = false := by
  intro t ht
  cases braced with
  | false => exact nomatch ht
  | true => exact Option.some.inj ht ▸ rfl

theorem OpensBody.append {ss : List Statement} (h : OpensBody ss) (braced : Bool)
    (ts : List Token) : ∀ t ∈ (tokensOf (Statement.piecesAll ss) ++ closing braced ts).head?,
      t.isSeparator = false := by
  intro t ht
  unfold OpensBody at h
  cases htokens : tokensOf (Statement.piecesAll ss) with
  | nil =>
    rw [htokens] at ht
    exact closing_not_separator t ht
  | cons u us =>
    rw [htokens] at ht h
    exact h t ht

/-- Statements between braces are read from behind the brace that opens them. -/
theorem ReadsBody.braced {ss : List Statement} (h : ReadsBody ss) (hopens : OpensBody ss)
    {depth : Nat} {c : Cursor} {ts : List Token}
    (hc : c.tokens = tokensOf (Statement.piecesAll ss) ++ .symbol .rightBrace :: ts)
    (hdepth : 2 * (tokensOf (Statement.piecesAll ss)).length + 4 ≤ depth) :
    ∃ values c', readBody depth true c = .ok (values, c') ∧
      Statement.bareAll values = Statement.bareAll ss ∧ c'.tokens = ts := by
  have hskip : c.skipWhile Token.isSeparator = c :=
    Cursor.skipWhile_eq (by rw [hc]; exact hopens.append true ts)
  exact h depth true c ts (by rw [hskip]; exact hc) hdepth

theorem reads_branch {condition : Expr} {yes no : List Statement} (hcondition : Reads condition)
    (hyes : ReadsBody yes) (hno : ReadsBody no) (hyesOpens : OpensBody yes)
    (hnoOpens : OpensBody no) (span : Span) :
    ReadsStatement (.branch condition yes no span) := by
  intro depth c ts hc hend hdepth
  obtain ⟨d, rfl⟩ : ∃ d, depth = d + 2 := ⟨depth - 2, by omega⟩
  rw [Statement.pieces] at hc hdepth
  simp only [braced, tokensOf_append, tokensOf_word, tokensOf_blank, tokensOf_sign,
    List.append_assoc, List.cons_append, List.nil_append, List.length_append, List.length_cons]
    at hc hdepth
  obtain ⟨value, afterCondition, hread, hvalue, hafter⟩ := hcondition.inner_whole d false c.next _
    (Cursor.tokens_next hc) (stops_close rfl nofun nofun nofun) (by omega)
  have hyesDepth : 2 * (tokensOf (Statement.piecesAll yes)).length + 4 ≤ d := by omega
  obtain ⟨yesValues, afterYes, hreadYes, hyesValues, hafterYes⟩ :=
    hyes.braced hyesOpens (Cursor.tokens_next hafter) hyesDepth
  cases no with
  | nil =>
    replace hafterYes : afterYes.tokens = ts := hafterYes
    refine ⟨.branch value yesValues [] ⟨c.here.start, afterYes.last⟩, afterYes, ?_, ?_, hafterYes⟩
    · rw [readStatement_branch hc, readBranch_single hread hafter hreadYes (hafterYes ▸ hend)]
    · rw [Statement.bare, Statement.bare, hvalue, hyesValues, Statement.bareAll]
  | cons s ss =>
    generalize hno' : s :: ss = no at *
    have hnonempty : no.isEmpty = false := by rw [← hno']; rfl
    rw [hnonempty] at hafterYes hdepth
    simp only [Bool.false_eq_true, if_false, tokensOf_append, tokensOf_word, tokensOf_blank,
      tokensOf_sign, tokensOf_nil, List.append_assoc, List.cons_append, List.nil_append,
      List.length_append, List.length_cons, List.length_nil] at hafterYes hdepth
    have hnoDepth : 2 * (tokensOf (Statement.piecesAll no)).length + 4 ≤ d := by omega
    obtain ⟨noValues, afterNo, hreadNo, hnoValues, hafterNo⟩ :=
      hno.braced hnoOpens (Cursor.tokens_next (Cursor.tokens_next hafterYes)) hnoDepth
    refine ⟨.branch value yesValues noValues ⟨c.here.start, afterNo.last⟩, afterNo, ?_, ?_,
      hafterNo⟩
    · rw [readStatement_branch hc, readBranch_double hread hafter hreadYes hafterYes hreadNo]
    · rw [Statement.bare, Statement.bare, hvalue, hyesValues, hnoValues]

/-- Nothing is left in a body but what closes it. -/
theorem readBody_closing (depth : Nat) {braced : Bool} {c : Cursor} {ts : List Token}
    (h : (c.skipWhile Token.isSeparator).tokens = closing braced ts) :
    ∃ c', readBody (depth + 1) braced c = .ok ([], c') ∧
      c'.tokens = if braced then ts else [] := by
  cases braced with
  | false => exact ⟨_, readBody_end h, h⟩
  | true => exact ⟨_, readBody_close h, Cursor.tokens_next h⟩

mutual

/-- **Every printable statement is read back.** -/
theorem Statement.reads : (s : Statement) → s.Printable → ReadsStatement s
  | .assign _ value declare span, h => reads_assign (value.reads h.2) declare span
  | .expr value span, h => reads_expr (value.reads h) (value.inner_opens h) span
  | .branch condition yes no span, h =>
    reads_branch (condition.reads h.1) (Statement.readsAll yes h.2.1) (Statement.readsAll no h.2.2)
      (opensBody h.2.1) (opensBody h.2.2) span

theorem Statement.readsAll : (ss : List Statement) → Statement.PrintableAll ss → ReadsBody ss
  | [], _ => by
    intro depth braced c ts hc hdepth
    obtain ⟨d, rfl⟩ : ∃ d, depth = d + 1 := ⟨depth - 1, by omega⟩
    obtain ⟨c', hread, hc'⟩ := readBody_closing d hc
    exact ⟨[], c', hread, rfl, hc'⟩
  | [s], h => by
    intro depth braced c ts hc hdepth
    obtain ⟨d, rfl⟩ : ∃ d, depth = d + 2 := ⟨depth - 2, by omega⟩
    rw [Statement.piecesAll] at hc hdepth
    obtain ⟨value, c', hread, hvalue, hc'⟩ :=
      s.reads h.1 (d + 1) _ _ hc (ends_closing braced ts) (by omega)
    have hskip : c'.skipWhile Token.isSeparator = c' :=
      Cursor.skipWhile_eq (by rw [hc']; exact closing_not_separator)
    obtain ⟨c'', hrest, hc''⟩ := readBody_closing d (hskip.symm ▸ hc')
    obtain ⟨t, qs, hpieces, -, hbrace⟩ := s.pieces_opens h.1
    rw [hpieces, tokensOf_token, List.cons_append] at hc
    refine ⟨[value], c'', ?_, ?_, hc''⟩
    · rw [readBody_statement hc hbrace hread (hc' ▸ ends_closing braced ts), hrest]
      rfl
    · rw [Statement.bareAll, Statement.bareAll, Statement.bareAll, Statement.bareAll, hvalue]
  | s :: t :: ss, h => by
    intro depth braced c ts hc hdepth
    obtain ⟨d, rfl⟩ : ∃ d, depth = d + 1 := ⟨depth - 1, by omega⟩
    rw [Statement.piecesAll, tokensOf_append, tokensOf_sign, tokensOf_blank] at hc hdepth
    rw [List.append_assoc, List.cons_append] at hc
    rw [List.length_append, List.length_cons] at hdepth
    obtain ⟨value, c', hread, hvalue, hc'⟩ :=
      s.reads h.1 d _ _ hc (ends_semicolon _) (by omega)
    -- The semicolon is skipped, and nothing behind it.
    have hskip := Cursor.tokens_skipWhile hc' (p := Token.isSeparator) rfl
      ((opensBody h.2).append braced ts)
    obtain ⟨values, c'', hrest, hvalues, hc''⟩ :=
      Statement.readsAll (t :: ss) h.2 d braced c' ts hskip (by omega)
    obtain ⟨u, qs, hpieces, -, hbrace⟩ := s.pieces_opens h.1
    rw [hpieces, tokensOf_token, List.cons_append] at hc
    refine ⟨value :: values, c'', ?_, ?_, hc''⟩
    · rw [readBody_statement hc hbrace hread (hc' ▸ ends_semicolon _), hrest]
      rfl
    · rw [Statement.bareAll, Statement.bareAll, hvalue, hvalues]

end

/-! ## Scripts -/

theorem rest_isEmpty {c : Cursor} (h : c.tokens = []) : c.rest.isEmpty = true := by
  rw [Cursor.tokens, List.map_eq_nil_iff] at h
  rw [h]
  rfl

theorem ofScript_print {e : Expr} (h : e.Printable) (offset : Nat) :
    (Expr.ofScript offset e.print).map Expr.bare = .ok e.bare := by
  obtain ⟨lexemes, hlexemes, htokens⟩ := (e.apart h).lexes offset
  have hlength : (tokensOf e.inner).length ≤ e.print.length := by
    rw [← htokens, List.length_map]
    exact ofScript_length hlexemes
  let start := Cursor.start lexemes (offset + Text.byteLength e.print)
  have hstart : start.tokens = tokensOf e.inner := htokens
  have hskip : start.skipWhile Token.isSeparator = start := by
    obtain ⟨t, qs, hinner, ht⟩ := e.inner_opens h
    refine Cursor.skipWhile_eq fun u hu => ?_
    rw [hstart, hinner, tokensOf_token] at hu
    exact Option.some.inj hu ▸ (Token.not_closes_of_opens ht).2.1
  obtain ⟨value, c, hread, hvalue, hc⟩ := (e.reads h).inner_whole (8 * e.print.length + 7) false
    start [] (by rw [hstart, List.append_nil]) nofun (by omega)
  have hend : c.skipWhile Token.isSeparator = c := Cursor.skipWhile_eq (by rw [hc]; exact nofun)
  have hwhole : Expr.ofScript offset e.print = .ok value := by
    show readWhole (8 * e.print.length + 7 + 1) offset e.print = _
    rw [readWhole]
    show (Lexeme.ofScript offset (spell e.inner) >>= _) = _
    rw [hlexemes]
    show (readExpr (8 * e.print.length + 7) false 0 (start.skipWhile Token.isSeparator) >>= _) = _
    rw [hskip, hread]
    show (if (c.skipWhile Token.isSeparator).rest.isEmpty = true then _ else _) = _
    rw [hend, if_pos (rest_isEmpty hc)]
  rw [hwhole]
  exact congrArg Except.ok hvalue

theorem ofScript_printAll {ss : List Statement} (h : Statement.PrintableAll ss) (offset : Nat) :
    (Statement.ofScript offset (Statement.print ss)).map Statement.bareAll =
      .ok (Statement.bareAll ss) := by
  obtain ⟨lexemes, hlexemes, htokens⟩ := (Statement.apartAll ss h).lexes offset
  have hlength : (tokensOf (Statement.piecesAll ss)).length ≤ (Statement.print ss).length := by
    rw [← htokens, List.length_map]
    exact ofScript_length hlexemes
  let start := Cursor.start lexemes (offset + Text.byteLength (Statement.print ss))
  have hstart : start.tokens = tokensOf (Statement.piecesAll ss) := htokens
  have hskip : start.skipWhile Token.isSeparator = start :=
    Cursor.skipWhile_eq (by rw [hstart]; exact opensBody h)
  obtain ⟨values, c, hread, hvalues, hc⟩ := Statement.readsAll ss h
    (depthFor (Statement.print ss)) false start []
    (by rw [hskip, hstart]; exact (List.append_nil _).symm) (by unfold depthFor; omega)
  have hwhole : Statement.ofScript offset (Statement.print ss) = .ok values := by
    unfold Statement.ofScript
    show (Lexeme.ofScript offset (spell (Statement.piecesAll ss)) >>= _) = _
    rw [hlexemes]
    show (readBody (depthFor (Statement.print ss)) false start >>= _) = _
    rw [hread]
    show (if c.rest.isEmpty = true then _ else _) = _
    rw [if_pos (rest_isEmpty hc)]
  rw [hwhole]
  exact congrArg Except.ok hvalues

/-- **Parsing undoes printing.** A printable expression, and statements over such expressions, are
read back up to their spans from the text that is printed of them, wherever it stands. -/
theorem parse_print :
    (∀ (e : Expr) (offset : Nat), e.Printable →
      (Expr.ofScript offset e.print).map Expr.bare = .ok e.bare) ∧
    ∀ (ss : List Statement) (offset : Nat), Statement.PrintableAll ss →
      (Statement.ofScript offset (Statement.print ss)).map Statement.bareAll =
        .ok (Statement.bareAll ss) :=
  ⟨fun _ offset h => ofScript_print h offset, fun _ offset h => ofScript_printAll h offset⟩

/-- A product whose second factor needs parentheses, and a branch with an assignment in it. -/
theorem parse_print_product : ∃ (e : Expr) (ss : List Statement),
    String.ofList e.print = "-a.b(1.5) * (x ? \"s\" : null)" ∧
    String.ofList (Statement.print ss) = "if x \x7b let a = !x \x7d; a == x" ∧
    (Expr.ofScript 0 e.print).map Expr.bare = .ok e.bare ∧
    (Statement.ofScript 0 (Statement.print ss)).map Statement.bareAll =
      .ok (Statement.bareAll ss) := by
  have ha : IsName "a" := ⟨'a', [], rfl, rfl⟩
  have hb : IsName "b" := ⟨'b', [], rfl, rfl⟩
  have hx : IsName "x" := ⟨'x', [], rfl, rfl⟩
  have hnumber : IsLiteral 1.5 := ⟨0x18000000000000, -52, rfl⟩
  refine ⟨.binary .multiply
      (.unary .negate
        (.call (.member (.identifier "a" default) "b" default) [.number 1.5] default))
      (.conditional (.identifier "x" default) (.text "s") .null),
    [.branch (.identifier "x" default)
      [.assign "a" (.unary .not (.identifier "x" default)) true default] [] default,
      .expr (.binary .equal (.identifier "a" default) (.identifier "x" default)) default],
    by decide +kernel, by decide +kernel, parse_print.1 _ 0 ?_, parse_print.2 _ 0 ?_⟩
  · exact ⟨⟨⟨ha, hb⟩, hnumber, trivial⟩, hx, trivial, trivial⟩
  · exact ⟨⟨hx, ⟨⟨ha, hx⟩, trivial⟩, trivial⟩, ⟨ha, hx⟩, trivial⟩

end Stencil.Script
