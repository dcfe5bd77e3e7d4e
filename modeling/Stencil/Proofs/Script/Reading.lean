import Stencil.Proofs.Script.Cursor
import Stencil.Proofs.Script.Spelling

/-!
# Printed expressions are read back

The parser does not read the left operand of an operator as an expression of its own: it reads one
operand and then goes on with operators as long as they bind strongly enough. So an expression is
not only read as a whole. Its first operand is read, and the loop arrives behind it with the
expression as what has been read so far.

* `ReadsOperand`: after its first primary, what follows as members, indices and calls is read up to
  the end of the expression. `ReadsSpine`: after its first operand, operators are read up to the end
  of the expression. `ReadsWhole`: the expression is read.
* `Expr.tail`: an operator behind an expression that binds at least as strongly would become part of
  its last operand.
* `Reads` holds of an expression that is read back wherever it may stand; `Expr.reads` says that
  every printable expression is.

Every token costs at most two levels of depth, so twice the number of tokens is enough.
-/

namespace Stencil.Script

/-! ## How far an expression reaches -/

/-- The power with which the last operand of an expression is read. -/
def Expr.tail : Expr → Nat
  | .conditional .. => conditionalPower
  | .binary op _ _ => op.power + 1
  | .unary .. => unaryPower
  | _ => suffixPower

theorem BinaryOp.power_bounds (op : BinaryOp) : conditionalPower < op.power ∧
    op.power + 1 < unaryPower := by
  cases op <;> decide

theorem Expr.level_le_suffixPower (e : Expr) : e.level ≤ suffixPower := by
  cases e with
  | binary op _ _ =>
    have := op.power_bounds.2
    show op.power ≤ 17
    unfold unaryPower at this
    omega
  | conditional _ _ _ => exact (by decide : conditionalPower ≤ suffixPower)
  | unary _ _ => exact (by decide : unaryPower ≤ suffixPower)
  | _ => exact Nat.le_refl suffixPower

theorem Expr.level_le_tail (e : Expr) : e.level ≤ e.tail := by
  cases e with
  | binary op _ _ => exact Nat.le_succ _
  | _ => exact Nat.le_refl _

/-- An operator behind its left operand is no part of it. -/
theorem Expr.lt_tail {e : Expr} {power : Nat} (h : power ≤ e.level)
    (hlow : conditionalPower < power) (hhigh : power < unaryPower) : power < e.tail := by
  cases e with
  | binary op _ _ => exact Nat.lt_succ_of_le h
  | conditional _ _ _ => exact absurd h (Nat.not_le.mpr hlow)
  | unary _ _ => exact hhigh
  | _ => exact Nat.lt_trans hhigh (by decide : unaryPower < suffixPower)

/-- The power with which the last operand of an expression is read where `power` is asked for:
parentheses have no last operand. -/
def Expr.reach (power : Nat) (e : Expr) : Nat := if e.level < power then suffixPower else e.tail

theorem Expr.le_reach {e : Expr} {power : Nat} (hpower : power ≤ suffixPower) :
    power ≤ e.reach power := by
  unfold Expr.reach
  split
  · exact hpower
  · next h => exact Nat.le_trans (Nat.not_lt.mp h) e.level_le_tail

theorem Expr.lt_reach {e : Expr} {power : Nat} (hlow : conditionalPower < power)
    (hhigh : power < unaryPower) : power < e.reach power := by
  unfold Expr.reach
  split
  · exact Nat.lt_trans hhigh (by decide)
  · next h => exact Expr.lt_tail (Nat.not_lt.mp h) hlow hhigh

/-- An operator that binds less strongly ends an expression. -/
theorem stops_symbol {sign : Symbol} {left right power : Nat} {ts : List Token}
    (hpowers : infixPowers? sign = some (left, right)) (h : left < power) :
    Stops power (.symbol sign :: ts) := by
  intro t ht
  obtain rfl := Option.some.inj ht
  have hinfix : (Token.symbol sign).isInfix power = false := by
    dsimp only [Token.isInfix]
    rw [hpowers, Option.any_some]
    exact decide_eq_false (Nat.not_le.mpr h)
  refine Token.goesOn_eq_false_iff.mpr ⟨rfl, ?_, ?_, ?_, hinfix⟩ <;>
    cases sign <;> first | rfl | exact nomatch hpowers

/-- A symbol that is no operator and starts no suffix ends an expression. -/
theorem stops_close {sign : Symbol} {power : Nat} {ts : List Token}
    (h : infixPowers? sign = none) (hdot : sign ≠ .dot) (hbracket : sign ≠ .leftBracket)
    (hparen : sign ≠ .leftParen) : Stops power (.symbol sign :: ts) := by
  intro t ht
  obtain rfl := Option.some.inj ht
  refine Token.goesOn_eq_false_iff.mpr ⟨rfl, decide_eq_false hdot, decide_eq_false hbracket,
    decide_eq_false hparen, ?_⟩
  dsimp only [Token.isInfix]
  rw [h]
  rfl

/-! ## What it means to be read back -/

/-- Whether the first primary of pieces is read, and then what follows it up to their end, as parts
of the value `e`. -/
def ReadsOperand (ps : List Piece) (e : Expr) : Prop :=
  ∀ (depth : Nat) (nested : Bool) (c : Cursor) (ts : List Token),
    c.tokens = tokensOf ps ++ ts → 2 * (tokensOf ps).length + 1 ≤ depth →
    ∃ depth' start value c',
      readOperand depth nested c = readSuffixes depth' nested start value c' ∧
      depth ≤ depth' + 2 * (tokensOf ps).length ∧ value.bare = e.bare ∧ c'.tokens = ts

/-- Whether the first operand of pieces is read, and then operators up to their end, as parts of the
value `e`, when they may stand where `level` is asked for. -/
def ReadsSpine (level tail : Nat) (ps : List Piece) (e : Expr) : Prop :=
  ∀ (depth power : Nat) (nested : Bool) (c : Cursor) (ts : List Token), power ≤ level →
    c.tokens = tokensOf ps ++ ts → Stops tail ts → 2 * (tokensOf ps).length + 2 ≤ depth →
    ∃ depth' value c', readExpr depth nested power c = readInfix depth' nested power value c' ∧
      depth ≤ depth' + 2 * (tokensOf ps).length ∧ value.bare = e.bare ∧ c'.tokens = ts

/-- Whether pieces are read as the value `e` where `power` is asked for. -/
def ReadsWhole (power : Nat) (ps : List Piece) (e : Expr) : Prop :=
  ∀ (depth : Nat) (nested : Bool) (c : Cursor) (ts : List Token),
    c.tokens = tokensOf ps ++ ts → Stops power ts → 2 * (tokensOf ps).length + 2 ≤ depth →
    ∃ value c', readExpr depth nested power c = .ok (value, c') ∧ value.bare = e.bare ∧
      c'.tokens = ts

section Conversions

variable {level tail power : Nat} {ps : List Piece} {e : Expr}

/-- A spine whose operators bind strongly enough is a whole expression. -/
theorem ReadsSpine.whole (h : ReadsSpine level tail ps e) (hlevel : power ≤ level)
    (htail : power ≤ tail) : ReadsWhole power ps e := by
  intro depth nested c ts hc hstop hdepth
  obtain ⟨depth', value, c', hread, hcost, hvalue, rfl⟩ :=
    h depth power nested c ts hlevel hc (hstop.mono htail) hdepth
  obtain ⟨d, rfl⟩ : ∃ d, depth' = d + 1 := ⟨depth' - 1, by omega⟩
  exact ⟨value, c', by rw [hread, readInfix_stop hstop], hvalue, rfl⟩

/-- An operand is a spine without operators. -/
theorem ReadsOperand.spine (h : ReadsOperand ps e) (hps : 0 < (tokensOf ps).length) :
    ReadsSpine level suffixPower ps e := by
  intro depth power nested c ts _ hc hstop hdepth
  obtain ⟨d, rfl⟩ : ∃ d, depth = d + 1 := ⟨depth - 1, by omega⟩
  obtain ⟨depth', start, value, c', hread, hcost, hvalue, rfl⟩ :=
    h d nested c ts hc (by omega)
  obtain ⟨d', rfl⟩ : ∃ d', depth' = d' + 1 := ⟨depth' - 1, by omega⟩
  rw [readSuffixes_stop hstop] at hread
  exact ⟨d, value, c', readExpr_step hread, by omega, hvalue, rfl⟩

/-- Whatever stands in parentheses is an operand. -/
theorem ReadsWhole.operand (h : ReadsWhole 0 ps e) :
    ReadsOperand (.sign .leftParen :: ps ++ [.sign .rightParen]) e := by
  intro depth nested c ts hc hdepth
  simp only [List.cons_append, tokensOf_sign, tokensOf_append, tokensOf_nil, List.append_assoc,
    List.nil_append, List.length_cons, List.length_append, List.length_nil] at hc hdepth ⊢
  obtain ⟨d, rfl⟩ : ∃ d, depth = d + 1 := ⟨depth - 1, by omega⟩
  obtain ⟨value, c', hread, hvalue, hc'⟩ := h d true c.next _ (Cursor.tokens_next hc)
    (stops_close rfl nofun nofun nofun) (by omega)
  exact ⟨d, _, value, c'.next, readOperand_paren hc hread hc', by omega, hvalue,
    Cursor.tokens_next hc'⟩

end Conversions

/-- Whether an expression is read back wherever it may stand. -/
structure Reads (e : Expr) : Prop where
  spine : ReadsSpine e.level e.tail e.inner e
  operand : e.level = suffixPower → ReadsOperand e.inner e

namespace Reads

variable {e : Expr}

theorem tokensOf_token_pos {t : Token} (ps qs : List Piece) :
    0 < (tokensOf (ps ++ .token t :: qs)).length := by
  rw [tokensOf_append, List.length_append, tokensOf_token]
  exact Nat.succ_pos _

/-- A primary, or one with members, indices and calls behind it. -/
theorem of_operand (htail : e.tail = suffixPower) (hinner : 0 < (tokensOf e.inner).length)
    (h : ReadsOperand e.inner e) : Reads e :=
  ⟨htail ▸ h.spine hinner, fun _ => h⟩

/-- An operator with its operands. -/
theorem of_spine (hlevel : e.level < suffixPower) (h : ReadsSpine e.level e.tail e.inner e) :
    Reads e :=
  ⟨h, fun heq => absurd heq (Nat.ne_of_lt hlevel)⟩

theorem inner_whole (h : Reads e) : ReadsWhole 0 e.inner e :=
  h.spine.whole (Nat.zero_le _) (Nat.zero_le _)

theorem enclosed_operand (h : Reads e) :
    ReadsOperand (enclose suffixPower e.level e.inner) e := by
  unfold enclose
  split
  · exact h.inner_whole.operand
  · next hlevel => exact h.operand (Nat.le_antisymm e.level_le_suffixPower (Nat.not_lt.mp hlevel))

theorem enclosed_spine (h : Reads e) (power : Nat) :
    ReadsSpine power (e.reach power) (enclose power e.level e.inner) e := by
  unfold enclose Expr.reach
  split
  · exact h.inner_whole.operand.spine (Nat.succ_pos _)
  · next hlevel =>
    intro depth power' nested c ts hpower
    exact h.spine depth power' nested c ts (Nat.le_trans hpower (Nat.not_lt.mp hlevel))

theorem enclosed_whole (h : Reads e) (power : Nat) (hpower : power ≤ suffixPower) :
    ReadsWhole power (enclose power e.level e.inner) e :=
  (h.enclosed_spine power).whole (Nat.le_refl _) (Expr.le_reach hpower)

/-! ## The constructors -/

/-- A token that is an operand. -/
theorem of_token {t : Token} (htail : e.tail = suffixPower) (hinner : e.inner = [.token t])
    (hvalue : ∀ span, ∃ value, t.operand? span = some value ∧ value.bare = e.bare) : Reads e := by
  refine of_operand htail (by rw [hinner]; exact Nat.one_pos) ?_
  rw [hinner]
  intro depth nested c ts hc hdepth
  obtain ⟨d, rfl⟩ : ∃ d, depth = d + 1 := ⟨depth - 1, by omega⟩
  obtain ⟨value, hvalue, hbare⟩ := hvalue c.here
  exact ⟨d, _, value, c.next, readOperand_token hc hvalue, by simp, hbare, Cursor.tokens_next hc⟩

variable {object operand place left right condition yes no : Expr}

theorem member (h : Reads object) (field : String) (span : Span) :
    Reads (.member object field span) := by
  refine of_operand rfl (tokensOf_token_pos _ _) ?_
  intro depth nested c ts hc hdepth
  simp only [Expr.inner, tokensOf_append, tokensOf_sign, tokensOf_token, tokensOf_nil,
    List.append_assoc, List.cons_append, List.nil_append, List.length_append, List.length_cons,
    List.length_nil] at hc hdepth ⊢
  obtain ⟨depth', start, value, c', hread, hcost, hvalue, hc'⟩ :=
    h.enclosed_operand depth nested c _ hc (by omega)
  obtain ⟨d, rfl⟩ : ∃ d, depth' = d + 1 := ⟨depth' - 1, by omega⟩
  rw [readSuffixes_member hc'] at hread
  refine ⟨d, start, _, _, hread, by omega, ?_, Cursor.tokens_next (Cursor.tokens_next hc')⟩
  rw [Expr.bare, Expr.bare, hvalue]

theorem index (h : Reads object) (hplace : Reads place) (span : Span) :
    Reads (.index object place span) := by
  refine of_operand rfl (tokensOf_token_pos _ _) ?_
  intro depth nested c ts hc hdepth
  simp only [Expr.inner, tokensOf_append, tokensOf_sign, tokensOf_nil, List.append_assoc,
    List.cons_append, List.nil_append, List.length_append, List.length_cons, List.length_nil]
    at hc hdepth ⊢
  obtain ⟨depth', start, value, c', hread, hcost, hvalue, hc'⟩ :=
    h.enclosed_operand depth nested c _ hc (by omega)
  obtain ⟨d, rfl⟩ : ∃ d, depth' = d + 1 := ⟨depth' - 1, by omega⟩
  obtain ⟨placeValue, after, hreadPlace, hplaceValue, hafter⟩ := hplace.inner_whole d true c'.next _
    (Cursor.tokens_next hc') (stops_close rfl nofun nofun nofun) (by omega)
  rw [readSuffixes_index hc' hreadPlace hafter] at hread
  refine ⟨d, start, _, _, hread, by omega, ?_, Cursor.tokens_next hafter⟩
  rw [Expr.bare, Expr.bare, hvalue, hplaceValue]

theorem unary (h : Reads operand) (op : UnaryOp) : Reads (.unary op operand) := by
  refine of_spine (by decide : unaryPower < suffixPower) ?_
  intro depth power nested c ts hpower hc hstop hdepth
  simp only [Expr.inner, tokensOf_sign, List.cons_append, List.length_cons] at hc hdepth ⊢
  obtain ⟨d, rfl⟩ : ∃ d, depth = d + 2 := ⟨depth - 2, by omega⟩
  obtain ⟨value, c', hread, hvalue, hc'⟩ := h.enclosed_whole unaryPower (by decide) d
    nested c.next ts (Cursor.tokens_next hc) hstop (by omega)
  refine ⟨d + 1, _, c', readExpr_step (readOperand_unary hc hread), by omega, ?_, hc'⟩
  rw [Expr.bare, Expr.bare, hvalue]

theorem binary (hleft : Reads left) (hright : Reads right) (op : BinaryOp) :
    Reads (.binary op left right) := by
  obtain ⟨hlow, hhigh⟩ := op.power_bounds
  have hbound : op.power + 1 < suffixPower := Nat.lt_trans hhigh (by decide)
  refine of_spine (Nat.lt_of_succ_lt hbound) ?_
  intro depth power nested c ts hpower hc hstop hdepth
  simp only [Expr.inner, tokensOf_append, tokensOf_blank, tokensOf_sign, List.append_assoc,
    List.cons_append, List.length_append, List.length_cons] at hc hdepth ⊢
  -- The operator behind the left operand binds too weakly to become part of it.
  have hreach : op.power < left.reach op.power := Expr.lt_reach hlow (Nat.lt_of_succ_lt hhigh)
  obtain ⟨depth', leftValue, c', hread, hcost, hleftValue, hc'⟩ :=
    hleft.enclosed_spine op.power depth power nested c _ hpower hc
      (stops_symbol (infixPowers?_symbol op) hreach) (by omega)
  obtain ⟨d, rfl⟩ : ∃ d, depth' = d + 1 := ⟨depth' - 1, by omega⟩
  obtain ⟨rightValue, c'', hreadRight, hrightValue, hc''⟩ :=
    hright.enclosed_whole (op.power + 1) (Nat.le_of_lt hbound) d nested c'.next ts
      (Cursor.tokens_next hc') hstop (by omega)
  rw [readInfix_binary hc' hpower hreadRight] at hread
  refine ⟨d, _, c'', hread, by omega, ?_, hc''⟩
  rw [Expr.bare, Expr.bare, hleftValue, hrightValue]

theorem conditional (hcondition : Reads condition) (hyes : Reads yes) (hno : Reads no) :
    Reads (.conditional condition yes no) := by
  refine of_spine (by decide : conditionalPower < suffixPower) ?_
  intro depth power nested c ts hpower hc hstop hdepth
  simp only [Expr.inner, tokensOf_append, tokensOf_blank, tokensOf_sign, List.append_assoc,
    List.cons_append, List.length_append, List.length_cons] at hc hdepth ⊢
  have hreach : conditionalPower < condition.reach (conditionalPower + 1) :=
    Nat.lt_of_lt_of_le (Nat.lt_succ_self _) (Expr.le_reach (by decide))
  have hquestion : infixPowers? .question = some (conditionalPower, conditionalPower) := rfl
  obtain ⟨depth', value, c', hread, hcost, hvalue, hc'⟩ :=
    hcondition.enclosed_spine (conditionalPower + 1) depth power nested c _
      (Nat.le_succ_of_le hpower) hc (stops_symbol hquestion hreach) (by omega)
  obtain ⟨d, rfl⟩ : ∃ d, depth' = d + 1 := ⟨depth' - 1, by omega⟩
  obtain ⟨yesValue, afterYes, hreadYes, hyesValue, hafterYes⟩ := hyes.inner_whole d true c'.next _
    (Cursor.tokens_next hc') (stops_close rfl nofun nofun nofun) (by omega)
  obtain ⟨noValue, afterNo, hreadNo, hnoValue, hafterNo⟩ :=
    hno.enclosed_whole conditionalPower (by decide) d nested afterYes.next ts
      (Cursor.tokens_next hafterYes) hstop (by omega)
  rw [readInfix_conditional hc' hpower hreadYes hafterYes hreadNo] at hread
  refine ⟨d, _, afterNo, hread, by omega, ?_, hafterNo⟩
  rw [Expr.bare, Expr.bare, hvalue, hyesValue, hnoValue]

end Reads

/-! ## Lists of expressions -/

/-- The symbols that end a list of expressions. -/
def Symbol.Closes (close : Symbol) : Prop := close = .rightBracket ∨ close = .rightParen

theorem Symbol.Closes.stops {close : Symbol} (h : close.Closes) (power : Nat) (ts : List Token) :
    Stops power (.symbol close :: ts) := by
  obtain rfl | rfl := h <;> exact stops_close rfl nofun nofun nofun

theorem Symbol.Closes.ne_comma {close : Symbol} (h : close.Closes) : close ≠ .comma := by
  obtain rfl | rfl := h <;> nofun

/-- No operand starts with the end of a list or with a line break. -/
theorem Token.not_closes_of_opens {t : Token} (h : t.opens = true) : t.isLineBreak = false ∧
    t.isSeparator = false ∧ t.is .rightBrace = false ∧
    ∀ close : Symbol, close.Closes → t.is close = false := by
  unfold Token.opens at h
  have hclose {t : Token} (hbracket : t.is .rightBracket = false)
      (hparen : t.is .rightParen = false) (close : Symbol) (h : close.Closes) :
      t.is close = false := by
    obtain rfl | rfl := h
    · exact hbracket
    · exact hparen
  split at h <;> first
    | exact ⟨rfl, rfl, rfl, hclose rfl rfl⟩
    | exact absurd h Bool.false_ne_true

/-- The items of a list are read up to the symbol that ends it. -/
theorem readItems_all {close : Symbol} (what : Expected) (hclose : close.Closes) :
    ∀ (items : List Expr), (∀ e ∈ items, Reads e ∧ Opens e.inner) →
    ∀ (depth : Nat) (c : Cursor) (ts : List Token),
    c.tokens = tokensOf (Expr.innerAll items) ++ .symbol close :: ts →
    2 * (tokensOf (Expr.innerAll items)).length + 3 ≤ depth →
    ∃ values c', readItems depth close what c = .ok (values, c') ∧
      Expr.bareAll values = Expr.bareAll items ∧ c'.tokens = ts
  | [], _, depth, c, ts, hc, hdepth => by
    obtain ⟨d, rfl⟩ : ∃ d, depth = d + 1 := ⟨depth - 1, by omega⟩
    exact ⟨[], c.next, readItems_nil hc, rfl, Cursor.tokens_next hc⟩
  | [e], hitems, depth, c, ts, hc, hdepth => by
    obtain ⟨hreads, t, qs, hinner, ht⟩ := hitems e List.mem_cons_self
    obtain ⟨hbreak, -, -, hopen⟩ := Token.not_closes_of_opens ht
    rw [Expr.innerAll] at hc hdepth
    obtain ⟨d, rfl⟩ : ∃ d, depth = d + 1 := ⟨depth - 1, by omega⟩
    obtain ⟨value, c', hread, hvalue, hc'⟩ :=
      hreads.inner_whole d true c _ hc (hclose.stops _ _) (by omega)
    rw [hinner, tokensOf_token, List.cons_append] at hc
    refine ⟨[value], c'.next, ?_, ?_, Cursor.tokens_next hc'⟩
    · rw [readItems_item hc hbreak (hopen close hclose) hread hc', if_neg hclose.ne_comma,
        if_pos rfl]
    · rw [Expr.bareAll, Expr.bareAll, Expr.bareAll, Expr.bareAll, hvalue]
  | e :: f :: es, hitems, depth, c, ts, hc, hdepth => by
    obtain ⟨hreads, t, qs, hinner, ht⟩ := hitems e List.mem_cons_self
    obtain ⟨hbreak, -, -, hopen⟩ := Token.not_closes_of_opens ht
    rw [Expr.innerAll, tokensOf_append, tokensOf_sign, tokensOf_blank] at hc hdepth
    rw [List.append_assoc, List.cons_append] at hc
    rw [List.length_append, List.length_cons] at hdepth
    obtain ⟨d, rfl⟩ : ∃ d, depth = d + 1 := ⟨depth - 1, by omega⟩
    obtain ⟨value, c', hread, hvalue, hc'⟩ := hreads.inner_whole d true c _ hc
      (stops_close rfl nofun nofun nofun) (by omega)
    obtain ⟨values, c'', hrest, hvalues, hc''⟩ := readItems_all what hclose (f :: es)
      (fun g hg => hitems g (List.mem_cons_of_mem e hg)) d c'.next ts (Cursor.tokens_next hc')
      (by omega)
    rw [hinner, tokensOf_token, List.cons_append] at hc
    refine ⟨value :: values, c'', ?_, ?_, hc''⟩
    · rw [readItems_item hc hbreak (hopen close hclose) hread hc', if_pos rfl, hrest]
      rfl
    · rw [Expr.bareAll, Expr.bareAll, hvalue, hvalues]

namespace Reads

variable {callee : Expr} {items : List Expr}

theorem list (h : ∀ e ∈ items, Reads e ∧ Opens e.inner) : Reads (.list items) := by
  refine of_operand rfl (Nat.succ_pos _) ?_
  intro depth nested c ts hc hdepth
  simp only [Expr.inner, tokensOf_append, tokensOf_sign, tokensOf_nil, List.append_assoc,
    List.cons_append, List.nil_append, List.length_append, List.length_cons, List.length_nil]
    at hc hdepth ⊢
  obtain ⟨d, rfl⟩ : ∃ d, depth = d + 1 := ⟨depth - 1, by omega⟩
  obtain ⟨values, c', hread, hvalues, hc'⟩ := readItems_all .commaOrBracket (.inl rfl)
    items h d c.next ts (Cursor.tokens_next hc) (by omega)
  refine ⟨d, _, _, c', readOperand_list hc hread, by omega, ?_, hc'⟩
  rw [Expr.bare, Expr.bare, hvalues]

theorem call (h : Reads callee) (hargs : ∀ e ∈ items, Reads e ∧ Opens e.inner) (span : Span) :
    Reads (.call callee items span) := by
  refine of_operand rfl (tokensOf_token_pos _ _) ?_
  intro depth nested c ts hc hdepth
  simp only [Expr.inner, tokensOf_append, tokensOf_sign, tokensOf_nil, List.append_assoc,
    List.cons_append, List.nil_append, List.length_append, List.length_cons, List.length_nil]
    at hc hdepth ⊢
  obtain ⟨depth', start, value, c', hread, hcost, hvalue, hc'⟩ :=
    h.enclosed_operand depth nested c _ hc (by omega)
  obtain ⟨d, rfl⟩ : ∃ d, depth' = d + 1 := ⟨depth' - 1, by omega⟩
  obtain ⟨values, after, hreadArgs, hvalues, hafter⟩ := readItems_all .commaOrParen
    (.inr rfl) items hargs d c'.next ts (Cursor.tokens_next hc') (by omega)
  rw [readSuffixes_call hc' hreadArgs] at hread
  refine ⟨d, start, _, after, hread, by omega, ?_, hafter⟩
  rw [Expr.bare, Expr.bare, hvalue, hvalues]

end Reads

/-! ## All expressions -/

mutual

/-- **Every printable expression is read back wherever it may stand.** -/
theorem Expr.reads : (e : Expr) → e.Printable → Reads e
  | .text value, _ => .of_token rfl rfl fun _ => ⟨.text value, rfl, rfl⟩
  | .number value, _ => .of_token rfl rfl fun _ => ⟨.number value, rfl, rfl⟩
  | .flag true, _ => .of_token rfl rfl fun _ => ⟨.flag true, rfl, rfl⟩
  | .flag false, _ => .of_token rfl rfl fun _ => ⟨.flag false, rfl, rfl⟩
  | .null, _ => .of_token rfl rfl fun _ => ⟨.null, rfl, rfl⟩
  | .list items, h => .list (Expr.readsAll items h)
  | .template _, h => False.elim h
  | .identifier name _, _ => .of_token rfl rfl fun span => ⟨.identifier name span, rfl, rfl⟩
  | .member object field span, h => .member (object.reads h.1) field span
  | .index object place span, h => .index (object.reads h.1) (place.reads h.2) span
  | .call callee args span, h => .call (callee.reads h.1) (Expr.readsAll args h.2) span
  | .unary op operand, h => .unary (operand.reads h) op
  | .binary op left right, h => .binary (left.reads h.1) (right.reads h.2) op
  | .conditional condition yes no, h =>
    .conditional (condition.reads h.1) (yes.reads h.2.1) (no.reads h.2.2)

theorem Expr.readsAll : (es : List Expr) → Expr.PrintableAll es →
    ∀ e ∈ es, Reads e ∧ Opens e.inner
  | [], _ => nofun
  | e :: es, h => fun f hf => by
    have he := e.reads h.1
    have hes := Expr.readsAll es h.2
    obtain rfl | hmem := List.mem_cons.mp hf
    · exact ⟨he, Expr.inner_opens _ h.1⟩
    · exact hes f hmem

end

end Stencil.Script
