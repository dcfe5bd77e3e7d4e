import Stencil.Proofs.Script.Print

/-!
# Steps of the parser

What each function of the parser does at a token, one step at a time. Only the tokens of a cursor
matter here: spans do not decide anything.

* `Cursor.tokens` are the tokens that are left.
* `Token.goesOn`: the tokens that make the parser go on after an operand when operators have to bind
  at least as strongly as the given power; `Stops` says that none stands next.
* `readExpr_step`, `readInfix_binary`, `readSuffixes_member` and so on: one step each.
-/

namespace Stencil.Script

/-! ## Cursors -/

namespace Cursor

/-- The tokens that are left. -/
def tokens (c : Cursor) : List Token := c.rest.map Lexeme.token

variable {c : Cursor} {t : Token} {ts : List Token} {p : Token → Bool} {nested : Bool}

theorem token?_eq_head? (c : Cursor) : c.token? = c.tokens.head? := by
  unfold token? tokens
  cases c.rest <;> rfl

theorem token?_of_tokens (h : c.tokens = t :: ts) : c.token? = some t := by
  rw [token?_eq_head?, h, List.head?_cons]

/-- The next token comes before the tokens behind it. -/
theorem tokens_of_token? (h : c.token? = some t) : c.tokens = t :: c.next.tokens := by
  obtain ⟨_ | ⟨lexeme, rest⟩, last, stop⟩ := c
  · exact nomatch h
  · rw [← Option.some.inj h]
    rfl

theorem tokens_next (h : c.tokens = t :: ts) : c.next.tokens = ts := by
  obtain ⟨rest, last, stop⟩ := c
  cases rest with
  | nil => exact nomatch h
  | cons lexeme rest => exact (List.cons.inj h).2

/-- Nothing is skipped where the next token is not to be skipped. -/
theorem skipWhile_eq (h : ∀ t ∈ c.tokens.head?, p t = false) : c.skipWhile p = c := by
  obtain ⟨rest, last, stop⟩ := c
  cases rest with
  | nil => rfl
  | cons lexeme rest =>
    have hp := Bool.eq_false_iff.mp (h lexeme.token rfl)
    unfold skipWhile
    dsimp only
    rw [List.takeWhile_cons_of_neg (p := fun l : Lexeme => p l.token) hp,
      List.dropWhile_cons_of_neg (p := fun l : Lexeme => p l.token) hp]
    rfl

theorem skipWhile_of_tokens (h : c.tokens = t :: ts) (ht : p t = false) : c.skipWhile p = c :=
  skipWhile_eq fun u hu => by
    rw [h] at hu
    exact Option.some.inj hu ▸ ht

/-- One token is skipped, and none after it. -/
theorem tokens_skipWhile (h : c.tokens = t :: ts) (ht : p t = true)
    (hts : ∀ t ∈ ts.head?, p t = false) : (c.skipWhile p).tokens = ts := by
  obtain ⟨rest, last, stop⟩ := c
  cases rest with
  | nil => exact nomatch h
  | cons lexeme rest =>
    obtain ⟨rfl, rfl⟩ := List.cons.inj h
    show ((lexeme :: rest).dropWhile fun lexeme => p lexeme.token).map Lexeme.token = _
    rw [List.dropWhile_cons_of_pos (p := fun l : Lexeme => p l.token) ht]
    exact congrArg tokens (skipWhile_eq (c := ⟨rest, last, stop⟩) hts)

/-- What every step to the next lexeme keeps is kept when lexemes are skipped. -/
theorem skipWhile_of_next (P : Cursor → Prop) (hnext : ∀ {c : Cursor}, P c → P c.next)
    (p : Token → Bool) (h : P c) : P (c.skipWhile p) := by
  obtain ⟨rest, last, stop⟩ := c
  induction rest generalizing last with
  | nil => exact h
  | cons lexeme rest ih =>
    by_cases hp : p lexeme.token = true
    · have hskip : skipWhile p ⟨lexeme :: rest, last, stop⟩ =
          skipWhile p ⟨rest, lexeme.span.stop, stop⟩ := by
        unfold skipWhile
        dsimp only
        rw [List.takeWhile_cons_of_pos (p := fun l : Lexeme => p l.token) hp,
          List.dropWhile_cons_of_pos (p := fun l : Lexeme => p l.token) hp, List.getLast?_cons]
        cases (rest.takeWhile fun l => p l.token).getLast? <;> rfl
      rw [hskip]
      exact ih _ (hnext h)
    · have hskip : skipWhile p ⟨lexeme :: rest, last, stop⟩ = ⟨lexeme :: rest, last, stop⟩ :=
        skipWhile_eq fun t ht => Option.some.inj ht ▸ eq_false_of_ne_true hp
      rw [hskip]
      exact h

theorem settle_of_next (P : Cursor → Prop) (hnext : ∀ {c : Cursor}, P c → P c.next)
    (nested : Bool) (h : P c) : P (c.settle nested) := by
  unfold settle
  split
  · exact skipWhile_of_next P hnext _ h
  · exact h

theorem settle_eq (h : ∀ t ∈ c.tokens.head?, t.isLineBreak = false) : c.settle nested = c := by
  unfold settle
  split
  · exact skipWhile_eq h
  · rfl

theorem settle_of_tokens (h : c.tokens = t :: ts) (ht : t.isLineBreak = false) :
    c.settle nested = c := by
  unfold settle
  split
  · exact skipWhile_of_tokens h ht
  · rfl

theorem stands_of_tokens (h : c.tokens = t :: ts) (sign : Symbol) : c.stands sign = t.is sign := by
  unfold stands
  rw [token?_of_tokens h, Option.any_some]

theorem token?_of_stands {sign : Symbol} (h : c.stands sign = true) :
    c.token? = some (.symbol sign) := by
  unfold stands at h
  cases htoken : c.token? with
  | none =>
    rw [htoken] at h
    exact nomatch h
  | some t =>
    rw [htoken, Option.any_some] at h
    cases t with
    | symbol other => rw [of_decide_eq_true h]
    | _ => exact nomatch h

theorem token?_of_atKeyword {word : Keyword} (h : c.atKeyword word = true) :
    c.token? = some (.keyword word) := by
  unfold atKeyword at h
  split at h
  · next other htoken => rw [htoken, of_decide_eq_true h]
  · exact nomatch h

theorem expect_of_tokens {sign : Symbol} (h : c.tokens = .symbol sign :: ts) (nested : Bool)
    (what : Expected) : c.expect nested sign what = .ok (c.here, c.next) := by
  unfold expect
  dsimp only
  rw [settle_of_tokens h rfl, stands_of_tokens h, if_pos]
  exact decide_eq_true rfl

theorem expectName_of_tokens {name : String} (h : c.tokens = .name name :: ts) (nested : Bool) :
    c.expectName nested = .ok (name, c.here, c.next) := by
  unfold expectName
  dsimp only
  rw [settle_of_tokens h rfl, token?_of_tokens h]

end Cursor

/-! ## Where an expression ends -/

/-- Whether a token is an operator that binds at least as strongly as `power`. -/
def Token.isInfix (power : Nat) : Token → Bool
  | .symbol sign => (infixPowers? sign).any fun powers => power ≤ powers.1
  | _ => false

/-- Whether a token goes on after an operand when operators have to bind at least as strongly as
`power`. A line break does so between brackets; members, indices and calls always do. -/
def Token.goesOn (power : Nat) (t : Token) : Bool :=
  t.isLineBreak || t.is .dot || t.is .leftBracket || t.is .leftParen || t.isInfix power

/-- Whether an expression whose operators bind as strongly as `power` ends in front of tokens. -/
def Stops (power : Nat) (ts : List Token) : Prop := ∀ t ∈ ts.head?, t.goesOn power = false

theorem Token.goesOn_eq_false_iff {power : Nat} {t : Token} : t.goesOn power = false ↔
    t.isLineBreak = false ∧ t.is .dot = false ∧ t.is .leftBracket = false ∧
      t.is .leftParen = false ∧ t.isInfix power = false := by
  unfold Token.goesOn
  simp only [Bool.or_eq_false_iff, and_assoc]

theorem Token.isInfix_mono {power power' : Nat} {t : Token} (hle : power ≤ power')
    (h : t.isInfix power = false) : t.isInfix power' = false := by
  cases t with
  | symbol sign =>
    dsimp only [Token.isInfix] at *
    cases hpowers : infixPowers? sign with
    | none => rfl
    | some powers =>
      rw [hpowers, Option.any_some, decide_eq_false_iff_not] at h
      rw [Option.any_some, decide_eq_false_iff_not]
      omega
  | _ => rfl

theorem Stops.mono {power power' : Nat} {ts : List Token} (h : Stops power ts)
    (hle : power ≤ power') : Stops power' ts := by
  intro t ht
  obtain ⟨hbreak, hdot, hbracket, hparen, hinfix⟩ := Token.goesOn_eq_false_iff.mp (h t ht)
  exact Token.goesOn_eq_false_iff.mpr
    ⟨hbreak, hdot, hbracket, hparen, Token.isInfix_mono hle hinfix⟩

theorem Stops.isLineBreak {power : Nat} {ts : List Token} (h : Stops power ts) :
    ∀ t ∈ ts.head?, t.isLineBreak = false :=
  fun t ht => (Token.goesOn_eq_false_iff.mp (h t ht)).1

/-! ## Steps -/

section Steps

variable {depth power start : Nat} {nested : Bool} {c c' : Cursor} {ts : List Token}
  {left right value : Expr}

/-- After its first operand an expression goes on with operators. -/
theorem readExpr_step (h : readOperand depth nested c = .ok (left, c')) :
    readExpr (depth + 1) nested power c = readInfix depth nested power left c' := by
  rw [readExpr, h]
  rfl

theorem readInfix_stop (h : Stops power c.tokens) :
    readInfix (depth + 1) nested power left c = .ok (left, c) := by
  rw [readInfix]
  dsimp only
  rw [Cursor.settle_eq h.isLineBreak, Cursor.token?_eq_head?]
  split
  · next sign hsign =>
    have hinfix := (Token.goesOn_eq_false_iff.mp (h _ hsign)).2.2.2.2
    dsimp only [Token.isInfix] at hinfix
    split
    · rfl
    · next leftPower rightPower hpowers =>
      rw [hpowers, Option.any_some, decide_eq_false_iff_not, Nat.not_le] at hinfix
      rw [if_pos hinfix]
  · rfl

theorem infixPowers?_symbol (op : BinaryOp) :
    infixPowers? op.symbol = some (op.power, op.power + 1) := by
  cases op <;> rfl

theorem ofSymbol?_symbol (op : BinaryOp) : BinaryOp.ofSymbol? op.symbol = some op := by
  cases op <;> rfl

theorem readInfix_binary {op : BinaryOp} (h : c.tokens = .symbol op.symbol :: ts)
    (hpower : power ≤ op.power)
    (hright : readExpr depth nested (op.power + 1) c.next = .ok (right, c')) :
    readInfix (depth + 1) nested power left c =
      readInfix depth nested power (.binary op left right) c' := by
  rw [readInfix]
  dsimp only
  rw [Cursor.settle_of_tokens h rfl, Cursor.token?_of_tokens h]
  dsimp only
  rw [infixPowers?_symbol]
  dsimp only
  rw [if_neg (Nat.not_lt.mpr hpower), ofSymbol?_symbol]
  dsimp only
  rw [hright]
  rfl

theorem readInfix_conditional {yes no : Expr} {afterYes afterNo : Cursor} {us : List Token}
    (h : c.tokens = .symbol .question :: ts) (hpower : power ≤ conditionalPower)
    (hyes : readExpr depth true 0 c.next = .ok (yes, afterYes))
    (hcolon : afterYes.tokens = .symbol .colon :: us)
    (hno : readExpr depth nested conditionalPower afterYes.next = .ok (no, afterNo)) :
    readInfix (depth + 1) nested power left c =
      readInfix depth nested power (.conditional left yes no) afterNo := by
  rw [readInfix]
  dsimp only
  rw [Cursor.settle_of_tokens h rfl, Cursor.token?_of_tokens h]
  have hpowers : infixPowers? .question = some (conditionalPower, conditionalPower) := rfl
  have hop : BinaryOp.ofSymbol? .question = none := rfl
  dsimp only
  rw [hpowers]
  dsimp only
  rw [if_neg (Nat.not_lt.mpr hpower), hop]
  dsimp only
  rw [hyes]
  show (afterYes.expect nested .colon .colon >>= _) = _
  rw [Cursor.expect_of_tokens hcolon]
  show (readExpr depth nested conditionalPower afterYes.next >>= _) = _
  rw [hno]
  rfl

theorem readSuffixes_stop (h : Stops power c.tokens) :
    readSuffixes (depth + 1) nested start value c = .ok (value, c) := by
  rw [readSuffixes]
  dsimp only
  rw [Cursor.settle_eq h.isLineBreak, Cursor.token?_eq_head?]
  split
  · next hdot => exact absurd (Token.goesOn_eq_false_iff.mp (h _ hdot)).2.1 (by decide)
  · next hbracket => exact absurd (Token.goesOn_eq_false_iff.mp (h _ hbracket)).2.2.1 (by decide)
  · next hparen => exact absurd (Token.goesOn_eq_false_iff.mp (h _ hparen)).2.2.2.1 (by decide)
  · rfl

theorem readSuffixes_member {field : String} (h : c.tokens = .symbol .dot :: .name field :: ts) :
    readSuffixes (depth + 1) nested start value c = readSuffixes depth nested start
      (.member value field ⟨start, c.next.here.stop⟩) c.next.next := by
  rw [readSuffixes]
  dsimp only
  rw [Cursor.settle_of_tokens h rfl, Cursor.token?_of_tokens h]
  dsimp only
  rw [Cursor.expectName_of_tokens (Cursor.tokens_next h)]
  rfl

theorem readSuffixes_index {place : Expr} (h : c.tokens = .symbol .leftBracket :: ts)
    (hplace : readExpr depth true 0 c.next = .ok (place, c')) {us : List Token}
    (hclose : c'.tokens = .symbol .rightBracket :: us) :
    readSuffixes (depth + 1) nested start value c = readSuffixes depth nested start
      (.index value place ⟨start, c'.here.stop⟩) c'.next := by
  rw [readSuffixes]
  dsimp only
  rw [Cursor.settle_of_tokens h rfl, Cursor.token?_of_tokens h]
  dsimp only
  rw [hplace]
  show (c'.expect true .rightBracket .closeBracket >>= _) = _
  rw [Cursor.expect_of_tokens hclose]
  rfl

theorem readSuffixes_call {args : List Expr} (h : c.tokens = .symbol .leftParen :: ts)
    (hargs : readItems depth .rightParen .commaOrParen c.next = .ok (args, c')) :
    readSuffixes (depth + 1) nested start value c = readSuffixes depth nested start
      (.call value args ⟨start, c'.last⟩) c' := by
  rw [readSuffixes]
  dsimp only
  rw [Cursor.settle_of_tokens h rfl, Cursor.token?_of_tokens h]
  dsimp only
  rw [hargs]
  rfl

/-- The operand that a single token is. -/
def Token.operand? (span : Span) : Token → Option Expr
  | .number value => some (.number value)
  | .text value => some (.text value)
  | .keyword .yes => some (.flag true)
  | .keyword .no => some (.flag false)
  | .keyword .null => some .null
  | .name word => some (.identifier word span)
  | _ => none

theorem readOperand_token {t : Token} (h : c.tokens = t :: ts)
    (ht : t.operand? c.here = some value) : readOperand (depth + 1) nested c =
      readSuffixes depth nested c.here.start value c.next := by
  have hbreak : t.isLineBreak = false := by
    cases t <;> first | rfl | cases ht
  rw [readOperand]
  dsimp only
  rw [Cursor.skipWhile_of_tokens h hbreak, Cursor.token?_of_tokens h]
  unfold Token.operand? at ht
  split at ht <;> first | exact Option.some.inj ht ▸ rfl | cases ht

theorem readOperand_unary {op : UnaryOp} (h : c.tokens = .symbol op.symbol :: ts)
    (hoperand : readExpr depth nested unaryPower c.next = .ok (value, c')) :
    readOperand (depth + 1) nested c = .ok (.unary op value, c') := by
  rw [readOperand]
  dsimp only
  rw [Cursor.skipWhile_of_tokens h rfl, Cursor.token?_of_tokens h]
  cases op with
  | negate =>
    dsimp only [UnaryOp.symbol]
    rw [hoperand]
    rfl
  | not =>
    dsimp only [UnaryOp.symbol]
    rw [hoperand]
    rfl

theorem readOperand_paren (h : c.tokens = .symbol .leftParen :: ts)
    (hvalue : readExpr depth true 0 c.next = .ok (value, c')) {us : List Token}
    (hclose : c'.tokens = .symbol .rightParen :: us) : readOperand (depth + 1) nested c =
      readSuffixes depth nested c.here.start value c'.next := by
  rw [readOperand]
  dsimp only
  rw [Cursor.skipWhile_of_tokens h rfl, Cursor.token?_of_tokens h]
  dsimp only
  rw [hvalue]
  show (c'.expect true .rightParen .closeParen >>= _) = _
  rw [Cursor.expect_of_tokens hclose]
  rfl

theorem readOperand_list {items : List Expr} (h : c.tokens = .symbol .leftBracket :: ts)
    (hitems : readItems depth .rightBracket .commaOrBracket c.next = .ok (items, c')) :
    readOperand (depth + 1) nested c =
      readSuffixes depth nested c.here.start (.list items) c' := by
  rw [readOperand]
  dsimp only
  rw [Cursor.skipWhile_of_tokens h rfl, Cursor.token?_of_tokens h]
  dsimp only
  rw [hitems]
  rfl

variable {close : Symbol} {what : Expected} {item : Expr} {items : List Expr} {us : List Token}

theorem readItems_nil (h : c.tokens = .symbol close :: ts) :
    readItems (depth + 1) close what c = .ok ([], c.next) := by
  rw [readItems]
  dsimp only
  rw [Cursor.settle_of_tokens h rfl, Cursor.stands_of_tokens h, if_pos]
  exact decide_eq_true rfl

/-- An item that does not start with the closing symbol is read before the symbol after it is
looked at. -/
theorem readItems_item {t : Token} {c : Cursor} (h : c.tokens = t :: ts)
    (hbreak : t.isLineBreak = false) (hopen : t.is close = false)
    (hitem : readExpr depth true 0 c = .ok (item, c')) {sign : Symbol}
    (hsign : c'.tokens = .symbol sign :: us) : readItems (depth + 1) close what c =
      if sign = .comma then
        (readItems depth close what c'.next).map fun (items, c) => (item :: items, c)
      else if sign = close then .ok ([item], c'.next)
      else c'.fail (.expected what) := by
  rw [readItems]
  dsimp only
  rw [Cursor.settle_of_tokens h hbreak, Cursor.stands_of_tokens h, hopen, if_neg (by decide), hitem]
  show (if (c'.settle true).stands .comma = true then _ else _) = _
  rw [Cursor.settle_of_tokens hsign rfl, Cursor.stands_of_tokens hsign,
    Cursor.stands_of_tokens hsign]
  show (if decide (sign = .comma) = true then _
    else if decide (sign = close) = true then _ else _) = _
  simp only [decide_eq_true_eq]
  split
  · cases readItems depth close what c'.next <;> rfl
  · rfl

end Steps

end Stencil.Script
