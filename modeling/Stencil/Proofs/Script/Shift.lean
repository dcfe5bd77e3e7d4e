import Mathlib.Tactic.SplitIfs
import Stencil.Script.Parse

/-!
# Scripts anywhere in a source

Where a script stands in its source shows in the spans of what is read, and nowhere else.

* `Shift`: what holds offsets into a source, and how they grow when the source gets more bytes in
  front. Everything that the parser works with is an instance.
* `bind_shift` and `map_shift` move a computation step by step.
* `lexemes_shift` and `rawParts_shift`: lexemes and pieces of template literals.
* `Cursor.token?_shift`, `Cursor.skipWhile_shift` and so on: what a parser asks of a position.
-/

namespace Stencil.Script

open Text

/-! ## What holds offsets -/

/-- What holds offsets into a source. -/
class Shift (α : Type) where
  /-- The same in a source with `n` more bytes in front. -/
  shift (n : Nat) : α → α

export Shift (shift)

variable {α β : Type} [Shift α] [Shift β]

instance : Shift String := ⟨fun _ s => s⟩
instance : Shift Char := ⟨fun _ c => c⟩
instance : Shift Span := ⟨fun n s => ⟨n + s.start, n + s.stop⟩⟩
instance : Shift Fault := ⟨fun n fault => { fault with span := shift n fault.span }⟩
instance : Shift (List α) := ⟨fun n => List.map (shift n)⟩
instance : Shift (Option α) := ⟨fun n => Option.map (shift n)⟩
instance : Shift (α × β) := ⟨fun n => Prod.map (shift n) (shift n)⟩

instance : Shift (Except Fault α) :=
  ⟨fun n result =>
    match result with
    | .ok a => .ok (shift n a)
    | .error fault => .error (shift n fault)⟩

instance : Shift Token :=
  ⟨fun n t =>
    match t with
    | .template body offset => .template body (n + offset)
    | t => t⟩

instance : Shift Lexeme := ⟨fun n lexeme => ⟨shift n lexeme.token, shift n lexeme.span⟩⟩
instance : Shift Cursor := ⟨fun n c => ⟨shift n c.rest, n + c.last, n + c.stop⟩⟩

instance : Shift RawPart :=
  ⟨fun n part =>
    match part with
    | .literal text => .literal text
    | .hole offset body => .hole (n + offset) body
    | .unclosed offset => .unclosed (n + offset)⟩

mutual

/-- An expression in a source with `n` more bytes in front. -/
def Expr.shifted (n : Nat) : Expr → Expr
  | .text value => .text value
  | .number value => .number value
  | .flag value => .flag value
  | .null => .null
  | .list items => .list (Expr.shiftedAll n items)
  | .template parts => .template (Part.shiftedAll n parts)
  | .identifier name span => .identifier name (shift n span)
  | .member object field span => .member (object.shifted n) field (shift n span)
  | .index object place span => .index (object.shifted n) (place.shifted n) (shift n span)
  | .call callee args span => .call (callee.shifted n) (Expr.shiftedAll n args) (shift n span)
  | .unary op operand => .unary op (operand.shifted n)
  | .binary op left right => .binary op (left.shifted n) (right.shifted n)
  | .conditional condition yes no =>
    .conditional (condition.shifted n) (yes.shifted n) (no.shifted n)

/-- The expressions of a list, moved. -/
def Expr.shiftedAll (n : Nat) : List Expr → List Expr
  | [] => []
  | e :: es => e.shifted n :: Expr.shiftedAll n es

/-- A part of a template literal, moved. -/
def Part.shifted (n : Nat) : Part → Part
  | .literal value => .literal value
  | .hole value => .hole (value.shifted n)

/-- The parts of a template literal, moved. -/
def Part.shiftedAll (n : Nat) : List Part → List Part
  | [] => []
  | p :: ps => p.shifted n :: Part.shiftedAll n ps

end

instance : Shift Expr := ⟨Expr.shifted⟩
instance : Shift Part := ⟨Part.shifted⟩

mutual

/-- A statement in a source with `n` more bytes in front. -/
def Statement.shifted (n : Nat) : Statement → Statement
  | .assign name value declare span =>
    .assign name (shift n value) declare (shift n span)
  | .expr value span => .expr (shift n value) (shift n span)
  | .branch condition yes no span =>
    .branch (shift n condition) (Statement.shiftedAll n yes) (Statement.shiftedAll n no)
      (shift n span)

/-- The statements of a list, moved. -/
def Statement.shiftedAll (n : Nat) : List Statement → List Statement
  | [] => []
  | s :: ss => s.shifted n :: Statement.shiftedAll n ss

end

instance : Shift Statement := ⟨Statement.shifted⟩

theorem Expr.shiftedAll_eq (n : Nat) (es : List Expr) : Expr.shiftedAll n es = shift n es := by
  induction es with
  | nil => rfl
  | cons e es ih => rw [Expr.shiftedAll, ih]; rfl

theorem Part.shiftedAll_eq (n : Nat) (ps : List Part) : Part.shiftedAll n ps = shift n ps := by
  induction ps with
  | nil => rfl
  | cons p ps ih => rw [Part.shiftedAll, ih]; rfl

theorem Statement.shiftedAll_eq (n : Nat) (ss : List Statement) :
    Statement.shiftedAll n ss = shift n ss := by
  induction ss with
  | nil => rfl
  | cons s ss ih => rw [Statement.shiftedAll, ih]; rfl

section Trees

variable (n : Nat)

theorem Expr.shift_listOf (items : List Expr) :
    shift n (Expr.list items) = .list (shift n items) := by
  rw [← Expr.shiftedAll_eq]
  rfl

theorem Expr.shift_template (parts : List Part) :
    shift n (Expr.template parts) = .template (shift n parts) := by
  rw [← Part.shiftedAll_eq]
  rfl

theorem Expr.shift_call (callee : Expr) (args : List Expr) (span : Span) :
    shift n (Expr.call callee args span) =
      .call (shift n callee) (shift n args) (shift n span) := by
  rw [← Expr.shiftedAll_eq]
  rfl

theorem Statement.shift_branch (condition : Expr) (yes no : List Statement) (span : Span) :
    shift n (Statement.branch condition yes no span) =
      .branch (shift n condition) (shift n yes) (shift n no)
        (shift n span) := by
  rw [← Statement.shiftedAll_eq, ← Statement.shiftedAll_eq]
  rfl

end Trees

section Lemmas

variable (n : Nat)

@[simp]
theorem shift_ok (a : α) : shift n (.ok a : Except Fault α) = .ok (shift n a) := rfl

@[simp]
theorem shift_error (cause : Cause) (span : Span) :
    shift n (.error ⟨cause, span⟩ : Except Fault α) = .error ⟨cause, shift n span⟩ := rfl

@[simp]
theorem shift_span (start stop : Nat) :
    shift n (⟨start, stop⟩ : Span) = ⟨n + start, n + stop⟩ := rfl

theorem shift_start (span : Span) : (shift n span).start = n + span.start := rfl

@[simp]
theorem shift_pair (a : α) (b : β) : shift n (a, b) = (shift n a, shift n b) := rfl

@[simp]
theorem shift_none : shift n (none : Option α) = none := rfl

@[simp]
theorem shift_some (a : α) : shift n (some a) = some (shift n a) := rfl

@[simp]
theorem shift_nil : shift n ([] : List α) = [] := rfl

@[simp]
theorem shift_cons (a : α) (as : List α) : shift n (a :: as) = shift n a :: shift n as := rfl

theorem shift_list (as : List α) : shift n as = as.map (shift n) := rfl

theorem shift_append (as bs : List α) : shift n (as ++ bs) = shift n as ++ shift n bs :=
  List.map_append

@[simp]
theorem shift_chars (cs : List Char) : shift n cs = cs := List.map_id cs

variable {n}

/-- A computation is moved when its first step is and what follows that step is. -/
theorem bind_shift {x : Except Fault α} {f g : α → Except Fault β}
    (h : ∀ a, g (shift n a) = shift n (f a)) : (shift n x >>= g) = shift n (x >>= f) := by
  cases x with
  | error fault => rfl
  | ok a => exact h a

end Lemmas

/-! ## Lexemes -/

variable (n offset : Nat)

theorem Token.shift_symbol (sign : Symbol) : shift n (Token.symbol sign) = .symbol sign := rfl

theorem Token.shift_keyword (word : Keyword) : shift n (Token.keyword word) = .keyword word := rfl

theorem Token.shift_template (body : List Char) :
    shift n (Token.template body offset) = .template body (n + offset) := rfl

theorem Token.shift_ofWord (word : String) : shift n (Token.ofWord word) = Token.ofWord word := by
  unfold Token.ofWord
  split_ifs <;> rfl

theorem readToken_shift (c : Char) (cs : List Char) :
    readToken (n + offset) c cs = shift n (readToken offset c cs) := by
  unfold readToken
  dsimp only
  split_ifs
  · rw [shift_ok, shift_pair, shift_chars]
    rfl
  · rw [shift_ok, shift_pair, shift_chars, shift_none]
  · rw [shift_ok, shift_pair, shift_chars, shift_none]
  · cases cutAt? ['*', '/'] cs.tail with
    | none => simp [Nat.add_assoc]
    | some found => simp
  · cases scanText? c cs with
    | none => simp [Nat.add_assoc]
    | some found => simp; rfl
  · cases scanTemplate? 0 cs with
    | none => simp [Nat.add_assoc]
    | some found => simp [Nat.add_assoc]; rfl
  · cases Decimal.readNumeral? (scanNumber (c :: cs)).1 with
    | none => simp [Nat.add_assoc]
    | some value => simp; rfl
  · rw [shift_ok, shift_pair, shift_chars, shift_some, Token.shift_ofWord]
  · cases readSymbol? (c :: cs) with
    | none => simp [Nat.add_assoc]
    | some found => simp; rfl

theorem map_shift {f g : α → β} {x : Except Fault α} {n : Nat}
    (h : ∀ a, g (shift n a) = shift n (f a)) : (shift n x).map g = shift n (x.map f) := by
  cases x with
  | error fault => rfl
  | ok a => exact congrArg Except.ok (h a)

theorem lexemes_shift (cs : List Char) :
    Lexeme.ofScript (n + offset) cs = shift n (Lexeme.ofScript offset cs) := by
  fun_induction Lexeme.ofScript offset cs with
  | case1 => rw [Lexeme.ofScript]; rfl
  | case2 offset c cs fault hread =>
    rw [Lexeme.ofScript]
    split
    · next fault' heq =>
      rw [readToken_shift, hread] at heq
      exact congrArg Except.error (Except.error.inj heq).symm
    · next heq =>
      rw [readToken_shift, hread] at heq
      exact nomatch heq
  | case3 offset c cs token rest hread stop ih =>
    rw [Lexeme.ofScript]
    split
    · next heq =>
      rw [readToken_shift, hread] at heq
      exact nomatch heq
    · next token' rest' heq =>
      rw [readToken_shift, hread, shift_ok, shift_pair, shift_chars] at heq
      obtain ⟨rfl, rfl⟩ := Prod.mk.inj (Except.ok.inj heq)
      dsimp only
      rw [Nat.add_assoc, ih]
      refine map_shift fun lexemes => ?_
      cases token <;> rfl

/-! ## Pieces of template literals -/

theorem shift_literalPart (text : List Char) : shift n (literalPart text) = literalPart text := by
  unfold literalPart
  split <;> rfl

theorem rawPartsFrom_shift (seen cs : List Char) :
    rawPartsFrom (n + offset) seen cs = shift n (rawPartsFrom offset seen cs) := by
  fun_induction rawPartsFrom offset seen cs with
  | case1 => rw [rawPartsFrom, shift_literalPart]
  | case2 offset seen c cs ih =>
    rw [rawPartsFrom, ← ih, Nat.add_assoc, Nat.add_assoc, Nat.add_assoc]
  | case3 => rw [rawPartsFrom, shift_literalPart]
  | case4 offset seen cs hclose =>
    rw [rawPartsFrom]
    split
    · rw [shift_append, shift_literalPart]
      rfl
    · next heq => exact nomatch hclose.symm.trans heq
  | case5 offset seen cs body rest hclose _ ih =>
    rw [rawPartsFrom]
    split
    · next heq => exact nomatch hclose.symm.trans heq
    · next body' rest' heq =>
      obtain ⟨rfl, rfl⟩ := Prod.mk.inj (Option.some.inj (hclose.symm.trans heq))
      rw [shift_append, shift_literalPart, shift_cons, ← ih]
      simp only [Nat.add_assoc]
      rfl
  | case6 offset seen c cs hescape hslash hhole ih =>
    rw [rawPartsFrom, ← ih, Nat.add_assoc]
    all_goals assumption

theorem rawParts_shift (body : List Char) :
    rawParts (n + offset) body = shift n (rawParts offset body) := by
  rw [rawParts, rawParts, rawPartsFrom_shift]
  cases rawPartsFrom offset [] body <;> rfl

/-! ## Cursors -/

namespace Cursor

variable (c : Cursor)

theorem start_shift (lexemes : List Lexeme) (stop : Nat) :
    start (shift n lexemes) (n + stop) = shift n (start lexemes stop) := rfl

theorem here_shift : (shift n c).here = shift n c.here := by
  obtain ⟨rest, last, stop⟩ := c
  cases rest <;> rfl

theorem token?_shift : (shift n c).token? = shift n c.token? := by
  obtain ⟨rest, last, stop⟩ := c
  cases rest <;> rfl

theorem next_shift : (shift n c).next = shift n c.next := by
  obtain ⟨rest, last, stop⟩ := c
  cases rest <;> rfl

end Cursor

theorem Token.is_shift (t : Token) (sign : Symbol) : (shift n t).is sign = t.is sign := by
  cases t <;> rfl

theorem Token.isLineBreak_shift (t : Token) : (shift n t).isLineBreak = t.isLineBreak := by
  cases t <;> rfl

theorem Token.isSeparator_shift (t : Token) : (shift n t).isSeparator = t.isSeparator := by
  cases t <;> rfl

namespace Cursor

variable (c : Cursor) (nested : Bool)

theorem stands_shift (sign : Symbol) : (shift n c).stands sign = c.stands sign := by
  unfold stands
  rw [token?_shift]
  cases c.token? with
  | none => rfl
  | some t => exact t.is_shift n sign

theorem skipWhile_shift {p : Token → Bool} (h : ∀ t, p (shift n t) = p t) :
    (shift n c).skipWhile p = shift n (c.skipWhile p) := by
  obtain ⟨rest, last, stop⟩ := c
  let q : Lexeme → Bool := fun lexeme => p lexeme.token
  have hq : q ∘ shift n = q := funext fun lexeme => h lexeme.token
  have hdrop : (shift n rest).dropWhile q = shift n (rest.dropWhile q) := by
    rw [shift_list, List.dropWhile_map, hq, shift_list]
  have htake : ((shift n rest).takeWhile q).getLast? = shift n (rest.takeWhile q).getLast? := by
    rw [shift_list, List.takeWhile_map, hq, List.getLast?_map]
    rfl
  show Cursor.mk ((shift n rest).dropWhile q)
    ((((shift n rest).takeWhile q).getLast?.map _).getD (n + last)) (n + stop) = _
  rw [hdrop, htake]
  show _ = Cursor.mk (shift n (rest.dropWhile q))
    (n + ((rest.takeWhile q).getLast?.map _).getD last) (n + stop)
  cases (rest.takeWhile q).getLast? <;> rfl

theorem settle_shift : (shift n c).settle nested = shift n (c.settle nested) := by
  unfold settle
  split
  · exact skipWhile_shift n c (Token.isLineBreak_shift n)
  · rfl

theorem fail_shift {α : Type} [Shift α] (cause : Cause) :
    ((shift n c).fail cause : Except Fault α) = shift n (c.fail cause) := by
  rw [fail, here_shift]
  rfl

theorem expect_shift (sign : Symbol) (what : Expected) :
    (shift n c).expect nested sign what = shift n (c.expect nested sign what) := by
  unfold expect
  dsimp only
  rw [settle_shift, stands_shift, here_shift, next_shift, fail_shift]
  split <;> rfl

theorem expectName_shift :
    (shift n c).expectName nested = shift n (c.expectName nested) := by
  unfold expectName
  dsimp only
  rw [settle_shift, token?_shift, here_shift, next_shift]
  rcases (c.settle nested).token? with _ | (_ | _ | _ | _ | _ | _ | _)
  case some.name => rfl
  all_goals exact fail_shift n _ _

theorem atKeyword_shift (word : Keyword) : (shift n c).atKeyword word = c.atKeyword word := by
  unfold atKeyword
  rw [token?_shift]
  rcases c.token? with _ | (_ | _ | _ | _ | _ | _ | _) <;> rfl

theorem atAssignment_shift : (shift n c).atAssignment = c.atAssignment := by
  unfold atAssignment
  rw [token?_shift, next_shift, stands_shift]
  rcases c.token? with _ | (_ | _ | _ | _ | _ | _ | _) <;> rfl

theorem atStatementEnd_shift : (shift n c).atStatementEnd = c.atStatementEnd := by
  unfold atStatementEnd
  rw [token?_shift]
  rcases c.token? with _ | (_ | _ | _ | _ | _ | _ | _) <;> rfl

end Cursor

end Stencil.Script
