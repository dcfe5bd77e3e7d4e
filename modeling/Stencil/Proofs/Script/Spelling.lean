import Stencil.Proofs.Script.Lexing

/-!
# The tokens of printed scripts

No two tokens of a printed script run into each other.

* `Follow` are the texts that may stand behind an expression; every token that may end one ends
  there.
* `Expr.inner_opens`: an expression starts with a token that starts an operand.
* `Expr.apart` and `Statement.apart`: the pieces that are printed lie apart.
* `Lexable.lexes`: such pieces are read back.
-/

namespace Stencil.Script

open Text

/-! ## What stands behind an expression -/

/-- The characters with which nothing goes on. -/
def separates (c : Char) : Bool :=
  c = ' ' || c = ',' || c = ';' || c = '(' || c = ')' || c = '[' || c = ']'

/-- The texts that may stand behind an expression. -/
inductive Follow : List Char → Prop where
  | nil : Follow []
  | char {c : Char} {cs : List Char} : separates c = true → Follow (c :: cs)
  /-- A member, whose name does not start with a digit. -/
  | dot {c : Char} {cs : List Char} : c.isDigit = false → Follow ('.' :: c :: cs)

/-- What separates is part of no token that may end an expression. -/
theorem not_continues_of_separates {c : Char} (h : separates c = true) : continuesName c = false ∧
    growsWith c = false ∧ c.isDigit = false ∧ c ≠ '.' := by
  simp only [separates, Bool.or_eq_true, decide_eq_true_eq] at h
  rcases h with ((((((rfl | rfl) | rfl) | rfl) | rfl) | rfl) | rfl) <;> decide

section Follow

variable {rest : List Char}

theorem Follow.name (h : Follow rest) : ∀ d ∈ rest.head?, continuesName d = false := by
  intro d hd
  cases h with
  | nil => exact nomatch hd
  | char hc => exact Option.some.inj hd ▸ (not_continues_of_separates hc).1
  | dot _ => exact Option.some.inj hd ▸ by decide

theorem Follow.sign (h : Follow rest) : ∀ d ∈ rest.head?, growsWith d = false := by
  intro d hd
  cases h with
  | nil => exact nomatch hd
  | char hc => exact Option.some.inj hd ▸ (not_continues_of_separates hc).2.1
  | dot _ => exact Option.some.inj hd ▸ by decide

theorem Follow.number (h : Follow rest) : scanNumber rest = ([], rest) := by
  cases h with
  | nil => rfl
  | char hc =>
    obtain ⟨-, -, hdigit, hdot⟩ := not_continues_of_separates hc
    rw [scanNumber, if_neg]
    rw [hdigit, decide_eq_false hdot, Bool.false_and, Bool.or_false]
    exact Bool.false_ne_true
  | dot hdigit =>
    rw [scanNumber, if_neg]
    rw [List.head?_cons, Option.any_some, hdigit]
    decide

end Follow

/-! ## What an expression starts with -/

/-- The tokens that start an operand. -/
def Token.opens : Token → Bool
  | .number _ | .text _ | .name _ => true
  | .keyword .yes | .keyword .no | .keyword .null => true
  | .symbol .not | .symbol .minus | .symbol .leftParen | .symbol .leftBracket => true
  | _ => false

/-- Whether pieces start with a token that starts an operand. -/
def Opens (ps : List Piece) : Prop := ∃ t qs, ps = .token t :: qs ∧ t.opens = true

theorem Opens.append {ps : List Piece} (h : Opens ps) (qs : List Piece) : Opens (ps ++ qs) := by
  obtain ⟨t, rs, rfl, ht⟩ := h
  exact ⟨t, rs ++ qs, rfl, ht⟩

theorem Opens.enclose {ps : List Piece} (h : Opens ps) (power level : Nat) :
    Opens (enclose power level ps) := by
  unfold Script.enclose
  split
  · exact ⟨.symbol .leftParen, _, rfl, rfl⟩
  · exact h

/-- An expression starts with a token that starts an operand. -/
theorem Expr.inner_opens : (e : Expr) → e.Printable → Opens e.inner
  | .text value, _ => ⟨.text value, [], rfl, rfl⟩
  | .number value, _ => ⟨.number value, [], rfl, rfl⟩
  | .flag true, _ => ⟨.keyword .yes, [], rfl, rfl⟩
  | .flag false, _ => ⟨.keyword .no, [], rfl, rfl⟩
  | .null, _ => ⟨.keyword .null, [], rfl, rfl⟩
  | .list _, _ => ⟨.symbol .leftBracket, _, rfl, rfl⟩
  | .template _, h => False.elim h
  | .identifier name _, _ => ⟨.name name, [], rfl, rfl⟩
  | .member object _ _, h => ((object.inner_opens h.1).enclose _ _).append _
  | .index object _ _, h => ((object.inner_opens h.1).enclose _ _).append _ |>.append _
  | .call callee _ _, h => ((callee.inner_opens h.1).enclose _ _).append _ |>.append _
  | .unary .negate _, _ => ⟨.symbol .minus, _, rfl, rfl⟩
  | .unary .not _, _ => ⟨.symbol .not, _, rfl, rfl⟩
  | .binary _ left _, h => ((left.inner_opens h.1).enclose _ _).append _
  | .conditional condition _ _, h => ((condition.inner_opens h.1).enclose _ _).append _ |>.append _

/-- What makes a symbol grow starts neither a name nor a number. -/
theorem not_starts_of_growsWith {c : Char} (h : growsWith c = true) :
    startsName c = false ∧ c.isDigit = false := by
  simp only [growsWith, Bool.or_eq_true, decide_eq_true_eq] at h
  rcases h with ((rfl | rfl) | rfl) | rfl <;> decide

/-- No token that starts an operand makes a symbol in front of it grow. -/
theorem opens_head {t : Token} {rest : List Char} (ht : t.opens = true) (h : t.EndsAt rest) :
    ∃ c cs, t.spelling = c :: cs ∧ growsWith c = false := by
  unfold Token.opens at ht
  split at ht
  · next value =>
    obtain ⟨c, cs, hcs, hc, -⟩ := readToken_number h.1 h.2
    refine ⟨c, cs, hcs, Bool.eq_false_iff.mpr fun hgrows => ?_⟩
    exact absurd (hc.symm.trans (not_starts_of_growsWith hgrows).2) (by decide)
  · exact ⟨'"', _, rfl, by decide⟩
  · next name =>
    obtain ⟨c, cs, hcs, hc, -⟩ := h.1.readToken h.2
    refine ⟨c, cs, hcs, Bool.eq_false_iff.mpr fun hgrows => ?_⟩
    exact absurd (hc.symm.trans (not_starts_of_growsWith hgrows).1) (by decide)
  all_goals first | exact ⟨_, _, rfl, by decide⟩ | exact nomatch ht

/-! ## Expressions -/

/-- The start of an operand does not make a symbol in front of it grow. -/
theorem Opens.sign {ps : List Piece} {rest : List Char} (h : Opens ps) (hps : Apart rest ps) :
    ∀ d ∈ (spell ps ++ rest).head?, growsWith d = false := by
  obtain ⟨t, qs, rfl, ht⟩ := h
  obtain ⟨c, cs, hcs, hc⟩ := opens_head ht hps.1
  intro d hd
  rw [spell_cons, Piece.spelling, hcs] at hd
  exact Option.some.inj hd ▸ hc

/-- Whether pieces lie apart wherever an expression may stand. -/
def Lexable (ps : List Piece) : Prop := ∀ rest, Follow rest → Apart rest ps

theorem Lexable.enclose {ps : List Piece} (h : Lexable ps) (power level : Nat) :
    Lexable (enclose power level ps) := by
  intro rest hrest
  unfold Script.enclose
  split
  · exact ⟨nofun, apart_append.mpr ⟨h _ (.char rfl), nofun, trivial⟩⟩
  · exact h rest hrest

/-- Between brackets an expression may stand. -/
theorem Lexable.bracket {ps qs : List Piece} {left right : Symbol} (hps : Lexable ps)
    (hqs : Lexable qs) (hleft : ∀ cs, Follow (left.spelling ++ cs))
    (hright : ∀ cs, Follow (right.spelling ++ cs)) (hgrows : left.grows = false)
    (hgrows' : right.grows = false) : Lexable (ps ++ .sign left :: qs ++ [.sign right]) := by
  intro rest _
  rw [List.append_assoc]
  refine apart_append.mpr ⟨hps _ ?_, fun h => absurd h (by rw [hgrows]; decide),
    apart_append.mpr ⟨hqs _ ?_, fun h => absurd h (by rw [hgrows']; decide), trivial⟩⟩
  · rw [List.cons_append, spell_cons, List.append_assoc]
    exact hleft _
  · rw [spell_cons, List.append_assoc]
    exact hright _

mutual

/-- **The pieces of an expression lie apart.** -/
theorem Expr.apart : (e : Expr) → e.Printable → Lexable e.inner
  | .text _, _ => fun _ _ => ⟨trivial, trivial⟩
  | .number _, h => fun _ hrest => ⟨⟨h, hrest.number⟩, trivial⟩
  | .flag true, _ => fun _ hrest => ⟨hrest.name, trivial⟩
  | .flag false, _ => fun _ hrest => ⟨hrest.name, trivial⟩
  | .null, _ => fun _ hrest => ⟨hrest.name, trivial⟩
  | .list items, h => fun _ _ =>
    ⟨nofun, apart_append.mpr ⟨Expr.apartAll items h _ (.char rfl), nofun, trivial⟩⟩
  | .template _, h => False.elim h
  | .identifier _ _, h => fun _ hrest => ⟨⟨h, hrest.name⟩, trivial⟩
  | .member object field _, h => fun rest hrest => by
    obtain ⟨c, cs, hfield, -, hdigit, -⟩ := h.2.exists_cons
    refine apart_append.mpr ⟨(object.apart h.1).enclose _ _ _ ?_, nofun, ⟨h.2, hrest.name⟩,
      trivial⟩
    show Follow ('.' :: (field.toList ++ [] ++ rest))
    rw [hfield]
    exact .dot hdigit
  | .index object place _, h =>
    ((object.apart h.1).enclose _ _).bracket (place.apart h.2) (fun _ => .char rfl)
      (fun _ => .char rfl) rfl rfl
  | .call callee args _, h =>
    ((callee.apart h.1).enclose _ _).bracket (Expr.apartAll args h.2) (fun _ => .char rfl)
      (fun _ => .char rfl) rfl rfl
  | .unary op operand, h => fun rest hrest =>
    have hoperand := (operand.apart h).enclose unaryPower operand.level rest hrest
    ⟨fun _ => ((operand.inner_opens h).enclose _ _).sign hoperand, hoperand⟩
  | .binary op left right, h => fun rest hrest =>
    apart_append.mpr ⟨(left.apart h.1).enclose _ _ _ (.char rfl),
      fun _ _ hd => Option.some.inj hd ▸ rfl, (right.apart h.2).enclose _ _ rest hrest⟩
  | .conditional condition yes no, h => fun rest hrest => by
    obtain ⟨hcondition, hyes, hno⟩ := h
    rw [Expr.inner, List.append_assoc]
    refine apart_append.mpr ⟨(condition.apart hcondition).enclose _ _ _ (.char rfl), ?_⟩
    refine ⟨fun _ _ hd => Option.some.inj hd ▸ rfl, apart_append.mpr ⟨?_, ?_⟩⟩
    · exact yes.apart hyes _ (.char rfl)
    · exact ⟨nofun, (no.apart hno).enclose _ _ rest hrest⟩

/-- The pieces of expressions between commas lie apart. -/
theorem Expr.apartAll : (es : List Expr) → Expr.PrintableAll es → Lexable (Expr.innerAll es)
  | [], _ => fun _ _ => trivial
  | [e], h => e.apart h.1
  | e :: f :: es, h => fun rest hrest =>
    apart_append.mpr ⟨e.apart h.1 _ (.char rfl), nofun, Expr.apartAll (f :: es) h.2 rest hrest⟩

end

/-! ## Statements -/

theorem apart_braced {ps : List Piece} (h : Lexable ps) (rest : List Char) :
    Apart rest (braced ps) :=
  ⟨nofun, apart_append.mpr ⟨h _ (.char rfl), nofun, trivial⟩⟩

/-- Nothing goes on with a blank. -/
theorem follow_blank (ps : List Piece) (rest : List Char) :
    Follow (spell (.blank :: ps) ++ rest) := .char rfl

mutual

/-- **The pieces of a statement lie apart.** -/
theorem Statement.apart : (s : Statement) → s.Printable → Lexable s.pieces
  | .assign name value declare _, h => fun rest hrest => by
    obtain ⟨hname, hvalue⟩ := h
    have hassign : Apart rest
        (.token (.name name) :: .blank :: .sign .assign :: .blank :: value.inner) :=
      ⟨⟨hname, (follow_blank _ _).name⟩, fun _ => (follow_blank _ _).sign,
        value.apart hvalue rest hrest⟩
    refine apart_append.mpr ⟨?_, hassign⟩
    cases declare with
    | false => exact trivial
    | true => exact ⟨(follow_blank [] _).name, trivial⟩
  | .expr value _, h => value.apart h
  | .branch condition yes no _, h => fun rest hrest => by
    obtain ⟨hcondition, hyes, hno⟩ := h
    rw [Statement.pieces, List.append_assoc]
    refine apart_append.mpr ⟨⟨(follow_blank _ _).name, condition.apart hcondition _ (.char rfl)⟩,
      apart_append.mpr ⟨apart_braced (Statement.apartAll yes hyes) _, ?_⟩⟩
    split
    · exact trivial
    · exact ⟨(follow_blank _ _).name, apart_braced (Statement.apartAll no hno) rest⟩

/-- The pieces of statements between semicolons lie apart. -/
theorem Statement.apartAll : (ss : List Statement) → Statement.PrintableAll ss →
    Lexable (Statement.piecesAll ss)
  | [], _ => fun _ _ => trivial
  | [s], h => s.apart h.1
  | s :: t :: ss, h => fun rest hrest =>
    apart_append.mpr
      ⟨s.apart h.1 _ (.char rfl), nofun, Statement.apartAll (t :: ss) h.2 rest hrest⟩

end

/-! ## Scripts -/

/-- Printed pieces that lie apart have their tokens. -/
theorem Lexable.lexes {ps : List Piece} (h : Lexable ps) : Lexes (spell ps) (tokensOf ps) := by
  have hlexes := (h [] .nil).lexes lexes_nil
  rw [List.append_nil, List.append_nil] at hlexes
  exact hlexes

end Stencil.Script
