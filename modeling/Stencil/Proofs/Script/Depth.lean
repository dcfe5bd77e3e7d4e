import Stencil.Proofs.Result
import Stencil.Proofs.Script.Cursor
import Stencil.Proofs.Script.Passage
import Stencil.Proofs.Script.Shift

/-!
# The bound on the depth

The functions of the parser count down a depth. A script that is read within one depth is read in
the same way within any greater one, so that it does not matter with which depth a hole of a
template literal is read. The depth that a script is given is never used up.

* `readExpr_deeper` and so on: one more step is allowed, each step of the parser being the same.
* `readWhole_of_le`: any greater depth.
* `Token.weight` is the depth that reading a token may cost; `readExpr_within` and so on: a function
  that is allowed the weight of what is left, and a little more, does not run out of depth.
* `Expr.ofScript_within` and `Statement.ofScript_within`: whole scripts.
-/

namespace Stencil.Script

open Cursor

mutual

theorem readExpr_deeper : (depth : Nat) → (nested : Bool) → (power : Nat) → (c : Cursor) →
    Refines (readExpr depth nested power c) (readExpr (depth + 1) nested power c)
  | 0, nested, power, c => by
    rw [readExpr]
    exact refines_error _ _
  | depth + 1, nested, power, c => by
    rw [readExpr, readExpr]
    exact (readOperand_deeper depth nested c).bind fun (left, c) =>
      readInfix_deeper depth nested power left c

theorem readInfix_deeper : (depth : Nat) → (nested : Bool) → (power : Nat) → (left : Expr) →
    (c : Cursor) →
    Refines (readInfix depth nested power left c) (readInfix (depth + 1) nested power left c)
  | 0, nested, power, left, c => by
    rw [readInfix]
    exact refines_error _ _
  | depth + 1, nested, power, left, c => by
    rw [readInfix, readInfix]
    dsimp only
    generalize c.settle nested = c
    rcases c.token? with _ | (_ | _ | _ | _ | _ | sign | _)
    case some.symbol =>
      dsimp only
      cases infixPowers? sign with
      | none => exact .refl _
      | some powers =>
        dsimp only
        split
        · exact .refl _
        · cases BinaryOp.ofSymbol? sign with
          | some op =>
            exact (readExpr_deeper depth nested powers.2 c.next).bind fun (right, c) =>
              readInfix_deeper depth nested power (.binary op left right) c
          | none =>
            refine (readExpr_deeper depth true 0 c.next).bind fun (yes, c) => ?_
            refine (Refines.refl (c.expect nested .colon .colon)).bind fun (_, c) => ?_
            exact (readExpr_deeper depth nested powers.2 c).bind fun (no, c) =>
              readInfix_deeper depth nested power (.conditional left yes no) c
    all_goals exact .refl _

theorem readOperand_deeper : (depth : Nat) → (nested : Bool) → (c : Cursor) →
    Refines (readOperand depth nested c) (readOperand (depth + 1) nested c)
  | 0, nested, c => by
    rw [readOperand]
    exact refines_error _ _
  | depth + 1, nested, c => by
    rw [readOperand, readOperand]
    dsimp only
    generalize c.skipWhile Token.isLineBreak = c
    rcases c.token? with _ | (value | value | ⟨body, offset⟩ | name | word | sign | _)
    case none => exact .refl _
    case some.number => exact readSuffixes_deeper depth nested c.here.start (.number value) c.next
    case some.text => exact readSuffixes_deeper depth nested c.here.start (.text value) c.next
    case some.name =>
      exact readSuffixes_deeper depth nested c.here.start (.identifier name c.here) c.next
    case some.template =>
      exact (readParts_deeper depth _ _).bind fun parts =>
        readSuffixes_deeper depth nested c.here.start _ c.next
    case some.keyword =>
      cases word
      case yes => exact readSuffixes_deeper depth nested c.here.start (.flag true) c.next
      case no => exact readSuffixes_deeper depth nested c.here.start (.flag false) c.next
      case null => exact readSuffixes_deeper depth nested c.here.start .null c.next
      all_goals exact .refl _
    case some.symbol =>
      cases sign
      case not | minus =>
        exact (readExpr_deeper depth nested unaryPower c.next).bind fun (operand, c) => .refl _
      case leftParen =>
        refine (readExpr_deeper depth true 0 c.next).bind fun (value, c') => ?_
        exact (Refines.refl (c'.expect true .rightParen .closeParen)).bind fun (_, c') =>
          readSuffixes_deeper depth nested c.here.start value c'
      case leftBracket =>
        exact (readItems_deeper depth .rightBracket .commaOrBracket c.next).bind
          fun (items, c') => readSuffixes_deeper depth nested c.here.start (.list items) c'
      all_goals exact .refl _
    case some.lineBreak => exact .refl _

theorem readSuffixes_deeper : (depth : Nat) → (nested : Bool) → (start : Nat) → (value : Expr) →
    (c : Cursor) →
    Refines (readSuffixes depth nested start value c)
      (readSuffixes (depth + 1) nested start value c)
  | 0, nested, start, value, c => by
    rw [readSuffixes]
    exact refines_error _ _
  | depth + 1, nested, start, value, c => by
    rw [readSuffixes, readSuffixes]
    dsimp only
    generalize c.settle nested = c
    rcases c.token? with _ | (_ | _ | _ | _ | _ | sign | _)
    case some.symbol =>
      cases sign
      case dot =>
        exact (Refines.refl (c.next.expectName nested)).bind fun (field, span, c) =>
          readSuffixes_deeper depth nested start (.member value field ⟨start, span.stop⟩) c
      case leftBracket =>
        refine (readExpr_deeper depth true 0 c.next).bind fun (index, c) => ?_
        exact (Refines.refl (c.expect true .rightBracket .closeBracket)).bind fun (span, c) =>
          readSuffixes_deeper depth nested start (.index value index ⟨start, span.stop⟩) c
      case leftParen =>
        exact (readItems_deeper depth .rightParen .commaOrParen c.next).bind fun (args, c) =>
          readSuffixes_deeper depth nested start (.call value args ⟨start, c.last⟩) c
      all_goals exact .refl _
    all_goals exact .refl _

theorem readItems_deeper : (depth : Nat) → (close : Symbol) → (what : Expected) →
    (c : Cursor) → Refines (readItems depth close what c) (readItems (depth + 1) close what c)
  | 0, close, what, c => by
    rw [readItems]
    exact refines_error _ _
  | depth + 1, close, what, c => by
    rw [readItems, readItems]
    dsimp only
    split
    · exact .refl _
    · refine (readExpr_deeper depth true 0 _).bind fun (item, c) => ?_
      dsimp only
      split
      · exact (readItems_deeper depth close what _).bind fun (items, c) => .refl _
      · exact .refl _

theorem readParts_deeper : (depth : Nat) → (parts : List RawPart) → (stop : Nat) →
    Refines (readParts depth parts stop) (readParts (depth + 1) parts stop)
  | 0, parts, stop => by
    rw [readParts]
    exact refines_error _ _
  | depth + 1, [], stop => by
    rw [readParts, readParts]
    exact .refl _
  | depth + 1, .literal text :: parts, stop => by
    rw [readParts, readParts]
    exact (readParts_deeper depth parts stop).bind fun rest => .refl _
  | depth + 1, .hole offset body :: parts, stop => by
    rw [readParts, readParts]
    exact (readWhole_deeper depth offset body).bind fun value =>
      (readParts_deeper depth parts stop).bind fun rest => .refl _
  | depth + 1, .unclosed offset :: parts, stop => by
    rw [readParts, readParts]
    exact .refl _

theorem readWhole_deeper : (depth : Nat) → (offset : Nat) → (body : List Char) →
    Refines (readWhole depth offset body) (readWhole (depth + 1) offset body)
  | 0, offset, body => by
    rw [readWhole]
    exact refines_error _ _
  | depth + 1, offset, body => by
    rw [readWhole, readWhole]
    refine (Refines.refl (Lexeme.ofScript offset body)).bind fun lexemes => ?_
    exact (readExpr_deeper depth false 0 _).bind fun (value, c) => .refl _

end

/-- **A script that is read within one depth is read in the same way within a greater one.** -/
theorem readWhole_of_le {depth depth' offset : Nat} {body : List Char} {value : Expr}
    (h : readWhole depth offset body = .ok value) (hle : depth ≤ depth') :
    readWhole depth' offset body = .ok value := by
  induction hle with
  | refl => exact h
  | step _ ih => exact readWhole_deeper _ offset body value ih

/-! ## The bound is never met

Every token weighs as much as reading it can cost: a few nested calls and, for a template literal,
those that its holes need. A function of the parser that is allowed the weight of what is left, and
a little more for the functions it calls before it passes over a token, never runs out of depth. A
lexeme weighs at most eight times the characters it is read from, which `depthFor` allows. -/

/-- A result that satisfies `P`, or a fault that is not for want of depth. -/
def Within {α : Type} (P : α → Prop) : Except Fault α → Prop
  | .ok a => P a
  | .error fault => fault.cause ≠ .tooDeep

section Within

variable {α β : Type} {P P' : α → Prop} {Q : β → Prop} {x : Except Fault α}

theorem Within.bind {f : α → Except Fault β} (hx : Within P x) (hf : ∀ a, P a → Within Q (f a)) :
    Within Q (x >>= f) := by
  cases x with
  | ok a => exact hf a hx
  | error fault => exact hx

theorem Within.map {f : α → β} (hx : Within P x) (hf : ∀ a, P a → Q (f a)) :
    Within Q (x.map f) := by
  cases x with
  | ok a => exact hf a hx
  | error fault => exact hx

theorem Within.imp (hx : Within P x) (h : ∀ a, P a → P' a) : Within P' x := by
  cases x with
  | ok a => exact h a hx
  | error fault => exact hx

theorem Within.cause_ne (hx : Within P x) {fault : Fault} (h : x = .error fault) :
    fault.cause ≠ .tooDeep := by
  rw [h] at hx
  exact hx

theorem within_fail {c : Cursor} {cause : Cause} (h : cause ≠ .tooDeep) :
    Within P (c.fail cause) := h

end Within

/-! ### Weights -/

/-- The nested calls that reading a token may cost. -/
def Token.weight : Token → Nat
  | .template body _ => 8 * body.length + 4
  | _ => 4

/-- The nested calls that reading lexemes may cost. -/
def weigh : List Lexeme → Nat
  | [] => 0
  | lexeme :: rest => lexeme.token.weight + weigh rest

/-- The nested calls that the pieces of a template literal need. -/
def room : List RawPart → Nat
  | [] => 1
  | .literal _ :: parts => room parts + 1
  | .hole _ body :: parts => max (8 * body.length + 5) (room parts + 1)
  | .unclosed _ :: _ => 1

theorem Token.four_le_weight (t : Token) : 4 ≤ t.weight := by
  cases t with
  | template body offset => exact Nat.le_add_left _ _
  | _ => exact Nat.le_refl _

theorem room_pos (parts : List RawPart) : 1 ≤ room parts := by
  rcases parts with _ | ⟨_ | _ | _, parts⟩ <;> simp only [room] <;> omega

theorem room_literalPart_append (text : List Char) (parts : List RawPart) :
    room (literalPart text ++ parts) ≤ room parts + 1 := by
  unfold literalPart
  split
  · exact Nat.le_succ _
  · exact Nat.le_refl _

theorem room_literalPart (text : List Char) : room (literalPart text) ≤ 2 := by
  have hroom := room_literalPart_append text []
  rwa [List.append_nil] at hroom

theorem room_rawPartsFrom (offset : Nat) (seen cs : List Char) :
    room (rawPartsFrom offset seen cs) ≤ 8 * cs.length + 2 := by
  fun_induction rawPartsFrom offset seen cs with
  | case1 => exact room_literalPart _
  | case2 offset seen c cs ih =>
    simp only [List.length_cons]
    omega
  | case3 =>
    exact (room_literalPart _).trans (Nat.le_add_left _ _)
  | case4 offset seen cs hclose =>
    have hroom := room_literalPart_append seen.reverse [.unclosed offset]
    simp only [room] at hroom
    omega
  | case5 offset seen cs body rest hclose _ ih =>
    have hroom := room_literalPart_append seen.reverse
      (.hole (offset + 2) body :: rawPartsFrom (offset + 3 + Text.byteLength body) [] rest)
    have hlength : cs.length = body.length + (rest.length + 1) := by
      rw [closeHole?_eq hclose, List.length_append, List.length_cons]
    simp only [room] at hroom
    simp only [List.length_cons]
    omega
  | case6 offset seen c cs _ _ _ ih =>
    simp only [List.length_cons]
    omega

theorem room_rawParts (offset : Nat) (body : List Char) :
    room (rawParts offset body) ≤ 8 * body.length + 2 := by
  have hroom := room_rawPartsFrom offset [] body
  rw [rawParts]
  cases hparts : rawPartsFrom offset [] body with
  | nil => exact Nat.le_add_left _ _
  | cons part parts => rwa [hparts] at hroom

theorem ofWord_ne_template (word : String) (body : List Char) (start : Nat) :
    Token.ofWord word ≠ .template body start := by
  unfold Token.ofWord
  repeat' split
  all_goals exact Token.noConfusion

/-- What is read as a template literal is its body with the marks around it. -/
theorem readToken_within (offset : Nat) (c : Char) (cs : List Char) :
    Within (fun (token, rest) => ∀ body start, token = some (.template body start) →
      cs = body ++ '`' :: rest) (readToken offset c cs) := by
  unfold readToken
  dsimp only
  split
  · exact nofun
  split
  · exact nofun
  split
  · exact nofun
  split
  · split
    · exact nofun
    · exact Cause.noConfusion
  split
  · split
    · exact nofun
    · exact Cause.noConfusion
  split
  · split
    · next body rest hscan =>
      rintro _ _ ⟨⟩
      exact scanTemplate?_eq hscan
    · exact Cause.noConfusion
  split
  · split
    · exact nofun
    · exact Cause.noConfusion
  split
  · exact fun body start hword => absurd (Option.some.inj hword) (ofWord_ne_template _ body start)
  · split
    · exact nofun
    · exact Cause.noConfusion

theorem weight_of_readToken {offset : Nat} {c : Char} {cs rest : List Char} {t : Token}
    (h : readToken offset c cs = .ok (some t, rest)) :
    t.weight + 8 * rest.length ≤ 8 * (cs.length + 1) := by
  have hrest := readToken_length h
  cases t with
  | template body start =>
    have hread := readToken_within offset c cs
    rw [h] at hread
    have hlength : cs.length = body.length + (rest.length + 1) := by
      rw [hread body start rfl, List.length_append, List.length_cons]
    simp only [Token.weight]
    omega
  | _ =>
    simp only [Token.weight]
    omega

/-- **Lexemes weigh at most eight times the characters they are read from.** -/
theorem lexemes_within (offset : Nat) (cs : List Char) :
    Within (fun lexemes => weigh lexemes ≤ 8 * cs.length) (Lexeme.ofScript offset cs) := by
  fun_induction Lexeme.ofScript offset cs with
  | case1 => exact Nat.le_refl _
  | case2 offset c cs fault hread => exact (readToken_within offset c cs).cause_ne hread
  | case3 offset c cs token rest hread stop ih =>
    refine ih.map fun lexemes hlexemes => ?_
    have hrest := readToken_length hread
    simp only [List.length_cons]
    cases token with
    | none =>
      dsimp only
      omega
    | some t =>
      have hweight := weight_of_readToken hread
      simp only [weigh]
      omega

/-! ### Positions -/

namespace Cursor

variable {c : Cursor} {t : Token}

/-- The nested calls that reading what is left may cost. -/
def weight (c : Cursor) : Nat := weigh c.rest

theorem weight_of_token? (h : c.token? = some t) : c.weight = t.weight + c.next.weight := by
  obtain ⟨_ | ⟨lexeme, rest⟩, last, stop⟩ := c
  · exact nomatch h
  · rw [← Option.some.inj h]
    rfl

/-- Passing over a token pays for four nested calls. -/
theorem weight_next_add_four (h : c.token? = some t) : c.next.weight + 4 ≤ c.weight := by
  have hweight := weight_of_token? h
  have ht := t.four_le_weight
  omega

theorem weight_next_le (c : Cursor) : c.next.weight ≤ c.weight := by
  obtain ⟨_ | ⟨lexeme, rest⟩, last, stop⟩ := c
  · exact Nat.le_refl _
  · exact Nat.le_add_left _ _

theorem weight_skipWhile_le (p : Token → Bool) (c : Cursor) : (c.skipWhile p).weight ≤ c.weight :=
  skipWhile_of_next (fun d => d.weight ≤ c.weight) (fun {d} hd => d.weight_next_le.trans hd) p
    (Nat.le_refl _)

theorem weight_settle_le (nested : Bool) (c : Cursor) : (c.settle nested).weight ≤ c.weight :=
  settle_of_next (fun d => d.weight ≤ c.weight) (fun {d} hd => d.weight_next_le.trans hd) nested
    (Nat.le_refl _)

theorem expect_within (c : Cursor) (nested : Bool) (sign : Symbol) (what : Expected) :
    Within (fun (_, after) => after.weight + 4 ≤ c.weight) (c.expect nested sign what) := by
  have hsettle := weight_settle_le nested c
  unfold expect
  dsimp only
  split
  · next hstands => exact (weight_next_add_four (token?_of_stands hstands)).trans hsettle
  · exact within_fail Cause.noConfusion

theorem expectName_within (c : Cursor) (nested : Bool) :
    Within (fun (_, _, after) => after.weight + 4 ≤ c.weight) (c.expectName nested) := by
  have hsettle := weight_settle_le nested c
  unfold expectName
  dsimp only
  split
  · next htoken => exact (weight_next_add_four htoken).trans hsettle
  · exact within_fail Cause.noConfusion

end Cursor

/-! ### Expressions -/

mutual

theorem readExpr_within : (depth : Nat) → (nested : Bool) → (power : Nat) → (c : Cursor) →
    c.weight + 3 ≤ depth →
    Within (fun (_, after) => after.weight + 4 ≤ c.weight) (readExpr depth nested power c)
  | depth + 1, nested, power, c, h => by
    rw [readExpr]
    refine (readOperand_within depth nested c (by omega)).bind ?_
    rintro ⟨left, d⟩ (hd : d.weight + 4 ≤ c.weight)
    refine (readInfix_within depth nested power left d (by omega)).imp ?_
    rintro ⟨_, after⟩ (hafter : after.weight ≤ d.weight)
    show after.weight + 4 ≤ c.weight
    omega

theorem readInfix_within : (depth : Nat) → (nested : Bool) → (power : Nat) → (left : Expr) →
    (c : Cursor) → c.weight + 1 ≤ depth →
    Within (fun (_, after) => after.weight ≤ c.weight) (readInfix depth nested power left c)
  | depth + 1, nested, power, left, c, h => by
    have hsettle := weight_settle_le nested c
    rw [readInfix]
    dsimp only
    generalize c.settle nested = d at hsettle
    split
    · next sign htoken =>
      have hnext := weight_next_add_four htoken
      -- The sign that has been passed over pays for reading on.
      have hinfix {value : Expr} (e : Cursor) (he : e.weight ≤ d.next.weight) :
          Within (fun (_, after) => after.weight ≤ c.weight)
            (readInfix depth nested power value e) := by
        refine (readInfix_within depth nested power value e (by omega)).imp ?_
        rintro ⟨_, after⟩ (hafter : after.weight ≤ e.weight)
        show after.weight ≤ c.weight
        omega
      split
      · exact hsettle
      split
      · exact hsettle
      split
      · refine (readExpr_within depth nested _ d.next (by omega)).bind ?_
        rintro ⟨right, e⟩ (he : e.weight + 4 ≤ d.next.weight)
        exact hinfix e (by omega)
      · refine (readExpr_within depth true 0 d.next (by omega)).bind ?_
        rintro ⟨yes, e₁⟩ (he₁ : e₁.weight + 4 ≤ d.next.weight)
        refine (expect_within e₁ nested .colon .colon).bind ?_
        rintro ⟨_, e₂⟩ (he₂ : e₂.weight + 4 ≤ e₁.weight)
        refine (readExpr_within depth nested _ e₂ (by omega)).bind ?_
        rintro ⟨no, e₃⟩ (he₃ : e₃.weight + 4 ≤ e₂.weight)
        exact hinfix e₃ (by omega)
    · exact hsettle

theorem readOperand_within : (depth : Nat) → (nested : Bool) → (c : Cursor) →
    c.weight + 2 ≤ depth →
    Within (fun (_, after) => after.weight + 4 ≤ c.weight) (readOperand depth nested c)
  | depth + 1, nested, c, h => by
    have hskip := weight_skipWhile_le Token.isLineBreak c
    rw [readOperand]
    dsimp only
    generalize c.skipWhile Token.isLineBreak = d at hskip
    have hsuffixes {start : Nat} {value : Expr} (e : Cursor) (he : e.weight + 4 ≤ d.weight) :
        Within (fun (_, after) => after.weight + 4 ≤ c.weight)
          (readSuffixes depth nested start value e) := by
      refine (readSuffixes_within depth nested start value e (by omega)).imp ?_
      rintro ⟨_, after⟩ (hafter : after.weight ≤ e.weight)
      show after.weight + 4 ≤ c.weight
      omega
    rcases htoken : d.token? with _ | (value | value | ⟨body, offset⟩ | name | word | sign | _)
    case none => exact within_fail Cause.noConfusion
    all_goals have hnext := weight_next_add_four htoken
    case some.number | some.text | some.name => exact hsuffixes d.next hnext
    case some.template =>
      have hroom := room_rawParts offset body
      have hweight : d.weight = 8 * body.length + 4 + d.next.weight := weight_of_token? htoken
      exact (readParts_within depth _ _ (by omega)).bind fun _ _ => hsuffixes d.next hnext
    case some.keyword =>
      cases word
      case yes | no | null => exact hsuffixes d.next hnext
      all_goals exact within_fail Cause.noConfusion
    case some.symbol =>
      cases sign
      case not | minus =>
        refine (readExpr_within depth nested unaryPower d.next (by omega)).bind ?_
        rintro ⟨operand, e⟩ (he : e.weight + 4 ≤ d.next.weight)
        show e.weight + 4 ≤ c.weight
        omega
      case leftParen =>
        refine (readExpr_within depth true 0 d.next (by omega)).bind ?_
        rintro ⟨value, e₁⟩ (he₁ : e₁.weight + 4 ≤ d.next.weight)
        refine (expect_within e₁ true .rightParen .closeParen).bind ?_
        rintro ⟨_, e₂⟩ (he₂ : e₂.weight + 4 ≤ e₁.weight)
        exact hsuffixes e₂ (by omega)
      case leftBracket =>
        refine (readItems_within depth _ _ d.next (by omega)).bind ?_
        rintro ⟨items, e⟩ (he : e.weight ≤ d.next.weight)
        exact hsuffixes e (by omega)
      all_goals exact within_fail Cause.noConfusion
    case some.lineBreak => exact within_fail Cause.noConfusion

theorem readSuffixes_within : (depth : Nat) → (nested : Bool) → (start : Nat) → (value : Expr) →
    (c : Cursor) → c.weight + 1 ≤ depth →
    Within (fun (_, after) => after.weight ≤ c.weight) (readSuffixes depth nested start value c)
  | depth + 1, nested, start, value, c, h => by
    have hsettle := weight_settle_le nested c
    rw [readSuffixes]
    dsimp only
    generalize c.settle nested = d at hsettle
    have hsuffixes {value : Expr} (e : Cursor) (he : e.weight + 4 ≤ d.weight) :
        Within (fun (_, after) => after.weight ≤ c.weight)
          (readSuffixes depth nested start value e) := by
      refine (readSuffixes_within depth nested start value e (by omega)).imp ?_
      rintro ⟨_, after⟩ (hafter : after.weight ≤ e.weight)
      show after.weight ≤ c.weight
      omega
    split
    · next htoken =>
      have hnext := weight_next_add_four htoken
      refine (expectName_within d.next nested).bind ?_
      rintro ⟨field, span, e⟩ (he : e.weight + 4 ≤ d.next.weight)
      exact hsuffixes e (by omega)
    · next htoken =>
      have hnext := weight_next_add_four htoken
      refine (readExpr_within depth true 0 d.next (by omega)).bind ?_
      rintro ⟨index, e₁⟩ (he₁ : e₁.weight + 4 ≤ d.next.weight)
      refine (expect_within e₁ true .rightBracket .closeBracket).bind ?_
      rintro ⟨span, e₂⟩ (he₂ : e₂.weight + 4 ≤ e₁.weight)
      exact hsuffixes e₂ (by omega)
    · next htoken =>
      have hnext := weight_next_add_four htoken
      refine (readItems_within depth _ _ d.next (by omega)).bind ?_
      rintro ⟨args, e⟩ (he : e.weight ≤ d.next.weight)
      exact hsuffixes e (by omega)
    · exact hsettle

theorem readItems_within : (depth : Nat) → (close : Symbol) → (what : Expected) → (c : Cursor) →
    c.weight + 4 ≤ depth →
    Within (fun (_, after) => after.weight ≤ c.weight) (readItems depth close what c)
  | depth + 1, close, what, c, h => by
    have hsettle := weight_settle_le true c
    rw [readItems]
    dsimp only
    generalize c.settle true = d at hsettle
    split
    · exact (weight_next_le d).trans hsettle
    · refine (readExpr_within depth true 0 d (by omega)).bind ?_
      rintro ⟨item, e⟩ (he : e.weight + 4 ≤ d.weight)
      have hsettle' := weight_settle_le true e
      dsimp only
      generalize e.settle true = e' at hsettle'
      have hnext := weight_next_le e'
      split
      · refine (readItems_within depth close what e'.next (by omega)).bind ?_
        rintro ⟨items, after⟩ (hafter : after.weight ≤ e'.next.weight)
        show after.weight ≤ c.weight
        omega
      split
      · show e'.next.weight ≤ c.weight
        omega
      · exact within_fail Cause.noConfusion

theorem readParts_within : (depth : Nat) → (parts : List RawPart) → (stop : Nat) →
    room parts ≤ depth → Within (fun _ => True) (readParts depth parts stop)
  | 0, parts, stop, h => absurd h (Nat.not_le.mpr (room_pos parts))
  | depth + 1, [], stop, h => by
    rw [readParts]
    trivial
  | depth + 1, .literal text :: parts, stop, h => by
    rw [readParts]
    exact (readParts_within depth parts stop (Nat.le_of_succ_le_succ h)).bind fun _ _ => trivial
  | depth + 1, .hole offset body :: parts, stop, h => by
    simp only [room] at h
    rw [readParts]
    refine (readWhole_within depth offset body (by omega)).bind fun _ _ => ?_
    exact (readParts_within depth parts stop (by omega)).bind fun _ _ => trivial
  | depth + 1, .unclosed offset :: parts, stop, h => by
    rw [readParts]
    exact Cause.noConfusion

theorem readWhole_within : (depth : Nat) → (offset : Nat) → (body : List Char) →
    8 * body.length + 4 ≤ depth → Within (fun _ => True) (readWhole depth offset body)
  | depth + 1, offset, body, h => by
    rw [readWhole]
    refine (lexemes_within offset body).bind fun lexemes hlexemes => ?_
    dsimp only
    generalize hstart : Cursor.start lexemes (offset + Text.byteLength body) = c
    have hweight : c.weight ≤ 8 * body.length := hstart ▸ hlexemes
    have hskip := weight_skipWhile_le Token.isSeparator c
    refine (readExpr_within depth false 0 _ (by omega)).bind fun _ _ => ?_
    split
    · trivial
    · exact within_fail Cause.noConfusion

end

/-- **No script fails to be read as an expression for want of depth.** -/
theorem Expr.ofScript_within (offset : Nat) (body : List Char) :
    Within (fun _ => True) (Expr.ofScript offset body) :=
  readWhole_within (depthFor body) offset body (by unfold depthFor; omega)

/-! ### Statements -/

mutual

theorem readBody_within : (depth : Nat) → (braced : Bool) → (c : Cursor) → c.weight + 6 ≤ depth →
    Within (fun (_, after) => after.weight ≤ c.weight) (readBody depth braced c)
  | depth + 1, braced, c, h => by
    have hskip := weight_skipWhile_le Token.isSeparator c
    rw [readBody]
    dsimp only
    generalize c.skipWhile Token.isSeparator = d at hskip
    split
    · split
      · exact within_fail Cause.noConfusion
      · exact hskip
    split
    · split
      · exact (weight_next_le d).trans hskip
      · exact hskip
    · refine (readStatement_within depth d (by omega)).bind ?_
      rintro ⟨statement, e⟩ (he : e.weight + 4 ≤ d.weight)
      dsimp only
      split
      · refine (readBody_within depth braced e (by omega)).bind ?_
        rintro ⟨statements, after⟩ (hafter : after.weight ≤ e.weight)
        show after.weight ≤ c.weight
        omega
      · exact within_fail Cause.noConfusion

theorem readStatement_within : (depth : Nat) → (c : Cursor) → c.weight + 5 ≤ depth →
    Within (fun (_, after) => after.weight + 4 ≤ c.weight) (readStatement depth c)
  | depth + 1, c, h => by
    -- What stands in front of the value of an assignment only makes the rest lighter.
    have hvalue (e : Cursor) (he : e.weight ≤ c.weight) :
        Within (fun (_, after) => after.weight + 4 ≤ c.weight) (readExpr depth false 0 e) := by
      refine (readExpr_within depth false 0 e (by omega)).imp ?_
      rintro ⟨value, after⟩ (hafter : after.weight + 4 ≤ e.weight)
      show after.weight + 4 ≤ c.weight
      omega
    rw [readStatement]
    dsimp only
    split
    · have hnext := weight_next_le c
      refine (expectName_within c.next false).bind ?_
      rintro ⟨name, _, d⟩ (hd : d.weight + 4 ≤ c.next.weight)
      refine (expect_within d false .assign .assignAfterName).bind ?_
      rintro ⟨_, e⟩ (he : e.weight + 4 ≤ d.weight)
      exact (hvalue e (by omega)).bind fun _ hafter => hafter
    split
    · next hbranch => exact readBranch_within depth _ c (token?_of_atKeyword hbranch) (by omega)
    split
    · refine (expectName_within c false).bind ?_
      rintro ⟨name, _, d⟩ (hd : d.weight + 4 ≤ c.weight)
      refine (expect_within d false .assign .assign).bind ?_
      rintro ⟨_, e⟩ (he : e.weight + 4 ≤ d.weight)
      exact (hvalue e (by omega)).bind fun _ hafter => hafter
    · exact (hvalue c (Nat.le_refl _)).bind fun _ hafter => hafter

theorem readBranch_within : (depth : Nat) → (start : Nat) → (c : Cursor) → {t : Token} →
    c.token? = some t → c.weight + 4 ≤ depth →
    Within (fun (_, after) => after.weight + 4 ≤ c.weight) (readBranch depth start c)
  | depth + 1, start, c, t, ht, h => by
    have hnext := weight_next_add_four ht
    rw [readBranch]
    refine (readExpr_within depth false 0 c.next (by omega)).bind ?_
    rintro ⟨condition, d₁⟩ (hd₁ : d₁.weight + 4 ≤ c.next.weight)
    refine (expect_within d₁ false .leftBrace .bodyAfterCondition).bind ?_
    rintro ⟨_, d₂⟩ (hd₂ : d₂.weight + 4 ≤ d₁.weight)
    refine (readBody_within depth true d₂ (by omega)).bind ?_
    rintro ⟨yes, d₃⟩ (hd₃ : d₃.weight ≤ d₂.weight)
    have hskip := weight_skipWhile_le Token.isLineBreak d₃
    dsimp only
    generalize d₃.skipWhile Token.isLineBreak = e at hskip
    have he := weight_next_le e
    split
    · split
      · next hbranch =>
        refine (readBranch_within depth _ e.next (token?_of_atKeyword hbranch) (by omega)).bind ?_
        rintro ⟨nested, after⟩ (hafter : after.weight + 4 ≤ e.next.weight)
        show after.weight + 4 ≤ c.weight
        omega
      · refine (expect_within e.next false .leftBrace .bodyAfterElse).bind ?_
        rintro ⟨_, e'⟩ (he' : e'.weight + 4 ≤ e.next.weight)
        refine (readBody_within depth true e' (by omega)).bind ?_
        rintro ⟨no, after⟩ (hafter : after.weight ≤ e'.weight)
        show after.weight + 4 ≤ c.weight
        omega
    · show d₃.weight + 4 ≤ c.weight
      omega

end

/-- **No script fails to be read as statements for want of depth.** -/
theorem Statement.ofScript_within (offset : Nat) (body : List Char) :
    Within (fun _ => True) (Statement.ofScript offset body) := by
  unfold Statement.ofScript
  refine (lexemes_within offset body).bind fun lexemes hlexemes => ?_
  dsimp only
  generalize hstart : Cursor.start lexemes (offset + Text.byteLength body) = c
  have hweight : c.weight ≤ 8 * body.length := hstart ▸ hlexemes
  refine (readBody_within (depthFor body) false c (by unfold depthFor; omega)).bind fun _ _ => ?_
  split
  · trivial
  · exact within_fail Cause.noConfusion

end Stencil.Script
