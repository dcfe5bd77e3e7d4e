import Mathlib.Logic.Function.Iterate
import Stencil.Proofs.Script.Balance
import Stencil.Proofs.Script.Depth
import Stencil.Proofs.Script.Extent
import Stencil.Proofs.Script.Relocation

/-!
# Expressions in template literals

An expression in a template literal is read as it is by itself, provided that the end of its hole
and that of the literal are found right behind it.

* `exists_scanTemplate?` and `exists_readWhole`: a literal that is read as one part has been cut at
  the two ends.
* `ends_of_readWhole`: the ends are then the right ones. A hole that ended earlier would leave a
  brace behind an expression, and no expression has one.
* `readWhole_interpolated`: where the ends are the right ones, the literal is read.
* `ofScript_nested`: so literals can be nested to any depth.
-/

namespace Stencil.Script

open Cursor Text

variable {depth depth' offset offset' stop : Nat} {nested : Bool} {c c' : Cursor}
  {cs e body : List Char} {x y : Expr} {parts : List Part} {ts : List Token}

/-! ## From the value back to the literal -/

/-- Whether an expression is a template literal. -/
def Expr.isTemplate : Expr → Bool
  | .template _ => true
  | _ => false

/-- A value with members, indices or calls behind it is no template literal. -/
theorem readSuffixes_isTemplate (nested : Bool) (start : Nat) : (depth : Nat) → (value : Expr) →
    (c : Cursor) → Yields (fun r => r.1 = value ∨ r.1.isTemplate = false)
      (readSuffixes depth nested start value c)
  | 0, value, c => by
    rw [readSuffixes]
    exact yields_error _
  | depth + 1, value, c => by
    have hgone {value' : Expr} {c₁ : Cursor} (hvalue' : value'.isTemplate = false) :
        Yields (fun r => r.1 = value ∨ r.1.isTemplate = false)
          (readSuffixes depth nested start value' c₁) :=
      (readSuffixes_isTemplate nested start depth value' c₁).imp fun r h =>
        .inr (h.elim (fun heq => heq ▸ hvalue') id)
    rw [readSuffixes]
    dsimp only
    split
    · exact .bind_any fun _ => hgone rfl
    · exact .bind_any fun _ => .bind_any fun _ => hgone rfl
    · exact .bind_any fun _ => hgone rfl
    · exact yields_ok (.inl rfl)

/-- A value with an operator behind it is no template literal. -/
theorem readInfix_isTemplate (nested : Bool) (power : Nat) : (depth : Nat) → (left : Expr) →
    (c : Cursor) → Yields (fun r => r.1 = left ∨ r.1.isTemplate = false)
      (readInfix depth nested power left c)
  | 0, left, c => by
    rw [readInfix]
    exact yields_error _
  | depth + 1, left, c => by
    have hgone {value : Expr} {c₁ : Cursor} (hvalue : value.isTemplate = false) :
        Yields (fun r => r.1 = left ∨ r.1.isTemplate = false)
          (readInfix depth nested power value c₁) :=
      (readInfix_isTemplate nested power depth value c₁).imp fun r h =>
        .inr (h.elim (fun heq => heq ▸ hvalue) id)
    rw [readInfix]
    dsimp only
    split
    · split
      · exact yields_ok (.inl rfl)
      · split
        · exact yields_ok (.inl rfl)
        · split
          · exact .bind_any fun _ => hgone rfl
          · exact .bind_any fun _ => .bind_any fun _ => .bind_any fun _ => hgone rfl
    · exact yields_ok (.inl rfl)

/-- What is read as a template literal from one is its parts. -/
theorem exists_readParts (htokens : c.tokens = .template body offset :: ts)
    (h : readExpr depth nested 0 c = .ok (.template parts, c')) :
    ∃ depth', readParts depth' (rawParts offset body) (offset + byteLength body) = .ok parts := by
  match depth with
  | 0 =>
    rw [readExpr] at h
    exact nomatch h
  | 1 =>
    rw [readExpr, readOperand] at h
    exact nomatch h
  | depth + 2 =>
    rw [readExpr, readOperand] at h
    dsimp only at h
    rw [skipWhile_of_tokens htokens rfl, token?_of_tokens htokens] at h
    obtain ⟨⟨left, c₁⟩, hleft, hinfix⟩ := bind_eq_ok_iff.mp h
    obtain ⟨found, hfound, hsuffixes⟩ := bind_eq_ok_iff.mp hleft
    obtain rfl | hinfix := readInfix_isTemplate nested 0 _ left c₁ _ hinfix
    · obtain hvalue | hvalue := readSuffixes_isTemplate nested _ _ _ _ _ hsuffixes
      · refine ⟨depth, ?_⟩
        dsimp only at hvalue
        split at hvalue
        · exact nomatch hvalue
        · rw [hfound, Expr.template.inj hvalue]
      · exact nomatch hvalue
    · exact nomatch hinfix

/-- The first token of a script is read where the script starts. -/
theorem exists_first_token {c : Char} {lexemes : List Lexeme}
    (h : Lexeme.ofScript offset (c :: cs) = .ok lexemes) : ∃ token rest tail,
      readToken offset c cs = .ok (token, rest) ∧
      lexemes.map Lexeme.token = token.toList ++ tail := by
  rw [Lexeme.ofScript] at h
  split at h
  · cases h
  · next token rest hread =>
    obtain ⟨tail, -, rfl⟩ := map_eq_ok_iff.mp h
    refine ⟨token, rest, tail.map Lexeme.token, hread, ?_⟩
    cases token <;> rfl

theorem readToken_template {rest : List Char} (h : scanTemplate? 0 cs = some (body, rest))
    (offset : Nat) :
    readToken offset '`' cs = .ok (some (.template body (offset + 1)), rest) := by
  unfold readToken
  rw [h]
  rfl

/-- A script that is read as a template literal after a mark has been cut where the literal ends. -/
theorem exists_scanTemplate? (h : readWhole depth offset ('`' :: cs) = .ok (.template parts)) :
    ∃ depth' body rest, scanTemplate? 0 cs = some (body, rest) ∧
      readParts depth' (rawParts (offset + 1) body) (offset + 1 + byteLength body) = .ok parts := by
  cases depth with
  | zero =>
    rw [readWhole] at h
    exact nomatch h
  | succ depth =>
    rw [readWhole] at h
    obtain ⟨lexemes, hlexemes, h⟩ := bind_eq_ok_iff.mp h
    obtain ⟨⟨value, c⟩, hvalue, h⟩ := bind_eq_ok_iff.mp h
    obtain ⟨token, rest, tail, hread, htokens⟩ := exists_first_token hlexemes
    dsimp only at h
    split at h
    · obtain rfl := Except.ok.inj h
      cases hscan : scanTemplate? 0 cs with
      | none =>
        unfold readToken at hread
        rw [hscan] at hread
        exact nomatch hread
      | some found =>
        obtain ⟨body, rest'⟩ := found
        have hbody := readToken_template hscan offset
        obtain ⟨rfl, rfl⟩ := Prod.mk.inj (Except.ok.inj (hbody.symm.trans hread))
        have hstart : (Cursor.start lexemes (offset + byteLength ('`' :: cs))).tokens =
            .template body (offset + 1) :: tail := htokens
        rw [skipWhile_of_tokens hstart rfl] at hvalue
        obtain ⟨depth', hparts⟩ := exists_readParts hstart hvalue
        exact ⟨depth', body, _, rfl, hparts⟩
    · exact nomatch h

theorem rawParts_unclosed (h : closeHole? 0 cs = none) :
    rawParts offset ('$' :: '\x7b' :: cs) = [.unclosed offset] := by
  rw [rawParts, rawPartsFrom]
  split
  · next hparts =>
    split at hparts
    · cases hparts
    · next hclose => cases h.symm.trans hclose
  · split
    · rfl
    · next hclose => cases h.symm.trans hclose

theorem rawParts_hole {rest : List Char} (h : closeHole? 0 cs = some (body, rest)) :
    rawParts offset ('$' :: '\x7b' :: cs) =
      .hole (offset + 2) body :: rawPartsFrom (offset + 3 + byteLength body) [] rest := by
  have hparts : rawPartsFrom offset [] ('$' :: '\x7b' :: cs) =
      .hole (offset + 2) body :: rawPartsFrom (offset + 3 + byteLength body) [] rest := by
    rw [rawPartsFrom]
    split
    · next hclose => cases h.symm.trans hclose
    · next body' rest' hclose =>
      obtain ⟨rfl, rfl⟩ := Prod.mk.inj (Option.some.inj (h.symm.trans hclose))
      rfl
  rw [rawParts, hparts]

/-- A literal that starts with a hole is read as one part only if the hole is closed and is read. -/
theorem exists_readWhole
    (h : readParts depth (rawParts offset ('$' :: '\x7b' :: cs)) stop = .ok [.hole y]) :
    ∃ depth' body rest, closeHole? 0 cs = some (body, rest) ∧
      readWhole depth' (offset + 2) body = .ok y := by
  cases depth with
  | zero =>
    rw [readParts] at h
    exact nomatch h
  | succ depth =>
    cases hclose : closeHole? 0 cs with
    | none =>
      rw [rawParts_unclosed hclose, readParts] at h
      exact nomatch h
    | some found =>
      obtain ⟨body, rest⟩ := found
      rw [rawParts_hole hclose, readParts] at h
      obtain ⟨value, hvalue, h⟩ := bind_eq_ok_iff.mp h
      obtain ⟨others, -, h⟩ := bind_eq_ok_iff.mp h
      obtain ⟨hpart, -⟩ := List.cons.inj (Except.ok.inj h)
      exact ⟨depth, body, rest, rfl, Part.hole.inj hpart ▸ hvalue⟩

/-- No expression goes on with a brace behind another expression. -/
theorem not_braced {d : List Char} (hx : readWhole depth offset (d ++ '\x7d' :: cs) = .ok x)
    (hy : readWhole depth' offset' d = .ok y) : ¬ Uncommented (d ++ '\x7d' :: cs) := by
  intro hcomment
  obtain ⟨lexemes, hlexemes, hall⟩ := readWhole_tokens hx
  obtain ⟨lexemes', hlexemes', -⟩ := readWhole_tokens hy
  exact absurd (hall _ (Scans.rightBrace_mem (scans_of_lexemes hlexemes') hcomment
    (scans_of_lexemes hlexemes))) Bool.false_ne_true

/-- Where the brace and the mark behind an expression are split up otherwise, a brace is in the
expression. -/
theorem brace_mem_or {tail rest : List Char}
    (h : e ++ ['\x7d', '`'] = body ++ '\x7d' :: (tail ++ '`' :: rest)) :
    (∃ more, e = body ++ '\x7d' :: more) ∨ body = e ∧ tail = [] ∧ rest = [] := by
  have hlength := congrArg List.length h
  simp only [List.length_append, List.length_cons, List.length_nil] at hlength
  by_cases hbody : body.length = e.length
  · obtain ⟨rfl, -⟩ := List.append_inj h hbody.symm
    exact .inr ⟨rfl, List.length_eq_zero_iff.mp (by omega), List.length_eq_zero_iff.mp (by omega)⟩
  · obtain ⟨extra, rfl⟩ : body <+: e :=
      List.prefix_of_prefix_length_le ⟨_, h.symm⟩ (List.prefix_append e _) (by omega)
    rw [List.append_assoc] at h
    cases extra with
    | nil => exact absurd (congrArg List.length (List.append_nil body).symm) hbody
    | cons d more =>
      obtain ⟨rfl, -⟩ := List.cons.inj (List.append_cancel_left h)
      exact .inl ⟨more, rfl⟩

/-- **If the literal is read as one part, its end and that of the hole have been found right behind
the expression.** -/
theorem ends_of_readWhole (he : readWhole depth offset e = .ok x) (hcomment : Uncommented e)
    (h : readWhole depth' offset' (interpolated e) = .ok (.template [.hole y])) :
    Balanced e ∧ Contained e := by
  obtain ⟨_, literal, rest, hscan, hparts⟩ := exists_scanTemplate? h
  obtain ⟨⟨inner, rest⟩, hinner, heq⟩ := Option.map_eq_some_iff.mp hscan
  obtain ⟨rfl, rfl⟩ := Prod.mk.inj heq
  obtain ⟨_, body, tail, hclose, hbody⟩ := exists_readWhole hparts
  obtain rfl := closeHole?_eq hclose
  have hends : e ++ ['\x7d', '`'] = body ++ '\x7d' :: (tail ++ '`' :: rest) := by
    simpa using scanTemplate?_eq hinner
  obtain ⟨more, rfl⟩ | ⟨rfl, rfl, rfl⟩ := brace_mem_or hends
  · exact absurd hcomment (not_braced he hbody)
  · exact ⟨closeHole?_eq_some_iff.mp hclose, hscan⟩

/-! ## From the literal to its value -/

/-- A hole with balanced braces is the only part of its literal. -/
theorem readParts_hole (hbalanced : Balanced e) (he : readWhole depth (offset + 2) e = .ok x)
    (stop : Nat) : readParts (depth + 1) (rawParts offset (hole e)) stop = .ok [.hole x] := by
  have hclose : closeHole? 0 (e ++ ['\x7d']) = some (e, []) :=
    closeHole?_eq_some_iff.mpr hbalanced
  have hnone : literalPart [].reverse = [] := rfl
  rw [hole, rawParts_hole hclose, rawPartsFrom, hnone, readParts, he]
  cases depth with
  | zero =>
    rw [readWhole] at he
    cases he
  | succ depth =>
    rw [readParts]
    rfl

/-- A literal with nothing behind it is an expression. -/
theorem readExpr_template (hc : c.tokens = [.template body offset])
    (hparts : ∀ stop, readParts depth (rawParts offset body) stop = .ok [.hole x]) :
    readExpr (depth + 2) false 0 c = .ok (.template [.hole x], c.next) := by
  have hstop : Stops 0 c.next.tokens := by
    rw [tokens_next hc]
    intro t ht
    cases ht
  cases depth with
  | zero =>
    have hnone := hparts 0
    rw [readParts] at hnone
    cases hnone
  | succ depth =>
    have hoperand : readOperand (depth + 2) false c = .ok (.template [.hole x], c.next) := by
      rw [readOperand]
      dsimp only
      rw [skipWhile_of_tokens hc rfl, token?_of_tokens hc]
      dsimp only
      rw [hparts]
      exact readSuffixes_stop hstop
    rw [readExpr_step hoperand, readInfix_stop hstop]

/-- **If both ends are found right behind the expression, the literal is read as one part.** -/
theorem readWhole_interpolated (hbalanced : Balanced e) (hcontained : Contained e)
    (he : readWhole depth (offset + 3) e = .ok x) :
    readWhole (depth + 4) offset (interpolated e) = .ok (.template [.hole x]) := by
  have hread := readToken_template hcontained offset
  have hend (offset : Nat) : Lexeme.ofScript offset [] = .ok [] := by rw [Lexeme.ofScript]
  have hlexemes := lexemes_step hread (interpolated e) (List.append_nil _).symm (hend _)
  generalize hstop : offset + byteLength (interpolated e) = stop at hlexemes
  have hstart : (Cursor.start [⟨.template (hole e) (offset + 1), ⟨offset, stop⟩⟩] stop).tokens =
      [.template (hole e) (offset + 1)] := rfl
  rw [readWhole, hstop]
  show (Lexeme.ofScript offset ('`' :: (hole e ++ ['`'])) >>= _) = _
  rw [hlexemes]
  show (readExpr (depth + 3) false 0 ((Cursor.start _ stop).skipWhile Token.isSeparator) >>= _) = _
  rw [skipWhile_of_tokens hstart rfl, readExpr_template hstart (readParts_hole hbalanced he)]
  rfl

/-- An expression in a literal keeps its value, three bytes further behind. -/
theorem ofScript_interpolated (hbalanced : Balanced e) (hcontained : Contained e)
    (he : Expr.ofScript offset e = .ok x) :
    Expr.ofScript offset (interpolated e) = .ok (.template [.hole (shift 3 x)]) := by
  have hlength : (interpolated e).length = e.length + 5 := by simp [interpolated, hole]
  have hdepth : depthFor (interpolated e) = depthFor e + 36 + 4 := by
    rw [depthFor, depthFor, hlength]
    omega
  have hshift : readWhole (depthFor e) (offset + 3) e = .ok (shift 3 x) := by
    rw [Nat.add_comm, readWhole_shift]
    exact congrArg (shift 3) he
  rw [Expr.ofScript, hdepth]
  exact readWhole_interpolated hbalanced hcontained (readWhole_of_le hshift (Nat.le_add_right _ _))

/-- The value of an expression in a literal. -/
def Expr.interpolated (x : Expr) : Expr := .template [.hole (shift 3 x)]

/-- **Literals can be nested to any depth** around an expression without backslashes whose braces
balance. -/
theorem ofScript_nested (he : Expr.ofScript offset e = .ok x) (hbalanced : Balanced e)
    (hslash : '\\' ∉ e) (n : Nat) :
    Expr.ofScript offset (interpolated^[n] e) = .ok (Expr.interpolated^[n] x) := by
  have hkept : ∀ n, Balanced (interpolated^[n] e) ∧ '\\' ∉ interpolated^[n] e := by
    intro n
    induction n with
    | zero => exact ⟨hbalanced, hslash⟩
    | succ n ih =>
      rw [Function.iterate_succ_apply']
      exact ⟨ih.1.interpolated, by simpa [interpolated, hole] using ih.2⟩
  induction n with
  | zero => exact he
  | succ n ih =>
    obtain ⟨hbalanced, hslash⟩ := hkept n
    rw [Function.iterate_succ_apply', Function.iterate_succ_apply']
    exact ofScript_interpolated hbalanced (hbalanced.contained hslash) ih

end Stencil.Script
