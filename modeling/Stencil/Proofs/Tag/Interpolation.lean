import Stencil.Proofs.Program.StatementTag
import Stencil.Proofs.Script.Interpolation

/-!
# Template literals in tags

The end of a template literal is looked for twice: by the search for the closing marker of the tag,
which passes over texts in holes, and by the lexer, which counts braces, also those in texts. A text
with a single brace is enough to break a literal.

* `skipNested_interpolated`: the search finds the end of a literal that has an expression as its
  only part.
* `ofScript_interpolated_iff`: when such a literal is read, and when the two agree on its end.
* `not_interpolated_brace`: a text with a brace, which no literal can have in a hole.
-/

namespace Stencil

open Script Text

/-- The search for the closing marker of a tag leaves the literal where it ends, if no comment in
the expression misleads it. -/
theorem skipNested_interpolated {e : List Char} (h : Legible .hole e) (more : List Char) :
    skipNested [.template] (hole e ++ '`' :: more) = some more := by
  have hagrees : Agrees statementTag .hole e :=
    h.agrees rfl (by simp [statementTag]) (by simp [statementTag])
  show skipNested [.hole 1, .template] (e ++ ['\x7d'] ++ '`' :: more) = some more
  rw [List.append_assoc, hagrees]
  exact skipNested_nil

/-- **An expression is read as the only part of a template literal exactly if its braces balance and
the lexer finds the end of the literal right behind the hole.** The search for the closing marker
finds the end there in any case, if no comment misleads it, so the two agree exactly if the lexer
does; without backslashes it does whenever the braces balance. -/
theorem ofScript_interpolated_iff {offset : Nat} {e : List Char} {x : Expr}
    (he : Expr.ofScript offset e = .ok x) (hcomment : Uncommented e) :
    (Expr.ofScript offset (interpolated e) = .ok (.template [.hole (shift 3 x)]) ↔
      Balanced e ∧ Contained e) ∧
    (Legible .hole e → ((∀ more, (scanTemplate? 0 (hole e ++ '`' :: more)).map Prod.snd =
      skipNested [.template] (hole e ++ '`' :: more)) ↔ Contained e)) ∧
    ('\\' ∉ e → Balanced e → Contained e) := by
  refine ⟨⟨ends_of_readWhole he hcomment, fun h => ofScript_interpolated h.1 h.2 he⟩,
    fun hlegible => ⟨fun h => ?_, fun hcontained more => ?_⟩,
    fun hslash hbalanced => hbalanced.contained hslash⟩
  · have hend := h []
    rw [skipNested_interpolated hlegible] at hend
    obtain ⟨⟨literal, rest⟩, hscan, rfl⟩ := Option.map_eq_some_iff.mp hend
    have hliteral := List.append_cancel_right (scanTemplate?_eq hscan)
    rw [← hliteral] at hscan
    exact hscan
  · have hscan := scanTemplate?_append more hcontained
    rw [List.append_assoc] at hscan
    rw [skipNested_interpolated hlegible]
    exact congrArg (Option.map Prod.snd) hscan

/-- A text with braces, and a literal with a hole of its own. -/
def mixed : List Char := "\"\x7b\x7d\" + `$\x7bx\x7d`".toList

theorem uncommented_mixed : Uncommented mixed := by
  have hliteral : Uncommented "`$\x7bx\x7d`".toList :=
    @Uncommented.cons 0 '`' _ [] (some (.template "$\x7bx\x7d".toList 1)) rfl (by decide) .nil
  have hplus : Uncommented " + `$\x7bx\x7d`".toList :=
    @Uncommented.cons 0 ' ' _ _ none rfl (by decide)
      (@Uncommented.cons 0 '+' _ _ (some (.symbol .plus)) rfl (by decide)
        (@Uncommented.cons 0 ' ' _ _ none rfl (by decide) hliteral))
  exact @Uncommented.cons 0 '"' _ _ (some (.text "\x7b\x7d")) rfl (by decide) hplus

theorem legible_mixed : Legible .hole mixed := by
  have hhole : Legible .hole ['x'] :=
    @Legible.token .hole 'x' [] [] (.name "x") (by decide) rfl (fun _ => rfl) nofun .nil
  have htemplate : Legible .template "$\x7bx\x7d".toList := .hole rfl hhole .nil
  have hliteral : Legible .hole "`$\x7bx\x7d`".toList := by
    refine @Legible.token .hole '`' "$\x7bx\x7d`".toList [] (.template "$\x7bx\x7d".toList 1)
      (by decide) rfl (fun _ => rfl) (fun body offset heq => ?_) .nil
    rw [← (Token.template.inj heq).1]
    exact htemplate
  have hplus : Legible .hole " + `$\x7bx\x7d`".toList :=
    @Legible.pass .hole ' ' [] _ (by decide) rfl (by decide)
      (@Legible.token .hole '+' [] _ (.symbol .plus) (by decide) rfl (fun _ => rfl) nofun
        (@Legible.pass .hole ' ' [] _ (by decide) rfl (by decide) hliteral))
  exact @Legible.token .hole '"' "\x7b\x7d\"".toList _ (.text "\x7b\x7d") (by decide) rfl
    (fun _ => rfl) nofun hplus

theorem ofScript_interpolated_mixed : ∃ x, Expr.ofScript 0 mixed = .ok x ∧ Uncommented mixed ∧
    Legible .hole mixed ∧
    Expr.ofScript 0 (interpolated mixed) = .ok (.template [.hole (shift 3 x)]) ∧
    ∀ more, (scanTemplate? 0 (hole mixed ++ '`' :: more)).map Prod.snd =
      skipNested [.template] (hole mixed ++ '`' :: more) := by
  have hread : Expr.ofScript 0 mixed = .ok (.binary .add (.text "\x7b\x7d")
      (.template [.hole (.identifier "x" ⟨10, 11⟩)])) := by cbv
  have hends : Balanced mixed ∧ Contained mixed := by decide
  obtain ⟨haccepted, hagrees, -⟩ := ofScript_interpolated_iff hread uncommented_mixed
  exact ⟨_, hread, uncommented_mixed, legible_mixed, haccepted.mpr hends,
    (hagrees legible_mixed).mpr hends.2⟩

/-- A text with a brace can stand by itself, and not in a template literal. -/
theorem not_interpolated_brace : ¬ ∀ (e : List Char) (x : Expr), Expr.ofScript 0 e = .ok x →
    Uncommented e →
    Expr.ofScript 0 (interpolated e) = .ok (.template [.hole (shift 3 x)]) := by
  intro h
  have hread : Expr.ofScript 0 "\"\x7d\"".toList = .ok (.text "\x7d") := by cbv
  have hcomment : Uncommented "\"\x7d\"".toList :=
    @Uncommented.cons 0 '"' _ [] (some (.text "\x7d")) rfl (by decide) .nil
  exact absurd (ends_of_readWhole hread hcomment (h _ _ hread hcomment)).1 (by decide)

end Stencil
