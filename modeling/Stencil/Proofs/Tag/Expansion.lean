import Stencil.Proofs.Script.Reading
import Stencil.Tag.Body

/-!
# What expanded bodies are read as

The short forms for links and dates turn their body into a call of a helper with one quoted text.
Whatever stands in the body is read back as that text: it cannot end the quotation, so nothing of it
is read as script.

* `lexemes_argument` and `readSuffixes_argument`: a quoted text between parentheses is one argument.
* `ofScript_callRef` and `ofScript_callDate`: the calls that are read.
-/

namespace Stencil

open Script Text

namespace Script

/-! ## Lexemes -/

theorem lexemes_symbol {offset : Nat} {c : Char} {rest : List Char} {lexemes : List Lexeme}
    (sign : Symbol) (hsign : sign.spelling = [c]) (hgrows : sign.grows = false)
    (hsize : c.utf8Size = 1) (h : Lexeme.ofScript (offset + 1) rest = .ok lexemes) :
    Lexeme.ofScript offset (c :: rest) =
      .ok (⟨.symbol sign, ⟨offset, offset + 1⟩⟩ :: lexemes) := by
  obtain ⟨d, ds, hspelling, hread⟩ := @readToken_symbol sign rest fun hgrows' =>
    absurd (hgrows.symm.trans hgrows') Bool.false_ne_true
  obtain ⟨rfl, rfl⟩ := List.cons.inj (hsign.symm.trans hspelling)
  have hbytes : byteLength [c] = 1 := hsize
  have hstep := lexemes_step (hread offset) [c] rfl (by rwa [hbytes])
  rwa [hbytes] at hstep

theorem lexemes_name {offset : Nat} {name : String} {c : Char} {rest : List Char}
    {lexemes : List Lexeme} (hname : IsName name) (hc : continuesName c = false)
    (h : Lexeme.ofScript (offset + byteLength name.toList) (c :: rest) = .ok lexemes) :
    Lexeme.ofScript offset (name.toList ++ c :: rest) =
      .ok (⟨.name name, ⟨offset, offset + byteLength name.toList⟩⟩ :: lexemes) := by
  obtain ⟨d, ds, hspelling, -, hread⟩ := @IsName.readToken name hname (c :: rest) fun e he =>
    Option.some.inj he ▸ hc
  rw [hspelling] at h ⊢
  exact lexemes_step (hread offset) (d :: ds) rfl h

/-- A quoted text between parentheses. -/
theorem lexemes_argument (offset : Nat) (text : List Char) :
    Lexeme.ofScript offset ('(' :: (quote text ++ [')'])) =
      .ok [⟨.symbol .leftParen, ⟨offset, offset + 1⟩⟩,
        ⟨.text (String.ofList text), ⟨offset + 1, offset + 1 + byteLength (quote text)⟩⟩,
        ⟨.symbol .rightParen, ⟨offset + 1 + byteLength (quote text),
          offset + 1 + byteLength (quote text) + 1⟩⟩] := by
  have hend (offset : Nat) : Lexeme.ofScript offset [] = .ok [] := by rw [Lexeme.ofScript]
  have hclose := lexemes_symbol .rightParen (rfl : _ = [')']) rfl rfl
    (hend (offset + 1 + byteLength (quote text) + 1))
  have hread := readToken_text (offset + 1) (String.ofList text) [')']
  rw [String.toList_ofList] at hread
  have htext := lexemes_step hread (quote text) (by simp [quote]) hclose
  have hquote : quote text ++ [')'] = '"' :: (text.flatMap quoteChar ++ ['"', ')']) := by
    simp [quote]
  rw [hquote]
  exact lexemes_symbol .leftParen rfl rfl rfl htext

/-! ## Parsing -/

/-- A quoted text between parentheses behind a callee. -/
theorem readSuffixes_argument (depth : Nat) {start last stop : Nat} {callee : Expr}
    {value : String} {s t u : Span} :
    readSuffixes (depth + 5) false start callee
        ⟨[⟨.symbol .leftParen, s⟩, ⟨.text value, t⟩, ⟨.symbol .rightParen, u⟩], last, stop⟩ =
      .ok (.call callee [.text value] ⟨start, u.stop⟩, ⟨[], u.stop, stop⟩) := by
  let close : Cursor := ⟨[⟨.symbol .rightParen, u⟩], t.stop, stop⟩
  let inside : Cursor := ⟨⟨.text value, t⟩ :: close.rest, s.stop, stop⟩
  have hclose : Stops 0 close.tokens := stops_close rfl nofun nofun nofun
  have hend : Stops 0 (Cursor.tokens ⟨[], u.stop, stop⟩) := nofun
  have hoperand : readOperand (depth + 2) true inside = .ok (.text value, close) := by
    have hinside : inside.tokens = .text value :: close.tokens := rfl
    rw [readOperand_token hinside rfl]
    exact readSuffixes_stop hclose
  have hitem : readExpr (depth + 3) true 0 inside = .ok (.text value, close) := by
    rw [readExpr_step hoperand]
    exact readInfix_stop hclose
  have hitems : readItems (depth + 4) .rightParen .commaOrParen inside =
      .ok ([.text value], ⟨[], u.stop, stop⟩) := by
    rw [readItems_item rfl rfl rfl hitem rfl]
    rfl
  rw [readSuffixes_call rfl hitems]
  exact readSuffixes_stop hend

/-- A script that starts with a name and holds nothing but what follows this name. -/
theorem ofScript_of_name {offset last : Nat} {body : List Char} {name : String} {span : Span}
    {rest : List Lexeme} {value : Expr}
    (hlexemes : Lexeme.ofScript offset body = .ok (⟨.name name, span⟩ :: rest))
    (hread : ∀ depth, readSuffixes (depth + 6) false span.start (.identifier name span)
      ⟨rest, span.stop, offset + byteLength body⟩ =
        .ok (value, ⟨[], last, offset + byteLength body⟩)) :
    Expr.ofScript offset body = .ok value := by
  obtain ⟨depth, hdepth⟩ : ∃ depth, depthFor body = depth + 6 + 1 + 1 + 1 := by
    have hlength := ofScript_length hlexemes
    rw [List.length_cons] at hlength
    exact ⟨8 * body.length - 1, by unfold depthFor; omega⟩
  let start := Cursor.start (⟨.name name, span⟩ :: rest) (offset + byteLength body)
  let stop : Cursor := ⟨[], last, offset + byteLength body⟩
  have hstart : start.tokens = .name name :: rest.map Lexeme.token := rfl
  have hstop : Stops 0 stop.tokens := nofun
  have hoperand : readOperand (depth + 6 + 1) false start = .ok (value, stop) := by
    rw [readOperand_token hstart rfl]
    exact hread depth
  have hexpr : readExpr (depth + 6 + 1 + 1) false 0 start = .ok (value, stop) := by
    rw [readExpr_step hoperand]
    exact readInfix_stop hstop
  rw [Expr.ofScript, hdepth, readWhole, hlexemes]
  show (readExpr _ false 0 (start.skipWhile Token.isSeparator) >>= _) = _
  rw [Cursor.skipWhile_of_tokens hstart rfl, hexpr]
  rfl

end Script

namespace Tag

variable (offset : Nat) (text : List Char)

theorem byteLength_callWithText (helper : String) : byteLength (callWithText helper text) =
    byteLength helper.toList + 1 + byteLength (quote text) + 1 := by
  have hparens : '('.utf8Size = 1 ∧ ')'.utf8Size = 1 := ⟨rfl, rfl⟩
  simp only [callWithText, byteLength_append, byteLength_cons, byteLength_nil, hparens]
  omega

/-- **A call of `ref` with a quoted text** is read as that, whatever the text is. -/
theorem ofScript_callRef : Expr.ofScript offset (callWithText "ref" text) =
    .ok (.call (.identifier "ref" ⟨offset, offset + 3⟩) [.text (String.ofList text)]
      ⟨offset, offset + byteLength (callWithText "ref" text)⟩) := by
  have hname : IsName "ref" := ⟨'r', ['e', 'f'], rfl, rfl⟩
  have hscript : "ref".toList ++ ('(' :: (quote text ++ [')'])) = callWithText "ref" text := by
    simp [callWithText]
  have hsize : byteLength "ref".toList = 3 := by decide
  have hlexemes := lexemes_name hname rfl
    (lexemes_argument (offset + byteLength "ref".toList) text)
  rw [hscript, hsize] at hlexemes
  have hstop : offset + byteLength (callWithText "ref" text) =
      offset + 3 + 1 + byteLength (quote text) + 1 := by
    rw [byteLength_callWithText, hsize]
    omega
  rw [hstop]
  exact ofScript_of_name hlexemes fun depth => readSuffixes_argument (depth + 1)

/-- **A call of `date.nlp` with a quoted text** is read as that, whatever the text is. -/
theorem ofScript_callDate : Expr.ofScript offset (callWithText "date.nlp" text) =
    .ok (.call (.member (.identifier "date" ⟨offset, offset + 4⟩) "nlp" ⟨offset, offset + 8⟩)
      [.text (String.ofList text)]
      ⟨offset, offset + byteLength (callWithText "date.nlp" text)⟩) := by
  have hdate : IsName "date" := ⟨'d', ['a', 't', 'e'], rfl, rfl⟩
  have hnlp : IsName "nlp" := ⟨'n', ['l', 'p'], rfl, rfl⟩
  have hscript : "date".toList ++ ('.' :: ("nlp".toList ++ ('(' :: (quote text ++ [')'])))) =
      callWithText "date.nlp" text := by
    simp [callWithText]
  have hsizes : byteLength "date".toList = 4 ∧ byteLength "nlp".toList = 3 := by decide
  have hlexemes := lexemes_name hdate rfl
    (lexemes_symbol .dot rfl rfl rfl
      (lexemes_name hnlp rfl
        (lexemes_argument (offset + byteLength "date".toList + 1 + byteLength "nlp".toList) text)))
  rw [hscript, hsizes.1, hsizes.2] at hlexemes
  have hstop : offset + byteLength (callWithText "date.nlp" text) =
      offset + 4 + 1 + 3 + 1 + byteLength (quote text) + 1 := by
    have hsize : byteLength "date.nlp".toList = 8 := by decide
    rw [byteLength_callWithText, hsize]
    omega
  rw [hstop]
  exact ofScript_of_name hlexemes fun depth =>
    (readSuffixes_member rfl).trans (readSuffixes_argument depth)

end Tag

end Stencil
