import Stencil.Proofs.Decimal.Numeral
import Stencil.Proofs.Result
import Stencil.Proofs.Script.Print
import Stencil.Proofs.Text.Trim

/-!
# Printed scripts are cut into their tokens

A printed token is read back as long as what follows does not go on with it: a name must not be
followed by a letter, a number by a digit, a symbol by a character that makes a longer symbol or a
comment of it.

* `Lexes` gives the tokens of a script; `Lexes.read` is one step of the scan, and `lexemes_step` one
  step with the spans.
* `scanText?_quote`, `scanNumber_positional`, `readSymbol?_spelling` and `IsName.readToken` say what
  the scanners make of the tokens that are printed.
* `Token.EndsAt`: a token does not go on with the text that follows it; `Lexes.token` reads it back.
* `Apart`: every piece of a list ends where the next one starts; `Apart.lexes` reads them back.
* `ofScript_length`: a script has no more tokens than characters.
-/

namespace Stencil.Script

open Text

/-! ## Tokens of a script -/

/-- The tokens of a script, wherever it stands. -/
def Lexes (cs : List Char) (ts : List Token) : Prop :=
  ∀ offset, ∃ lexemes, Lexeme.ofScript offset cs = .ok lexemes ∧ lexemes.map Lexeme.token = ts

theorem lexes_nil : Lexes [] [] := by
  intro offset
  rw [Lexeme.ofScript]
  exact ⟨[], rfl, rfl⟩

/-- What is read first comes before the tokens of the rest. -/
theorem Lexes.read {c : Char} {cs rest : List Char} {token : Option Token} {ts : List Token}
    (hread : ∀ offset, readToken offset c cs = .ok (token, rest)) (h : Lexes rest ts) :
    Lexes (c :: cs) (token.toList ++ ts) := by
  intro offset
  obtain ⟨lexemes, hlexemes, hts⟩ := h (offset + (byteLength (c :: cs) - byteLength rest))
  rw [Lexeme.ofScript]
  split
  · next fault heq =>
    rw [hread] at heq
    cases heq
  · next token' rest' heq =>
    rw [hread] at heq
    obtain ⟨rfl, rfl⟩ := Prod.mk.inj (Except.ok.inj heq)
    dsimp only
    rw [hlexemes]
    cases token with
    | none => exact ⟨lexemes, rfl, hts⟩
    | some token => exact ⟨_, rfl, congrArg (token :: ·) hts⟩

/-- A token comes before the lexemes of the rest, with the span of what was passed over. -/
theorem lexemes_step {offset : Nat} {c : Char} {cs rest : List Char} {token : Token}
    {lexemes : List Lexeme} (hread : readToken offset c cs = .ok (some token, rest))
    (passed : List Char) (hcs : c :: cs = passed ++ rest)
    (h : Lexeme.ofScript (offset + byteLength passed) rest = .ok lexemes) :
    Lexeme.ofScript offset (c :: cs) =
      .ok (⟨token, ⟨offset, offset + byteLength passed⟩⟩ :: lexemes) := by
  have hstop : byteLength (c :: cs) - byteLength rest = byteLength passed := by
    rw [hcs, byteLength_append, Nat.add_sub_cancel]
  rw [Lexeme.ofScript]
  split
  · next fault heq => cases hread.symm.trans heq
  · next token' rest' heq =>
    obtain ⟨rfl, rfl⟩ := Prod.mk.inj (Except.ok.inj (hread.symm.trans heq))
    dsimp only
    rw [hstop, h]
    rfl

/-- A script has no more tokens than characters. -/
theorem ofScript_length {offset : Nat} {cs : List Char} {lexemes : List Lexeme}
    (h : Lexeme.ofScript offset cs = .ok lexemes) : lexemes.length ≤ cs.length := by
  fun_induction Lexeme.ofScript offset cs generalizing lexemes with
  | case1 =>
    rw [← Except.ok.inj h]
    exact Nat.le_refl _
  | case2 => exact nomatch h
  | case3 offset c cs token rest hread =>
    rename_i ih
    obtain ⟨tail, htail, rfl⟩ := map_eq_ok_iff.mp h
    have hle := ih htail
    have hrest := readToken_length hread
    rw [List.length_cons]
    cases token with
    | none => exact Nat.le_succ_of_le (Nat.le_trans hle hrest)
    | some token => exact Nat.succ_le_succ (Nat.le_trans hle hrest)

/-! ## Blanks and symbols -/

theorem readToken_blank (offset : Nat) (cs : List Char) :
    readToken offset ' ' cs = .ok (none, cs) := rfl

/-- The symbols that another character may turn into a longer symbol or a comment. -/
def Symbol.grows : Symbol → Bool
  | .assign | .equal | .notEqual | .greater | .less | .not | .question | .slash => true
  | _ => false

/-- Whether a character may make a symbol grow. -/
def growsWith (c : Char) : Bool := c = '=' || c = '?' || c = '/' || c = '*'

theorem readSymbol?_spelling (sign : Symbol) {rest : List Char}
    (h : sign.grows = true → ∀ c ∈ rest.head?, growsWith c = false) :
    readSymbol? (sign.spelling ++ rest) = some (sign, rest) := by
  cases rest with
  | nil => cases sign <;> rfl
  | cons c rest =>
    by_cases hgrows : sign.grows = true
    · have hc := h hgrows c rfl
      simp only [growsWith, Bool.or_eq_false_iff, decide_eq_false_iff_not] at hc
      cases sign <;> simp_all [Symbol.grows, Symbol.spelling, readSymbol?]
    · cases sign <;> first | rfl | exact absurd rfl hgrows

/-- The characters with which no symbol starts: they start something else. -/
def startsOther (c : Char) : Bool :=
  c = '\n' || isBlank c || c = '"' || c = '\'' || c = '`' || c.isDigit || startsName c

theorem Symbol.spelling_head (sign : Symbol) : ∃ c cs, sign.spelling = c :: cs ∧
    startsOther c = false ∧ (c = '/' → sign.grows = true ∧ cs = []) := by
  cases sign <;> exact ⟨_, _, rfl, by decide, by decide⟩

theorem readToken_symbol (sign : Symbol) {rest : List Char}
    (h : sign.grows = true → ∀ c ∈ rest.head?, growsWith c = false) :
    ∃ c cs, sign.spelling = c :: cs ∧
      ∀ offset, readToken offset c (cs ++ rest) = .ok (some (.symbol sign), rest) := by
  obtain ⟨c, cs, hspelling, hother, hslash⟩ := sign.spelling_head
  refine ⟨c, cs, hspelling, fun offset => ?_⟩
  have hread := readSymbol?_spelling sign h
  rw [hspelling, List.cons_append] at hread
  have hcomment (d : Char) (hd : growsWith d = true) :
      ¬ (c = '/' && (cs ++ rest).head? = some d) = true := by
    intro hboth
    obtain ⟨hc, hhead⟩ := Bool.and_eq_true_iff.mp hboth
    obtain ⟨hgrows, rfl⟩ := hslash (of_decide_eq_true hc)
    exact absurd (h hgrows d (of_decide_eq_true hhead)) (by rw [hd]; decide)
  simp only [startsOther, Bool.or_eq_false_iff, decide_eq_false_iff_not] at hother
  obtain ⟨⟨⟨⟨⟨⟨hfeed, hblank⟩, hquote⟩, happostrophe⟩, hbacktick⟩, hdigit⟩, hname⟩ := hother
  unfold readToken
  dsimp only
  rw [if_neg hfeed, hblank, if_neg Bool.false_ne_true, if_neg (hcomment '/' rfl),
    if_neg (hcomment '*' rfl), decide_eq_false hquote, decide_eq_false happostrophe,
    if_neg (by decide), if_neg hbacktick, hdigit, if_neg Bool.false_ne_true, hname,
    if_neg Bool.false_ne_true, hread]

/-! ## Quoted texts -/

/-- A character is quoted by a backslash and a character that stands for it, or by itself. -/
theorem quoteChar_cases (c : Char) :
    (∃ d, quoteChar c = ['\\', d] ∧ unescape d = c) ∨
      (quoteChar c = [c] ∧ c ≠ '"' ∧ c ≠ '\\' ∧ c ≠ '\n') := by
  unfold quoteChar
  split
  · next hc => exact .inl ⟨'"', rfl, hc.symm⟩
  · next hquote =>
    split
    · next hc => exact .inl ⟨'\\', rfl, hc.symm⟩
    · next hslash =>
      split
      · next hc => exact .inl ⟨'n', rfl, hc.symm⟩
      · next hfeed => exact .inr ⟨rfl, hquote, hslash, hfeed⟩

/-- The text between quotes is read back. -/
theorem scanText?_quote (rest : List Char) : ∀ text : List Char,
    scanText? '"' (text.flatMap quoteChar ++ '"' :: rest) = some (text, rest)
  | [] => rfl
  | c :: text => by
    have ih := scanText?_quote rest text
    rw [List.flatMap_cons, List.append_assoc]
    obtain ⟨d, hquoted, hd⟩ | ⟨hquoted, hquote, hslash, hfeed⟩ := quoteChar_cases c
    · rw [hquoted, List.cons_append, List.cons_append, List.nil_append, scanText?, ih,
        Option.map_some, hd]
    · rw [hquoted, List.cons_append, List.nil_append, scanText?, if_neg hquote, if_neg hfeed, ih,
        Option.map_some]
      · exact fun d ds hd => absurd hd hslash
      · exact fun hd => absurd hd hslash

theorem not_comment {c d : Char} {cs : List Char} (h : c ≠ '/') :
    ¬ (c = '/' && cs.head? = some d) = true :=
  fun hboth => h (of_decide_eq_true (Bool.and_eq_true_iff.mp hboth).1)

theorem readToken_text (offset : Nat) (value : String) (rest : List Char) :
    readToken offset '"' (value.toList.flatMap quoteChar ++ '"' :: rest) =
      .ok (some (.text value), rest) := by
  unfold readToken
  dsimp only
  rw [if_neg (by decide), if_neg (by decide), if_neg (not_comment (by decide)),
    if_neg (not_comment (by decide)), if_pos (by decide), scanText?_quote]
  dsimp only
  rw [String.ofList_toList]

/-! ## Numbers -/

/-- Digits are part of a number. -/
theorem scanNumber_append {tail digits rest : List Char} (h : scanNumber tail = (digits, rest)) :
    ∀ {ds : List Char}, (∀ c ∈ ds, c.isDigit = true) →
      scanNumber (ds ++ tail) = (ds ++ digits, rest)
  | [], _ => h
  | c :: ds, hds => by
    have hc := hds c List.mem_cons_self
    have ih := scanNumber_append h fun d hd => hds d (List.mem_cons_of_mem c hd)
    rw [List.cons_append, scanNumber, if_pos (by rw [hc]; rfl), ih]
    rfl

/-- A numeral is scanned to its end. -/
theorem scanNumber_positional {cs whole fraction rest : List Char}
    (h : Decimal.Positional cs whole fraction) (hrest : scanNumber rest = ([], rest)) :
    scanNumber (cs ++ rest) = (cs, rest) := by
  obtain ⟨rfl, -, hwhole, hfraction⟩ := h
  rw [List.append_assoc]
  refine scanNumber_append ?_ hwhole
  cases fraction with
  | nil => exact hrest
  | cons c fraction =>
    have hc := hfraction c List.mem_cons_self
    have htail := scanNumber_append hrest hfraction
    rw [List.append_nil] at htail
    show scanNumber ('.' :: ((c :: fraction) ++ rest)) = ('.' :: c :: fraction, rest)
    rw [scanNumber, if_pos (by rw [List.cons_append, List.head?_cons, Option.any_some, hc]; rfl),
      htail]

theorem readToken_number {x : Float} (h : IsLiteral x) {rest : List Char}
    (hrest : scanNumber rest = ([], rest)) : ∃ c cs, Decimal.numeral x = c :: cs ∧
      c.isDigit = true ∧
      ∀ offset, readToken offset c (cs ++ rest) = .ok (some (.number x), rest) := by
  obtain ⟨mantissa, exponent, hview⟩ := h
  obtain ⟨whole, fraction, hshape, hread⟩ := Decimal.readNumeral?_numeral hview
  obtain ⟨c, cs, hcs, hc⟩ := hshape.head
  refine ⟨c, cs, hcs, hc, fun offset => ?_⟩
  have hscan := scanNumber_positional hshape hrest
  rw [hcs] at hscan hread
  rw [List.cons_append] at hscan
  have hne (d : Char) (hd : d.isDigit = false) : c ≠ d := by
    rintro rfl
    exact absurd (hc.symm.trans hd) (by decide)
  unfold readToken
  dsimp only
  rw [if_neg (hne '\n' rfl), isBlank_of_isDigit hc, if_neg Bool.false_ne_true,
    if_neg (not_comment (hne '/' rfl)), if_neg (not_comment (hne '/' rfl)),
    decide_eq_false (hne '"' rfl), decide_eq_false (hne '\'' rfl), if_neg (by decide),
    if_neg (hne '`' rfl), if_pos hc, hscan]
  dsimp only
  rw [hread]

/-! ## Words -/

/-- A word of characters that may stand in a name, with one in front that may start a name, is read
to its end. -/
theorem readToken_word {c : Char} {cs rest : List Char} (hblank : isBlank c = false)
    (hdigit : c.isDigit = false) (hstart : startsName c = true)
    (hcs : ∀ d ∈ cs, continuesName d = true) (hrest : ∀ d ∈ rest.head?, continuesName d = false)
    (offset : Nat) : readToken offset c (cs ++ rest) =
      .ok (some (.ofWord (String.ofList (c :: cs))), rest) := by
  have hne (d : Char) (hd : startsName d = false) : c ≠ d := by
    rintro rfl
    exact absurd (hstart.symm.trans hd) (by decide)
  obtain ⟨htake, hdrop⟩ := Decimal.scan_append hcs rest hrest
  unfold readToken
  dsimp only
  rw [if_neg (hne '\n' (by decide)), hblank, if_neg Bool.false_ne_true,
    if_neg (not_comment (hne '/' (by decide))), if_neg (not_comment (hne '/' (by decide))),
    decide_eq_false (hne '"' (by decide)), decide_eq_false (hne '\'' (by decide)),
    if_neg (by decide), if_neg (hne '`' (by decide)), hdigit, if_neg Bool.false_ne_true,
    if_pos hstart, htake, hdrop]

/-- What the scan has tested when it has read a name. -/
theorem IsName.exists_cons {name : String} (h : IsName name) : ∃ c cs, name.toList = c :: cs ∧
    isBlank c = false ∧ c.isDigit = false ∧ startsName c = true ∧
    (∀ d ∈ cs, continuesName d = true) ∧ Token.ofWord name = .name name := by
  obtain ⟨c, cs, hname, hread⟩ := h
  refine ⟨c, cs, hname, ?_⟩
  unfold readToken at hread
  dsimp only at hread
  split at hread
  · exact nomatch hread
  split at hread
  · exact nomatch hread
  next hblank =>
  split at hread
  · exact nomatch hread
  split at hread
  · split at hread <;> exact nomatch hread
  split at hread
  · split at hread <;> exact nomatch hread
  split at hread
  · split at hread <;> exact nomatch hread
  split at hread
  · split at hread <;> exact nomatch hread
  next hdigit =>
  split at hread
  · next hstart =>
    obtain ⟨hword, hdrop⟩ := Prod.mk.inj (Except.ok.inj hread)
    have htake : cs.takeWhile continuesName = cs := by
      rw [← List.append_nil (cs.takeWhile continuesName), ← hdrop, List.takeWhile_append_dropWhile]
    rw [htake, ← hname, String.ofList_toList] at hword
    refine ⟨eq_false_of_ne_true hblank, eq_false_of_ne_true hdigit, hstart, fun d hd => ?_,
      Option.some.inj hword⟩
    exact List.all_eq_true.mp List.all_takeWhile d (htake.symm ▸ hd)
  · split at hread <;> exact nomatch hread

theorem IsName.readToken {name : String} (h : IsName name) {rest : List Char}
    (hrest : ∀ d ∈ rest.head?, continuesName d = false) : ∃ c cs, name.toList = c :: cs ∧
      startsName c = true ∧
      ∀ offset, readToken offset c (cs ++ rest) = .ok (some (.name name), rest) := by
  obtain ⟨c, cs, hname, hblank, hdigit, hstart, hcs, hword⟩ := h.exists_cons
  refine ⟨c, cs, hname, hstart, fun offset => ?_⟩
  rw [readToken_word hblank hdigit hstart hcs hrest, ← hname, String.ofList_toList, hword]

theorem Keyword.exists_cons_spelling (word : Keyword) : ∃ c cs, word.spelling.toList = c :: cs ∧
    isBlank c = false ∧ c.isDigit = false ∧ startsName c = true ∧
    cs.all continuesName = true := by
  cases word <;> exact ⟨_, _, rfl, rfl, rfl, rfl, rfl⟩

theorem Keyword.ofWord_spelling (word : Keyword) :
    Token.ofWord word.spelling = .keyword word := by
  cases word <;> simp [Keyword.spelling, Token.ofWord]

theorem readToken_keyword (word : Keyword) {rest : List Char}
    (hrest : ∀ d ∈ rest.head?, continuesName d = false) : ∃ c cs, word.spelling.toList = c :: cs ∧
      startsName c = true ∧
      ∀ offset, readToken offset c (cs ++ rest) = .ok (some (.keyword word), rest) := by
  obtain ⟨c, cs, hspelling, hblank, hdigit, hstart, hcs⟩ := word.exists_cons_spelling
  refine ⟨c, cs, hspelling, hstart, fun offset => ?_⟩
  rw [readToken_word hblank hdigit hstart (List.all_eq_true.mp hcs) hrest, ← hspelling,
    String.ofList_toList, word.ofWord_spelling]

/-! ## Pieces -/

/-- Whether a token is read back, and no more than it, where `rest` follows. -/
def Token.EndsAt (rest : List Char) : Token → Prop
  | .number value => IsLiteral value ∧ scanNumber rest = ([], rest)
  | .text _ => True
  | .template .. => False
  | .name value => IsName value ∧ ∀ d ∈ rest.head?, continuesName d = false
  | .keyword _ => ∀ d ∈ rest.head?, continuesName d = false
  | .symbol sign => sign.grows = true → ∀ c ∈ rest.head?, growsWith c = false
  | .lineBreak => True

/-- A token that ends where the rest starts is read back. -/
theorem Lexes.token {t : Token} {rest : List Char} {ts : List Token} (h : t.EndsAt rest)
    (hrest : Lexes rest ts) : Lexes (t.spelling ++ rest) (t :: ts) := by
  cases t with
  | number value =>
    obtain ⟨c, cs, hcs, -, hread⟩ := readToken_number h.1 h.2
    rw [Token.spelling, hcs]
    exact Lexes.read hread hrest
  | text value =>
    rw [Token.spelling, quote, List.cons_append, List.cons_append, List.append_assoc]
    exact Lexes.read (fun offset => readToken_text offset value rest) hrest
  | template _ _ => exact False.elim h
  | name value =>
    obtain ⟨c, cs, hcs, -, hread⟩ := h.1.readToken h.2
    rw [Token.spelling, hcs]
    exact Lexes.read hread hrest
  | keyword word =>
    obtain ⟨c, cs, hcs, -, hread⟩ := readToken_keyword word h
    rw [Token.spelling, hcs]
    exact Lexes.read hread hrest
  | symbol sign =>
    obtain ⟨c, cs, hcs, hread⟩ := readToken_symbol sign h
    rw [Token.spelling, hcs]
    exact Lexes.read hread hrest
  | lineBreak =>
    have hread (offset : Nat) : readToken offset '\n' rest = .ok (some .lineBreak, rest) := rfl
    exact Lexes.read hread hrest

/-- Whether each piece ends where the next one starts, and the last one where `rest` starts. -/
def Apart (rest : List Char) : List Piece → Prop
  | [] => True
  | .blank :: ps => Apart rest ps
  | .token t :: ps => t.EndsAt (spell ps ++ rest) ∧ Apart rest ps

theorem apart_append {rest : List Char} : ∀ {ps qs : List Piece},
    Apart rest (ps ++ qs) ↔ Apart (spell qs ++ rest) ps ∧ Apart rest qs
  | [], _ => ⟨fun h => ⟨trivial, h⟩, And.right⟩
  | .blank :: ps, qs => @apart_append rest ps qs
  | .token t :: ps, qs => by
    show t.EndsAt (spell (ps ++ qs) ++ rest) ∧ Apart rest (ps ++ qs) ↔
      (t.EndsAt (spell ps ++ (spell qs ++ rest)) ∧ Apart (spell qs ++ rest) ps) ∧ Apart rest qs
    rw [apart_append, spell_append, List.append_assoc, and_assoc]

/-- **Pieces that lie apart are read back.** -/
theorem Apart.lexes {rest : List Char} {ts : List Token} : ∀ {ps : List Piece}, Apart rest ps →
    Lexes rest ts → Lexes (spell ps ++ rest) (tokensOf ps ++ ts)
  | [], _, hrest => hrest
  | .blank :: ps, h, hrest => by
    rw [spell_cons, List.append_assoc]
    have hps : Apart rest ps := h
    exact Lexes.read (fun offset => readToken_blank offset _) (hps.lexes hrest)
  | .token t :: ps, h, hrest => by
    rw [spell_cons, List.append_assoc]
    exact Lexes.token h.1 (Apart.lexes h.2 hrest)

end Stencil.Script
