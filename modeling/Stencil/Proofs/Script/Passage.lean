import Stencil.Proofs.Text.Search
import Stencil.Script.Hole

/-!
# What one step of the lexer passes over

The lexer goes through a script token by token, and each token has a spelling of its own kind.

* `Passage` lists what stands between two positions of the lexer: a quoted text, a template literal,
  a comment of either kind, or a piece without quotes.
* `readToken_passage`: every step of the lexer is one of these.
-/

namespace Stencil.Script

open Text

/-- Whether a quoted text or a template literal starts with `c`. -/
def isQuote (c : Char) : Bool := c = '"' || c = '\'' || c = '`'

/-- Whether `c` is a brace. -/
def isBrace (c : Char) : Bool := c = '\x7b' || c = '\x7d'

/-- Whether a token is a brace. -/
def Token.isBrace (t : Token) : Bool := t.is .leftBrace || t.is .rightBrace

/-- What the lexer passes over in front of `rest`, and the token that it reads there. -/
inductive Passage (rest : List Char) : List Char → Option Token → Prop where
  /-- A word, a number, a symbol or a blank. It has a slash or a brace in it only when it is one. -/
  | plain {passed : List Char} {token : Option Token} : (∀ c ∈ passed, isQuote c = false) →
    ('/' ∈ passed → passed = ['/'] ∧ rest.head? ≠ some '*') →
    ((∃ c ∈ passed, isBrace c = true) → ∃ t, token = some t ∧ t.isBrace = true) →
    Passage rest passed token
  | lineComment {passed : List Char} : rest.head? ≠ some '*' →
    Passage rest ('/' :: '/' :: passed) none
  | blockComment {passed : List Char} :
    cutAt? ['*', '/'] (passed ++ ['*', '/'] ++ rest) = some (passed, rest) →
    Passage rest ('/' :: '*' :: (passed ++ ['*', '/'])) none
  | text {mark : Char} {passed text : List Char} : mark = '"' ∨ mark = '\'' →
    scanText? mark (passed ++ rest) = some (text, rest) →
    Passage rest (mark :: passed) (some (.text (String.ofList text)))
  | template {body : List Char} {offset : Nat} :
    Passage rest ('`' :: (body ++ ['`'])) (some (.template body offset))

/-! ## The scanners -/

/-- Where no backslash has been found, there is none. -/
theorem ne_backslash {c : Char} {cs : List Char}
    (hescape : ∀ d ds, c = '\\' → cs = d :: ds → False) (hslash : c = '\\' → cs = [] → False) :
    c ≠ '\\' := by
  intro hc
  cases cs with
  | nil => exact hslash hc rfl
  | cons d ds => exact hescape d ds hc rfl

theorem scanText?_suffix {mark : Char} {cs text rest : List Char}
    (h : scanText? mark cs = some (text, rest)) : rest <:+ cs := by
  fun_induction scanText? mark cs generalizing text with
  | case1 => cases h
  | case2 c cs ih =>
    obtain ⟨⟨text', rest'⟩, htail, heq⟩ := Option.map_eq_some_iff.mp h
    obtain ⟨-, rfl⟩ := Prod.mk.inj heq
    exact ((ih htail).trans (List.suffix_cons _ _)).trans (List.suffix_cons _ _)
  | case3 => cases h
  | case4 c cs =>
    obtain ⟨-, rfl⟩ := Prod.mk.inj (Option.some.inj h)
    exact List.suffix_cons _ _
  | case5 => cases h
  | case6 c cs _ _ _ _ ih =>
    obtain ⟨⟨text', rest'⟩, htail, heq⟩ := Option.map_eq_some_iff.mp h
    obtain ⟨-, rfl⟩ := Prod.mk.inj heq
    exact (ih htail).trans (List.suffix_cons _ _)

theorem scanTemplate?_eq {depth : Nat} {cs body rest : List Char}
    (h : scanTemplate? depth cs = some (body, rest)) : cs = body ++ '`' :: rest := by
  fun_induction scanTemplate? depth cs generalizing body with
  | case1 => cases h
  | case2 depth c cs ih =>
    obtain ⟨⟨body', rest'⟩, htail, heq⟩ := Option.map_eq_some_iff.mp h
    obtain ⟨rfl, rfl⟩ := Prod.mk.inj heq
    rw [ih htail]
    rfl
  | case3 => cases h
  | case4 depth cs ih =>
    obtain ⟨⟨body', rest'⟩, htail, heq⟩ := Option.map_eq_some_iff.mp h
    obtain ⟨rfl, rfl⟩ := Prod.mk.inj heq
    rw [ih htail]
    rfl
  | case5 depth c cs hescape hslash hhole hclose =>
    obtain ⟨rfl, rfl⟩ := Prod.mk.inj (Option.some.inj h)
    rw [of_decide_eq_true (Bool.and_eq_true_iff.mp hclose).1]
    rfl
  | case6 =>
    rename_i ih
    obtain ⟨⟨body', rest'⟩, htail, heq⟩ := Option.map_eq_some_iff.mp h
    obtain ⟨rfl, rfl⟩ := Prod.mk.inj heq
    rw [ih htail]
    rfl

theorem closeHole?_eq {depth : Nat} {cs body rest : List Char}
    (h : closeHole? depth cs = some (body, rest)) : cs = body ++ '\x7d' :: rest := by
  induction cs generalizing depth body with
  | nil => exact nomatch h
  | cons c cs ih =>
    rw [closeHole?] at h
    split at h
    · next hclose =>
      obtain ⟨rfl, rfl⟩ := Prod.mk.inj (Option.some.inj h)
      rw [of_decide_eq_true (Bool.and_eq_true_iff.mp hclose).1]
      rfl
    · obtain ⟨⟨body', rest'⟩, htail, heq⟩ := Option.map_eq_some_iff.mp h
      obtain ⟨rfl, rfl⟩ := Prod.mk.inj heq
      rw [ih htail]
      rfl

theorem scanNumber_eq (cs : List Char) : (scanNumber cs).1 ++ (scanNumber cs).2 = cs := by
  fun_induction scanNumber cs with
  | case1 => rfl
  | case2 c cs _ digits rest hscan ih =>
    rw [hscan] at ih
    exact congrArg (c :: ·) ih
  | case3 => rfl

theorem scanNumber_digits {cs : List Char} {c : Char} (h : c ∈ (scanNumber cs).1) :
    (c.isDigit || c = '.') = true := by
  fun_induction scanNumber cs with
  | case1 => exact absurd h List.not_mem_nil
  | case2 d cs hdigit digits rest hscan ih =>
    rw [hscan] at ih
    rcases List.mem_cons.mp h with rfl | h
    · rcases Bool.or_eq_true_iff.mp hdigit with hdigit | hpoint
      · rw [hdigit, Bool.true_or]
      · rw [(Bool.and_eq_true_iff.mp hpoint).1, Bool.or_true]
    · exact ih h
  | case3 => exact absurd h List.not_mem_nil

/-! ## Steps -/

/-- The characters with which something that hides a closing marker starts, and the braces. -/
def specials : List Char := ['"', '\'', '`', '\x7b', '\x7d', '/']

/-- A class of characters without special ones. -/
theorem not_special {p : Char → Bool} {c : Char} (h : p c = true)
    (hp : specials.any p = false) : c ∉ specials :=
  fun hmem => List.any_eq_false.mp hp c hmem h

variable {offset : Nat} {c : Char} {cs passed rest : List Char} {token : Option Token}

theorem Passage.of_not_special (h : ∀ c ∈ passed, c ∉ specials) : Passage rest passed token := by
  refine .plain (fun c hc => ?_) (fun hslash => absurd (by decide) (h '/' hslash)) ?_
  · have hspecial := h c hc
    simp only [specials, List.mem_cons, not_or] at hspecial
    simp [isQuote, hspecial]
  · rintro ⟨c, hc, hbrace⟩
    have hspecial := h c hc
    simp only [specials, List.mem_cons, not_or] at hspecial
    simp [isBrace, hspecial] at hbrace

theorem readSymbol?_eq {sign : Symbol} (h : readSymbol? cs = some (sign, rest)) :
    ∃ passed, cs = passed ++ rest ∧ passed ≠ [] ∧ passed.any isQuote = false ∧
      ('/' ∈ passed → passed = ['/']) ∧
      (passed.any isBrace = true → (Token.symbol sign).isBrace = true) := by
  unfold readSymbol? at h
  split at h
  case h_30 => exact nomatch h
  all_goals
    obtain ⟨rfl, rfl⟩ := Prod.mk.inj (Option.some.inj h)
    first
    | exact ⟨[_, _, _], rfl, by decide, by decide, by decide, by decide⟩
    | exact ⟨[_, _], rfl, by decide, by decide, by decide, by decide⟩
    | exact ⟨[_], rfl, by decide, by decide, by decide, by decide⟩

/-- What is in front of `rest` in a text is passed over in one step. -/
def Passes (cs rest : List Char) (token : Option Token) : Prop :=
  ∃ passed, cs = passed ++ rest ∧ passed ≠ [] ∧ Passage rest passed token

theorem passes_char (h : c ∉ specials) : Passes (c :: cs) cs token :=
  ⟨[c], rfl, List.cons_ne_nil _ _, .of_not_special fun _ hd => List.mem_singleton.mp hd ▸ h⟩

theorem passes_lineComment :
    Passes ('/' :: '/' :: cs) (('/' :: cs).dropWhile fun d => d ≠ '\n') none := by
  have hrest := List.head?_dropWhile_not (fun d => decide (d ≠ '\n')) ('/' :: cs)
  refine ⟨'/' :: ('/' :: cs).takeWhile fun d => d ≠ '\n', ?_, List.cons_ne_nil _ _,
    .lineComment fun hstar => ?_⟩
  · rw [List.cons_append, List.takeWhile_append_dropWhile]
  · rw [hstar] at hrest
    exact absurd hrest (by decide)

theorem passes_blockComment (h : cutAt? ['*', '/'] cs = some (passed, rest)) :
    Passes ('/' :: '*' :: cs) rest none := by
  have heq := cutAt?_eq_some h
  refine ⟨'/' :: '*' :: (passed ++ ['*', '/']), ?_, List.cons_ne_nil _ _,
    .blockComment (heq ▸ h)⟩
  rw [heq]
  rfl

theorem passes_text {mark : Char} {text : List Char} (hmark : mark = '"' ∨ mark = '\'')
    (h : scanText? mark cs = some (text, rest)) :
    Passes (mark :: cs) rest (some (.text (String.ofList text))) := by
  obtain ⟨passed, rfl⟩ := scanText?_suffix h
  exact ⟨mark :: passed, rfl, List.cons_ne_nil _ _, .text hmark h⟩

theorem passes_template {body : List Char} (h : scanTemplate? 0 cs = some (body, rest))
    (offset : Nat) : Passes ('`' :: cs) rest (some (.template body offset)) := by
  refine ⟨'`' :: (body ++ ['`']), ?_, List.cons_ne_nil _ _, .template⟩
  rw [scanTemplate?_eq h, List.cons_append, List.append_assoc]
  rfl

theorem passes_number (h : c.isDigit = true) :
    Passes (c :: cs) (scanNumber (c :: cs)).2 token := by
  refine ⟨(scanNumber (c :: cs)).1, (scanNumber_eq _).symm, ?_, .of_not_special fun d hd =>
    @not_special (fun d => d.isDigit || d = '.') d (scanNumber_digits hd) (by decide)⟩
  rw [scanNumber, if_pos (by rw [h, Bool.true_or])]
  exact List.cons_ne_nil _ _

theorem passes_word (h : startsName c = true) :
    Passes (c :: cs) (cs.dropWhile continuesName) token := by
  refine ⟨c :: cs.takeWhile continuesName, ?_, List.cons_ne_nil _ _,
    .of_not_special fun d hd => ?_⟩
  · rw [List.cons_append, List.takeWhile_append_dropWhile]
  · rcases List.mem_cons.mp hd with rfl | hd
    · exact not_special h (by decide)
    · exact not_special (List.all_eq_true.mp List.all_takeWhile d hd) (by decide)

theorem passes_symbol {sign : Symbol} (h : readSymbol? (c :: cs) = some (sign, rest))
    (hcomment : c = '/' → cs.head? ≠ some '*') :
    Passes (c :: cs) rest (some (.symbol sign)) := by
  obtain ⟨passed, heq, hne, hquote, hslash, hbrace⟩ := readSymbol?_eq h
  refine ⟨passed, heq, hne,
    .plain (fun d hd => Bool.eq_false_iff.mpr (List.any_eq_false.mp hquote d hd))
      (fun hmem => ⟨hslash hmem, ?_⟩) fun hmem => ⟨_, rfl, hbrace (List.any_eq_true.mpr hmem)⟩⟩
  rw [hslash hmem] at heq
  obtain ⟨rfl, rfl⟩ := List.cons.inj heq
  exact hcomment rfl

/-- **What the lexer reads stands in front of what it leaves.** One case for each of its
branches. -/
theorem readToken_passage (h : readToken offset c cs = .ok (token, rest)) :
    Passes (c :: cs) rest token := by
  unfold readToken at h
  dsimp only at h
  split at h
  · next hfeed =>
    obtain ⟨rfl, rfl⟩ := Prod.mk.inj (Except.ok.inj h)
    exact passes_char (hfeed ▸ by decide)
  split at h
  · next hblank =>
    obtain ⟨rfl, rfl⟩ := Prod.mk.inj (Except.ok.inj h)
    exact passes_char (not_special hblank (by decide))
  split at h
  · next hcomment =>
    obtain ⟨rfl, rfl⟩ := Prod.mk.inj (Except.ok.inj h)
    simp only [Bool.and_eq_true, decide_eq_true_eq] at hcomment
    obtain ⟨rfl, hhead⟩ := hcomment
    obtain ⟨cs, rfl⟩ : ∃ ds, cs = '/' :: ds := List.head?_eq_some_iff.mp hhead
    exact passes_lineComment
  split at h
  · next hcomment =>
    split at h
    · next passed rest' hcut =>
      obtain ⟨rfl, rfl⟩ := Prod.mk.inj (Except.ok.inj h)
      simp only [Bool.and_eq_true, decide_eq_true_eq] at hcomment
      obtain ⟨rfl, hhead⟩ := hcomment
      obtain ⟨cs, rfl⟩ : ∃ ds, cs = '*' :: ds := List.head?_eq_some_iff.mp hhead
      exact passes_blockComment hcut
    · cases h
  split at h
  · next hquote =>
    split at h
    · next text rest' hscan =>
      obtain ⟨rfl, rfl⟩ := Prod.mk.inj (Except.ok.inj h)
      rw [Bool.or_eq_true, decide_eq_true_eq, decide_eq_true_eq] at hquote
      exact passes_text hquote hscan
    · cases h
  split at h
  · next hbacktick =>
    split at h
    · next body rest' hscan =>
      obtain ⟨rfl, rfl⟩ := Prod.mk.inj (Except.ok.inj h)
      rw [hbacktick]
      exact passes_template hscan _
    · cases h
  split at h
  · next hdigit =>
    split at h
    · next value hread =>
      obtain ⟨rfl, rfl⟩ := Prod.mk.inj (Except.ok.inj h)
      exact passes_number hdigit
    · cases h
  split at h
  · next hname =>
    obtain ⟨rfl, rfl⟩ := Prod.mk.inj (Except.ok.inj h)
    exact passes_word hname
  · next hline hblock _ _ _ _ =>
    split at h
    · next sign rest' hread =>
      obtain ⟨rfl, rfl⟩ := Prod.mk.inj (Except.ok.inj h)
      exact passes_symbol hread fun hslash hstar => hblock (by rw [hslash, hstar]; rfl)
    · cases h

end Stencil.Script
