import Stencil.Proofs.Script.Cursor
import Stencil.Proofs.Script.Lexing
import Stencil.Proofs.Script.Passage

/-!
# The tokens at the start of a script

What the lexer makes of the characters that a script starts with, whatever follows them.

* `Scans` gives the tokens of a script that is cut into lexemes somewhere.
* `Scans.step` is one step of the lexer, `Scans.blanks` passes over blanks: nothing but line breaks
  is read from them.
* `Scans.run`: characters of names are read as one word if they may start a name, and else as
  numbers and words.
-/

namespace Stencil.Script

open Text

/-- The tokens of a script, wherever it stands in its source. -/
inductive Scans : List Char → List Token → Prop where
  | nil : Scans [] []
  | cons {offset : Nat} {c : Char} {cs rest : List Char} {token : Option Token} {ts : List Token} :
    readToken offset c cs = .ok (token, rest) → Scans rest ts → Scans (c :: cs) (token.toList ++ ts)

variable {c : Char} {cs rest : List Char} {ts : List Token} {token : Option Token}

theorem scans_of_lexemes {offset : Nat} {lexemes : List Lexeme}
    (h : Lexeme.ofScript offset cs = .ok lexemes) : Scans cs (lexemes.map Lexeme.token) := by
  fun_induction Lexeme.ofScript offset cs generalizing lexemes with
  | case1 =>
    rw [← Except.ok.inj h]
    exact .nil
  | case2 => cases h
  | case3 offset c cs token rest hread =>
    rename_i ih
    obtain ⟨tail, htail, rfl⟩ := map_eq_ok_iff.mp h
    have htokens := Scans.cons hread (ih htail)
    cases token <;> exact htokens

/-- The first token of a script is known if it is read at every place. -/
theorem Scans.step (h : Scans (c :: cs) ts)
    (hread : ∀ offset, readToken offset c cs = .ok (token, rest)) :
    ∃ ts', ts = token.toList ++ ts' ∧ Scans rest ts' := by
  cases h with
  | cons hread' hrest =>
    obtain ⟨rfl, rfl⟩ := Prod.mk.inj (Except.ok.inj ((hread _).symm.trans hread'))
    exact ⟨_, rfl, hrest⟩

/-! ## Blanks -/

theorem readToken_of_isBlank (h : isBlank c = true) (offset : Nat) :
    readToken offset c cs = .ok (if c = '\n' then some .lineBreak else none, cs) := by
  by_cases hfeed : c = '\n'
  · subst hfeed
    rfl
  · unfold readToken
    dsimp only
    rw [if_neg hfeed, if_pos h, if_neg hfeed]

/-- Blanks are passed over, their line feeds apart. -/
theorem Scans.blanks : ∀ {gap : List Char} {ts : List Token}, Scans (gap ++ cs) ts →
    (∀ c ∈ gap, isBlank c = true) →
    ∃ ts', ts = List.replicate (gap.count '\n') .lineBreak ++ ts' ∧ Scans cs ts'
  | [], ts, h, _ => ⟨ts, rfl, h⟩
  | c :: gap, ts, h, hgap => by
    obtain ⟨hc, hgap⟩ := List.forall_mem_cons.mp hgap
    obtain ⟨ts₁, rfl, hgapped⟩ := h.step (readToken_of_isBlank hc)
    obtain ⟨ts', rfl, hrest⟩ := Scans.blanks hgapped hgap
    refine ⟨ts', ?_, hrest⟩
    by_cases hfeed : c = '\n'
    · subst hfeed
      rw [if_pos rfl, List.count_cons_self, List.replicate_succ]
      rfl
    · rw [if_neg hfeed, List.count_cons_of_ne hfeed]
      rfl

/-! ## Words and numbers -/

/-- Whether a token is a number or a word. -/
def Token.isWord : Token → Bool
  | .number _ | .name _ | .keyword _ => true
  | _ => false

theorem isSeparator_of_isWord {t : Token} (h : t.isWord = true) : t.isSeparator = false := by
  cases t <;> first | rfl | exact nomatch h

theorem isWord_ofWord (word : String) : (Token.ofWord word).isWord = true := by
  unfold Token.ofWord
  repeat (split; · rfl)
  rfl

/-- A digit may stand in a name. -/
theorem continuesName_of_isDigit (h : c.isDigit = true) : continuesName c = true := by
  have hcode : c.toNat < 128 := by
    have hhigh : c.toNat ≤ 57 :=
      UInt32.le_iff_toNat_le.mp (of_decide_eq_true (Bool.and_eq_true_iff.mp h).2)
    omega
  rw [continuesName, isWordChar, isNumeric, if_pos hcode, h, Bool.or_true, Bool.true_or,
    Bool.true_or]

/-- Of characters of names the digits in front are taken as a number. -/
theorem scanNumber_run (hhead : ∀ c ∈ cs.head?, continuesName c = false ∧ c ≠ '.') :
    ∀ {run : List Char}, (∀ c ∈ run, continuesName c = true) →
      ∃ digits others, run = digits ++ others ∧ scanNumber (run ++ cs) = (digits, others ++ cs)
  | [], _ => by
    refine ⟨[], [], rfl, ?_⟩
    cases cs with
    | nil => rfl
    | cons c cs =>
      obtain ⟨hname, hpoint⟩ := hhead c rfl
      have hdigit : c.isDigit = false :=
        eq_false_of_ne_true fun h => absurd (continuesName_of_isDigit h) (by rw [hname]; decide)
      rw [List.nil_append, scanNumber, hdigit, decide_eq_false hpoint, Bool.false_and, Bool.or_self,
        if_neg Bool.false_ne_true]
  | c :: run, hrun => by
    obtain ⟨hc, hrun⟩ := List.forall_mem_cons.mp hrun
    have hpoint : c ≠ '.' := by
      rintro rfl
      exact absurd hc (by decide)
    rw [List.cons_append, scanNumber, decide_eq_false hpoint, Bool.false_and, Bool.or_false]
    split
    · obtain ⟨digits, others, rfl, hscan⟩ := scanNumber_run hhead hrun
      exact ⟨c :: digits, others, rfl, by rw [hscan]⟩
    · exact ⟨[], c :: run, rfl, rfl⟩

theorem isBlank_of_continuesName (h : continuesName c = true) : isBlank c = false := by
  by_contra hblank
  have hword := isWordChar_of_isBlank (eq_true_of_ne_false hblank)
  rw [continuesName, hword, Bool.false_or, Bool.or_eq_true, decide_eq_true_eq,
    decide_eq_true_eq] at h
  rcases h with rfl | rfl <;> exact absurd hblank (by decide)

/-- No symbol starts with a character of names. -/
theorem readSymbol?_of_continuesName (h : continuesName c = true) :
    readSymbol? (c :: cs) = none := by
  cases hread : readSymbol? (c :: cs) with
  | none => rfl
  | some found =>
    obtain ⟨sign, rest⟩ := found
    unfold readSymbol? at hread
    split at hread
    case h_30 => exact nomatch hread
    all_goals
      rename_i heq
      rw [(List.cons.inj heq).1] at h
      exact absurd h (by decide)

/-- From a character of names on a number is read if it is a digit, and else a word. -/
theorem readToken_of_continuesName {offset : Nat} (hc : continuesName c = true)
    (h : readToken offset c cs = .ok (token, rest)) :
    (c.isDigit = true ∧ (∃ value, token = some (.number value)) ∧
      rest = (scanNumber (c :: cs)).2) ∨
    (token = some (.ofWord (String.ofList (c :: cs.takeWhile continuesName))) ∧
      rest = cs.dropWhile continuesName) := by
  have hne (d : Char) (hd : continuesName d = false) : c ≠ d := by
    rintro rfl
    exact absurd (hc.symm.trans hd) (by decide)
  unfold readToken at h
  dsimp only at h
  rw [if_neg (hne '\n' (by decide)), isBlank_of_continuesName hc, if_neg Bool.false_ne_true,
    if_neg (not_comment (hne '/' (by decide))), if_neg (not_comment (hne '/' (by decide))),
    decide_eq_false (hne '"' (by decide)), decide_eq_false (hne '\'' (by decide)),
    if_neg (by decide), if_neg (hne '`' (by decide)), readSymbol?_of_continuesName hc] at h
  split at h
  · next hdigit =>
    split at h
    · obtain ⟨rfl, rfl⟩ := Prod.mk.inj (Except.ok.inj h)
      exact .inl ⟨hdigit, ⟨_, rfl⟩, rfl⟩
    · exact nomatch h
  · split at h
    · obtain ⟨rfl, rfl⟩ := Prod.mk.inj (Except.ok.inj h)
      exact .inr ⟨rfl, rfl⟩
    · exact nomatch h

/-- **Characters of names are read as one word if the first may start a name**, and else as a number
with words and numbers behind it. -/
theorem Scans.run (hhead : ∀ c ∈ cs.head?, continuesName c = false ∧ c ≠ '.') {run : List Char}
    {ts : List Token} (h : Scans (run ++ cs) ts) (hrun : ∀ c ∈ run, continuesName c = true) :
    ∃ words ts', ts = words ++ ts' ∧ Scans cs ts' ∧ (∀ t ∈ words, t.isWord = true) ∧
      (run ≠ [] → words = [.ofWord (String.ofList run)] ∨
        ∃ value words', words = .number value :: words') := by
  match run with
  | [] => exact ⟨[], ts, rfl, h, nofun, fun hne => absurd rfl hne⟩
  | c :: run =>
    obtain ⟨hc, hrun'⟩ := List.forall_mem_cons.mp hrun
    rw [List.cons_append] at h
    cases h with
    | @cons offset _ _ rest token ts hstep hrest =>
    obtain ⟨hdigit, ⟨value, rfl⟩, rfl⟩ | ⟨rfl, rfl⟩ := readToken_of_continuesName hc hstep
    · obtain ⟨digits, others, hsplit, hscan⟩ := scanNumber_run hhead hrun
      have hshort := readToken_length hstep
      rw [List.cons_append] at hscan
      rw [hscan] at hrest hshort
      have hothers : others.length ≤ run.length := by
        rw [List.length_append, List.length_append] at hshort
        omega
      obtain ⟨words, ts', rfl, hcs, hwords, -⟩ := Scans.run hhead hrest fun d hd =>
        hrun d (hsplit ▸ List.mem_append_right digits hd)
      exact ⟨.number value :: words, ts', rfl, hcs, List.forall_mem_cons.mpr ⟨rfl, hwords⟩,
        fun _ => .inr ⟨value, words, rfl⟩⟩
    · obtain ⟨htake, hdrop⟩ := Decimal.scan_append hrun' cs fun d hd => (hhead d hd).1
      rw [htake]
      rw [hdrop] at hrest
      exact ⟨[_], ts, rfl, hrest, fun t ht => List.mem_singleton.mp ht ▸ isWord_ofWord _,
        fun _ => .inl rfl⟩
termination_by run.length
decreasing_by exact Nat.lt_succ_of_le hothers

/-! ## Keywords and signs -/

/-- A keyword is read if no character of names follows it. -/
theorem Scans.keyword (word : Keyword) (h : Scans (word.spelling.toList ++ cs) ts)
    (hhead : ∀ c ∈ cs.head?, continuesName c = false) :
    ∃ ts', ts = .keyword word :: ts' ∧ Scans cs ts' := by
  obtain ⟨c, run, hspelling, -, hread⟩ := readToken_keyword word hhead
  rw [hspelling, List.cons_append] at h
  exact h.step hread

/-- An equals sign stands for itself unless another one follows it. -/
theorem Scans.assign (h : Scans ('=' :: cs) ts) (hhead : cs.head? ≠ some '=') :
    ∃ ts', ts = .symbol .assign :: ts' ∧ Scans cs ts' := by
  have hsymbol : readSymbol? ('=' :: cs) = some (.assign, cs) := by
    cases cs with
    | nil => rfl
    | cons c cs =>
      have hc : c ≠ '=' := fun heq => hhead (heq ▸ rfl)
      simp [readSymbol?, hc]
  have hread (offset : Nat) : readToken offset '=' cs = .ok (some (.symbol .assign), cs) := by
    unfold readToken
    rw [hsymbol]
    rfl
  exact h.step hread

end Stencil.Script
