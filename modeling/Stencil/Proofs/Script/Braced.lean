import Stencil.Proofs.Script.Scan
import Stencil.Proofs.Script.Shift

/-!
# A brace behind a script

A closing brace ends every token, so a script is cut into the same tokens when one follows it,
unless a line comment runs over the brace.

* `readToken_braced`: one step of the lexer in front of a brace.
* `Uncommented`: scripts without line comments.
* `Scans.rightBrace_mem`: where a script can be cut into tokens, a brace behind it is a token.
-/

namespace Stencil.Script

open Text

variable {c : Char} {cs more rest : List Char} {token : Option Token} {offset : Nat}

/-! ## The scanners -/

theorem scanText?_cons {mark : Char} (h : c ≠ '\\') : scanText? mark (c :: cs) =
    if c = mark then some ([], cs)
    else if c = '\n' then none
    else (scanText? mark cs).map fun (text, rest) => (c :: text, rest) := by
  rw [scanText?]
  · exact fun _ _ hc => absurd hc h
  · exact fun hc => absurd hc h

/-- A quoted text ends where it ends whatever follows. -/
theorem scanText?_append {mark : Char} {text : List Char} (more : List Char)
    (h : scanText? mark cs = some (text, rest)) :
    scanText? mark (cs ++ more) = some (text, rest ++ more) := by
  fun_induction scanText? mark cs generalizing text with
  | case1 => cases h
  | case2 c cs ih =>
    obtain ⟨⟨text', rest'⟩, htail, heq⟩ := Option.map_eq_some_iff.mp h
    obtain ⟨rfl, rfl⟩ := Prod.mk.inj heq
    rw [List.cons_append, List.cons_append, scanText?, ih htail, Option.map_some]
  | case3 => cases h
  | case4 cs hescape hslash =>
    obtain ⟨rfl, rfl⟩ := Prod.mk.inj (Option.some.inj h)
    rw [List.cons_append, scanText?_cons (ne_backslash hescape hslash), if_pos rfl]
  | case5 => cases h
  | case6 c cs hescape hslash hne hfeed ih =>
    obtain ⟨⟨text', rest'⟩, htail, heq⟩ := Option.map_eq_some_iff.mp h
    obtain ⟨rfl, rfl⟩ := Prod.mk.inj heq
    rw [List.cons_append, scanText?_cons (ne_backslash hescape hslash), if_neg hne, if_neg hfeed,
      ih htail, Option.map_some]

theorem scanTemplate?_cons {depth : Nat} (h : c ≠ '\\') (hhole : ¬ ['$', '\x7b'] <+: c :: cs) :
    scanTemplate? depth (c :: cs) =
      if c = '`' && depth = 0 then some ([], cs)
      else
        (scanTemplate? (if c = '\x7b' && 0 < depth then depth + 1
          else if c = '\x7d' then depth - 1 else depth) cs).map
          fun (body, rest) => (c :: body, rest) := by
  rw [scanTemplate?]
  · exact fun _ _ hc => absurd hc h
  · exact fun hc => absurd hc h
  · rintro ds rfl rfl
    exact hhole ⟨ds, rfl⟩

/-- A template literal ends where it ends whatever follows. -/
theorem scanTemplate?_append {depth : Nat} {body : List Char} (more : List Char)
    (h : scanTemplate? depth cs = some (body, rest)) :
    scanTemplate? depth (cs ++ more) = some (body, rest ++ more) := by
  fun_induction scanTemplate? depth cs generalizing body with
  | case1 => cases h
  | case2 depth c cs ih =>
    obtain ⟨⟨body', rest'⟩, htail, heq⟩ := Option.map_eq_some_iff.mp h
    obtain ⟨rfl, rfl⟩ := Prod.mk.inj heq
    rw [List.cons_append, List.cons_append, scanTemplate?, ih htail, Option.map_some]
  | case3 => cases h
  | case4 depth cs ih =>
    obtain ⟨⟨body', rest'⟩, htail, heq⟩ := Option.map_eq_some_iff.mp h
    obtain ⟨rfl, rfl⟩ := Prod.mk.inj heq
    rw [List.cons_append, List.cons_append, scanTemplate?, ih htail, Option.map_some]
  | case5 depth c cs hescape hslash hhole hclose =>
    obtain ⟨rfl, rfl⟩ := Prod.mk.inj (Option.some.inj h)
    rw [List.cons_append, scanTemplate?_cons (ne_backslash hescape hslash), if_pos hclose]
    rintro ⟨ds, hds⟩
    have hmark : c = '`' := of_decide_eq_true (Bool.and_eq_true_iff.mp hclose).1
    exact absurd ((List.cons.inj hds).1.trans hmark) (by decide)
  | case6 depth c cs hescape hslash hhole hclose =>
    rename_i ih
    obtain ⟨⟨body', rest'⟩, htail, heq⟩ := Option.map_eq_some_iff.mp h
    obtain ⟨rfl, rfl⟩ := Prod.mk.inj heq
    rw [List.cons_append, scanTemplate?_cons (ne_backslash hescape hslash), if_neg hclose,
      ih htail, Option.map_some]
    rintro ⟨ds, hds⟩
    obtain ⟨hsign, hds⟩ := List.cons.inj hds
    cases cs with
    | nil => cases htail
    | cons d cs => exact hhole cs hsign.symm (congrArg (· :: cs) (List.cons.inj hds).1.symm)

theorem scanNumber_braced : ∀ cs : List Char, scanNumber (cs ++ '\x7d' :: more) =
    ((scanNumber cs).1, (scanNumber cs).2 ++ '\x7d' :: more)
  | [] => rfl
  | c :: cs => by
    have hhead : (cs ++ '\x7d' :: more).head?.any Char.isDigit = cs.head?.any Char.isDigit := by
      cases cs <;> rfl
    rw [List.cons_append, scanNumber, scanNumber, hhead, scanNumber_braced cs]
    split <;> rfl

/-- No symbol goes on with a brace. -/
theorem readSymbol?_braced {sign : Symbol} (h : readSymbol? cs = some (sign, rest)) :
    readSymbol? (cs ++ '\x7d' :: more) = some (sign, rest ++ '\x7d' :: more) := by
  unfold readSymbol? at h
  split at h
  case h_30 => exact nomatch h
  all_goals
    obtain ⟨rfl, rfl⟩ := Prod.mk.inj (Option.some.inj h)
    -- A symbol that might have been longer is followed by another character, or by the brace.
    first
    | rfl
    | rename_i rest _
      cases rest with
      | nil => rfl
      | cons d rest => simp_all [readSymbol?]
    | rename_i rest _ _
      cases rest with
      | nil => rfl
      | cons d rest => simp_all [readSymbol?]

/-! ## Steps -/

theorem head?_braced {d : Char} (hd : d ≠ '\x7d') :
    ((cs ++ '\x7d' :: more).head? = some d) = (cs.head? = some d) := by
  cases cs with
  | nil => simp [hd.symm]
  | cons c cs => rfl

/-- A scan for characters of a kind that the brace is not of stops where it stops without it. -/
theorem scan_braced {p : Char → Bool} (hp : p '\x7d' = false) :
    (cs ++ '\x7d' :: more).takeWhile p = cs.takeWhile p ∧
      (cs ++ '\x7d' :: more).dropWhile p = cs.dropWhile p ++ '\x7d' :: more := by
  induction cs with
  | nil => exact ⟨List.takeWhile_cons_of_neg (ne_true_of_eq_false hp),
      List.dropWhile_cons_of_neg (ne_true_of_eq_false hp)⟩
  | cons c cs ih =>
    rw [List.cons_append, List.takeWhile_cons, List.takeWhile_cons, List.dropWhile_cons,
      List.dropWhile_cons, ih.1, ih.2]
    split
    · exact ⟨rfl, rfl⟩
    · exact ⟨rfl, rfl⟩

/-- What is read in front of a brace is read in the same way without it, line comments apart. -/
theorem readToken_braced (h : readToken offset c cs = .ok (token, rest))
    (hcomment : ¬ ['/', '/'] <+: c :: cs) (more : List Char) :
    readToken offset c (cs ++ '\x7d' :: more) = .ok (token, rest ++ '\x7d' :: more) := by
  unfold readToken at h ⊢
  dsimp only at h ⊢
  simp only [head?_braced (show '/' ≠ '\x7d' by decide),
    head?_braced (show '*' ≠ '\x7d' by decide)]
  split at h
  · next hfeed =>
    obtain ⟨rfl, rfl⟩ := Prod.mk.inj (Except.ok.inj h)
    rw [if_pos hfeed]
  next hfeed =>
  rw [if_neg hfeed]
  split at h
  · next hblank =>
    obtain ⟨rfl, rfl⟩ := Prod.mk.inj (Except.ok.inj h)
    rw [if_pos hblank]
  next hblank =>
  rw [if_neg hblank]
  split at h
  · next hline =>
    obtain ⟨hslash, hhead⟩ := Bool.and_eq_true_iff.mp hline
    obtain ⟨tail, rfl⟩ := List.head?_eq_some_iff.mp (of_decide_eq_true hhead)
    exact absurd ⟨tail, by rw [of_decide_eq_true hslash]; rfl⟩ hcomment
  next hline =>
  rw [if_neg hline]
  split at h
  · next hblock =>
    rw [if_pos hblock]
    obtain ⟨tail, rfl⟩ :=
      List.head?_eq_some_iff.mp (of_decide_eq_true (Bool.and_eq_true_iff.mp hblock).2)
    split at h
    · next before after hcut =>
      obtain ⟨rfl, rfl⟩ := Prod.mk.inj (Except.ok.inj h)
      have hmore : cutAt? ['*', '/'] (tail ++ '\x7d' :: more) =
          some (before, after ++ '\x7d' :: more) := cutAt?_append_right hcut _
      rw [List.cons_append, List.tail_cons, hmore]
    · cases h
  next hblock =>
  rw [if_neg hblock]
  split at h
  · next hquote =>
    rw [if_pos hquote]
    split at h
    · next text after htext =>
      obtain ⟨rfl, rfl⟩ := Prod.mk.inj (Except.ok.inj h)
      rw [scanText?_append _ htext]
    · cases h
  next hquote =>
  rw [if_neg hquote]
  split at h
  · next htemplate =>
    rw [if_pos htemplate]
    split at h
    · next body after hbody =>
      obtain ⟨rfl, rfl⟩ := Prod.mk.inj (Except.ok.inj h)
      rw [scanTemplate?_append _ hbody]
    · cases h
  next htemplate =>
  rw [if_neg htemplate]
  split at h
  · next hdigit =>
    rw [if_pos hdigit, ← List.cons_append, scanNumber_braced]
    split at h
    · next value hvalue =>
      obtain ⟨rfl, rfl⟩ := Prod.mk.inj (Except.ok.inj h)
      dsimp only
      rw [hvalue]
    · cases h
  next hdigit =>
  rw [if_neg hdigit]
  split at h
  · next hname =>
    obtain ⟨rfl, rfl⟩ := Prod.mk.inj (Except.ok.inj h)
    have hbrace : continuesName '\x7d' = false := by decide
    rw [if_pos hname, (scan_braced hbrace).1, (scan_braced hbrace).2]
  next hname =>
  rw [if_neg hname]
  split at h
  · next sign after hsymbol =>
    obtain ⟨rfl, rfl⟩ := Prod.mk.inj (Except.ok.inj h)
    rw [← List.cons_append, readSymbol?_braced hsymbol]
  · cases h

/-! ## Scripts without line comments -/

/-- Scripts that are cut into lexemes without passing over a line comment. -/
inductive Uncommented : List Char → Prop where
  | nil : Uncommented []
  | cons {offset : Nat} {c : Char} {cs rest : List Char} {token : Option Token} :
    readToken offset c cs = .ok (token, rest) → ¬ ['/', '/'] <+: c :: cs → Uncommented rest →
    Uncommented (c :: cs)

/-- Where a script stands does not matter for what is left behind its first token. -/
theorem exists_readToken (h : readToken offset c cs = .ok (token, rest)) (offset' : Nat) :
    ∃ token', readToken offset' c cs = .ok (token', rest) := by
  have hzero (n : Nat) : readToken n c cs = shift n (readToken 0 c cs) :=
    readToken_shift n 0 c cs
  rw [hzero] at h
  rw [hzero]
  cases hread : readToken 0 c cs with
  | error fault =>
    rw [hread] at h
    exact nomatch h
  | ok found =>
    obtain ⟨token₀, rest₀⟩ := found
    rw [hread, shift_ok, shift_pair, shift_chars] at h
    obtain ⟨-, rfl⟩ := Prod.mk.inj (Except.ok.inj h)
    exact ⟨shift offset' token₀, by rw [shift_ok, shift_pair, shift_chars]⟩

/-- **A brace behind a script is a token**, unless it is in a line comment. -/
theorem Scans.rightBrace_mem {ts : List Token} (h : Scans cs ts) : ∀ {ts' : List Token},
    Uncommented (cs ++ '\x7d' :: more) → Scans (cs ++ '\x7d' :: more) ts' →
    .symbol .rightBrace ∈ ts' := by
  induction h with
  | nil =>
    intro ts' _ hmore
    have hread (offset : Nat) :
        readToken offset '\x7d' more = .ok (some (.symbol .rightBrace), more) := rfl
    obtain ⟨ts, rfl, -⟩ := hmore.step hread
    exact List.mem_cons_self
  | @cons offset c cs rest token ts hread _ ih =>
    intro ts' hcomment hmore
    rw [List.cons_append] at hcomment hmore
    -- Both ways over the longer script leave what is left of the shorter one, and the brace.
    have hsame {offset' : Nat} {token' : Option Token} {rest' : List Char}
        (hline : ¬ ['/', '/'] <+: c :: (cs ++ '\x7d' :: more))
        (hstep : readToken offset' c (cs ++ '\x7d' :: more) = .ok (token', rest')) :
        rest' = rest ++ '\x7d' :: more := by
      have hshort : ¬ ['/', '/'] <+: c :: cs := fun hstart =>
        hline (hstart.trans (List.prefix_append (c :: cs) _))
      obtain ⟨token₁, hread₁⟩ := exists_readToken (readToken_braced hread hshort more) offset'
      exact (Prod.mk.inj (Except.ok.inj (hstep.symm.trans hread₁))).2
    cases hcomment with
    | cons hstep hline hcomment =>
      cases hmore with
      | cons hstep' hmore =>
        rw [hsame hline hstep] at hcomment
        rw [hsame hline hstep'] at hmore
        exact List.mem_append_right _ (ih hcomment hmore)

end Stencil.Script
