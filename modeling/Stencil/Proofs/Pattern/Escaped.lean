import Mathlib.Data.List.Infix
import Stencil.Pattern.Read
import Stencil.Proofs.Pattern.Matching

/-!
# Patterns of escaped texts

A text is escaped to be searched for as it stands, between the anchors of a pattern. No error can
come from it, and no character of it has a meaning of its own.

* `readGroup_escapeAll`: the reader takes in an escaped text one part for each character.
* `matches_literal_iff`: those parts match the text itself and nothing else.
* `exists_ofText_anchored`: a pattern for the texts that start with a given one.
* `exists_ofText_child`: a pattern for the texts in which a given one is followed by anything but
  slashes up to the end.
* `LawfulPatternEngine` are these two as laws of an engine; `Pattern.lawful_engine` proves them for
  the one of this library.
-/

namespace Stencil.Pattern

variable {text cs rest : List Char} {ps qs : List Pattern} {p : Pattern} {g : OpenGroup}
variable {c : Char} {i j k n limit : Nat}

/-! ## Patterns one after the other -/

/-- Patterns one after the other. -/
def inOrder (ps : List Pattern) : Pattern := ps.foldr .sequence .blank

/-- The pattern of one character without switches. -/
def ofChar (c : Char) : Pattern := .one (charTest {} c)

/-- The group with more parts. -/
def OpenGroup.addAll (g : OpenGroup) (ps : List Pattern) : OpenGroup := ps.foldl OpenGroup.add g

theorem OpenGroup.parts_addAll (g : OpenGroup) (ps : List Pattern) :
    (g.addAll ps).parts = (ps.map some).reverse ++ g.parts := by
  induction ps generalizing g with
  | nil => rfl
  | cons p ps ih =>
    rw [addAll, List.foldl_cons, ← addAll, ih, List.map_cons, List.reverse_cons, List.append_assoc]
    rfl

theorem OpenGroup.choices_addAll (g : OpenGroup) (ps : List Pattern) :
    (g.addAll ps).choices = g.choices := by
  induction ps generalizing g with
  | nil => rfl
  | cons p ps ih =>
    rw [addAll, List.foldl_cons, ← addAll, ih]
    rfl

/-- A group without alternatives is the sequence of its parts. -/
theorem OpenGroup.close_addAll (ps : List Pattern) : (addAll {} ps).close = inOrder ps := by
  rw [close, choices_addAll, List.foldl_nil, current, parts_addAll, List.append_nil,
    List.foldl_reverse, List.foldr_map]
  rfl

theorem OpenGroup.addAll_append (g : OpenGroup) (ps qs : List Pattern) :
    (g.addAll ps).addAll qs = g.addAll (ps ++ qs) := List.foldl_append.symm

theorem matches_inOrder_append_iff :
    (inOrder (ps ++ qs)).Matches text i j ↔
      ∃ k, (inOrder ps).Matches text i k ∧ (inOrder qs).Matches text k j := by
  induction ps generalizing i with
  | nil => simp [inOrder, Matches]
  | cons p ps ih =>
    constructor
    · rintro ⟨l, hl, hrest⟩
      obtain ⟨k, hk, hj⟩ := ih.mp hrest
      exact ⟨k, ⟨l, hl, hk⟩, hj⟩
    · rintro ⟨k, ⟨l, hl, hk⟩, hj⟩
      exact ⟨l, hl, ih.mpr ⟨k, hk, hj⟩⟩

/-! ## Reading escaped texts -/

/-- The reader goes on behind an ordinary part. -/
theorem readGroup_part (hclose : c ≠ ')') (hchoice : c ≠ '|') (hopen : c ≠ '(')
    (hrepeat : isRepeater c = false) (hpart : readPart limit {} c cs = .ok (p, rest)) :
    readGroup (limit + 1) {} g (c :: cs) = readGroup limit {} (g.add p) rest := by
  have hskip : skipIgnored {} (c :: cs) = c :: cs := rfl
  simp only [readGroup, hskip, hclose, hchoice, hopen, hrepeat, hpart, if_false,
    Bool.false_eq_true]
  rfl

theorem readGroup_meta (hc : isMeta c = true) :
    readGroup (limit + 1) {} g ('\\' :: c :: rest) =
      readGroup limit {} (g.add (ofChar c)) rest := by
  have hread : Symbol.read {} ('\\' :: c :: rest) (c :: rest) = .ok (.char c, rest) := by
    rw [Symbol.read, if_pos (by rw [isEscapable, hc, Bool.true_or])]
  refine readGroup_part (by decide) (by decide) (by decide) (by decide) ?_
  rw [readPart, if_pos rfl, hread]
  rfl

theorem readGroup_plain (hc : isMeta c = false) :
    readGroup (limit + 1) {} g (c :: rest) = readGroup limit {} (g.add (ofChar c)) rest := by
  have hne (d : Char) (hd : isMeta d = true) : c ≠ d := by
    rintro rfl
    rw [hc] at hd
    cases hd
  refine readGroup_part (hne _ (by decide)) (hne _ (by decide)) (hne _ (by decide)) ?_ ?_
  · simp [isRepeater, hne '*' (by decide), hne '+' (by decide), hne '?' (by decide),
      hne '\x7b' (by decide)]
  · rw [readPart, if_neg (hne _ (by decide)), if_neg (hne _ (by decide)),
      if_neg (hne _ (by decide)), if_neg (hne _ (by decide)), if_neg (hne _ (by decide))]
    rfl

/-- **An escaped text is read one part for each character.** -/
theorem readGroup_escapeAll (cs rest : List Char) (limit : Nat) (g : OpenGroup) :
    readGroup (limit + cs.length) {} g (escapeAll cs ++ rest) =
      readGroup limit {} (g.addAll (cs.map ofChar)) rest := by
  induction cs generalizing g with
  | nil => rfl
  | cons c cs ih =>
    rw [escapeAll, List.flatMap_cons, ← escapeAll, List.append_assoc, List.length_cons,
      ← Nat.add_assoc, List.map_cons, OpenGroup.addAll, List.foldl_cons, ← OpenGroup.addAll, ← ih]
    cases hc : isMeta c with
    | true => exact readGroup_meta hc
    | false => exact readGroup_plain hc

theorem length_le_length_escapeAll (cs : List Char) : cs.length ≤ (escapeAll cs).length := by
  rw [escapeAll, List.length_flatMap]
  induction cs with
  | nil => exact Nat.le_refl 0
  | cons c cs ih =>
    rw [List.map_cons, List.sum_cons, List.length_cons]
    split <;> simp only [List.length_cons, List.length_nil] <;> omega

/-- The reader of a pattern that starts with a caret and an escaped text gets to the rest of the
pattern. -/
theorem ofText_anchored (h : ∀ limit, rest.length < limit → ∀ g : OpenGroup,
    readGroup limit {} g rest = .ok (g.addAll ps, [])) (cs : List Char) :
    ofText ('^' :: escapeAll cs ++ rest) =
      .ok (inOrder (.place .textStart :: (cs.map ofChar ++ ps))) := by
  have hlength := length_le_length_escapeAll cs
  obtain ⟨extra, hextra⟩ := Nat.exists_eq_add_of_le hlength
  have hlimit : ('^' :: escapeAll cs ++ rest).length + 1 =
      (extra + rest.length + 1 + cs.length) + 1 := by
    simp only [List.cons_append, List.length_cons, List.length_append, hextra]
    omega
  have hread : readGroup (('^' :: escapeAll cs ++ rest).length + 1) {} {}
      ('^' :: escapeAll cs ++ rest) =
      .ok (OpenGroup.addAll {} (.place .textStart :: (cs.map ofChar ++ ps)), []) := by
    rw [hlimit, List.cons_append,
      readGroup_part (by decide) (by decide) (by decide) (by decide) rfl, readGroup_escapeAll,
      h _ (by omega), OpenGroup.addAll_append]
    rfl
  rw [ofText, hread, ← OpenGroup.close_addAll]
  rfl

/-! ## What escaped texts match -/

theorem matches_ofChar_iff : (ofChar c).Matches text i j ↔ text[i]? = some c ∧ i + 1 = j := by
  rw [ofChar, Matches, Option.any_eq_true]
  simp [charTest]

theorem cons_prefix_drop_iff :
    c :: cs <+: text.drop i ↔ text[i]? = some c ∧ cs <+: text.drop (i + 1) := by
  by_cases hi : i < text.length
  · rw [List.drop_eq_getElem_cons hi, List.cons_prefix_cons, List.getElem?_eq_getElem hi,
      Option.some_inj, eq_comm]
  · rw [List.drop_eq_nil_of_le (by omega), List.getElem?_eq_none (by omega)]
    simp

/-- **An escaped text matches that text and nothing else.** -/
theorem matches_literal_iff :
    (inOrder (cs.map ofChar)).Matches text i j ↔ cs <+: text.drop i ∧ i + cs.length = j := by
  induction cs generalizing i with
  | nil => simp [inOrder, Matches]
  | cons c cs ih =>
    rw [cons_prefix_drop_iff, List.length_cons, Nat.add_comm cs.length 1, ← Nat.add_assoc]
    constructor
    · rintro ⟨k, hc, hrest⟩
      obtain ⟨hget, rfl⟩ := matches_ofChar_iff.mp hc
      obtain ⟨hstart, hj⟩ := ih.mp hrest
      exact ⟨⟨hget, hstart⟩, hj⟩
    · rintro ⟨⟨hget, hstart⟩, hj⟩
      exact ⟨i + 1, matches_ofChar_iff.mpr ⟨hget, rfl⟩, ih.mpr ⟨hstart, hj⟩⟩

/-- Only at the start of a text no character comes before. -/
theorem isNone_charBefore_iff (hi : i ≤ text.length) :
    (charBefore text i).isNone = true ↔ i = 0 := by
  cases i with
  | zero => simp [charBefore]
  | succ i => simp [charBefore, List.getElem?_eq_getElem (show i < text.length by omega)]

/-- A pattern with an anchor is found where the rest of it matches from the start. -/
theorem isFoundIn_anchored_iff :
    (inOrder (.place .textStart :: ps)).isFoundIn text = true ↔
      ∃ j, (inOrder ps).Matches text 0 j := by
  rw [isFoundIn_iff]
  constructor
  · rintro ⟨i, hi, j, k, ⟨hstart, rfl⟩, hj⟩
    obtain rfl := (isNone_charBefore_iff hi).mp hstart
    exact ⟨j, hj⟩
  · rintro ⟨j, hj⟩
    exact ⟨0, Nat.zero_le _, j, 0, ⟨rfl, rfl⟩, hj⟩

/-- **The pattern for a prefix.** -/
theorem exists_ofText_anchored (cs : List Char) :
    ∃ p, ofText ('^' :: escapeAll cs) = .ok p ∧
      ∀ text, p.isFoundIn text = true ↔ cs <+: text := by
  have hend (limit : Nat) (g : OpenGroup) : readGroup limit {} g [] = .ok (g.addAll [], []) := by
    cases limit <;> rfl
  have hread := ofText_anchored (fun limit _ => hend limit) cs
  rw [List.append_nil, List.append_nil] at hread
  refine ⟨_, hread, fun text => ?_⟩
  rw [isFoundIn_anchored_iff]
  simp only [matches_literal_iff, List.drop_zero, exists_and_left, exists_eq', and_true]

/-! ## Up to the end -/

/-- The class of all characters but the slash, as it is read from its brackets. -/
def notSlash : Char → Bool := ((OpenClass.mk true none fun _ => false).add (charTest {} '/')).close

theorem notSlash_iff : notSlash c = true ↔ c ≠ '/' := by
  simp [notSlash, OpenClass.close, OpenClass.total, OpenClass.add, charTest]

/-- At least one character, none of them a slash, up to the end. -/
def toEnd : List Pattern := [.repeated (.one notSlash) 1 none, .place .textEnd]

theorem readGroup_toEnd (hlimit : 6 < limit) :
    readGroup limit {} g ['[', '^', '/', ']', '+', '$'] = .ok (g.addAll toEnd, []) := by
  obtain ⟨extra, rfl⟩ := Nat.exists_eq_add_of_le' hlimit
  rfl

theorem steps_one_iff {test : Char → Bool} :
    Steps ((Pattern.one test).Matches text) n i j ↔
      i + n = j ∧ n ≤ (text.drop i).length ∧ ∀ c ∈ (text.drop i).take n, test c = true := by
  induction n generalizing i with
  | zero => simp [Steps]
  | succ n ih =>
    have hstep : Steps ((Pattern.one test).Matches text) (n + 1) i j ↔
        text[i]?.any test = true ∧ Steps ((Pattern.one test).Matches text) n (i + 1) j := by
      constructor
      · rintro ⟨_, ⟨htest, rfl⟩, hrest⟩
        exact ⟨htest, hrest⟩
      · rintro ⟨htest, hrest⟩
        exact ⟨i + 1, ⟨htest, rfl⟩, hrest⟩
    rw [hstep, ih, Nat.add_right_comm, Nat.add_assoc]
    by_cases hi : i < text.length
    · rw [List.drop_eq_getElem_cons hi, List.length_cons, Nat.add_le_add_iff_right,
        List.take_succ_cons, List.forall_mem_cons, List.getElem?_eq_getElem hi, Option.any_some]
      rw [and_left_comm, and_left_comm (a := test text[i] = true)]
    · rw [List.getElem?_eq_none (by omega), List.drop_eq_nil_of_le (by omega : text.length ≤ i)]
      simp

/-- One or more characters but slashes, and no more behind them. -/
theorem exists_matches_toEnd_iff :
    (∃ j, (inOrder toEnd).Matches text i j) ↔ text.drop i ≠ [] ∧ '/' ∉ text.drop i := by
  have hslash (cs : List Char) : (∀ c ∈ cs, notSlash c = true) ↔ '/' ∉ cs := by
    simp only [notSlash_iff, List.forall_mem_ne']
  constructor
  · rintro ⟨j, k, ⟨n, hn, -, hsteps⟩, -, ⟨hend, -⟩, -⟩
    obtain ⟨rfl, hlength, hall⟩ := steps_one_iff.mp hsteps
    have hend : text.length ≤ i + n :=
      List.getElem?_eq_none_iff.mp (Option.isNone_iff_eq_none.mp hend)
    rw [List.take_of_length_le (by rw [List.length_drop]; omega), hslash] at hall
    exact ⟨List.ne_nil_of_length_pos (by omega), hall⟩
  · rintro ⟨hne, hall⟩
    have hpos := List.length_pos_iff.mpr hne
    rw [List.length_drop] at hpos
    have hsteps : Steps ((Pattern.one notSlash).Matches text) (text.length - i) i text.length := by
      refine steps_one_iff.mpr ⟨by omega, Nat.le_of_eq List.length_drop.symm, ?_⟩
      rw [← List.length_drop, List.take_length, hslash]
      exact hall
    have hend : text[text.length]?.isNone = true := by
      rw [List.getElem?_eq_none (Nat.le_refl _)]
      rfl
    exact ⟨text.length, text.length, ⟨_, by omega, by simp, hsteps⟩, _, ⟨hend, rfl⟩, rfl⟩

/-- **The pattern for one more part without slashes.** -/
theorem exists_ofText_child (cs : List Char) :
    ∃ p, ofText ('^' :: escapeAll cs ++ ['[', '^', '/', ']', '+', '$']) = .ok p ∧
      ∀ text, p.isFoundIn text = true ↔ ∃ rest, text = cs ++ rest ∧ rest ≠ [] ∧ '/' ∉ rest := by
  refine ⟨_, ofText_anchored (fun limit hlimit g => readGroup_toEnd hlimit) cs, fun text => ?_⟩
  rw [isFoundIn_anchored_iff]
  simp only [matches_inOrder_append_iff, matches_literal_iff]
  constructor
  · rintro ⟨j, k, ⟨⟨rest, rfl⟩, rfl⟩, hend⟩
    have hrest := exists_matches_toEnd_iff.mp ⟨j, hend⟩
    rw [Nat.zero_add, List.drop_left] at hrest
    exact ⟨rest, rfl, hrest⟩
  · rintro ⟨rest, rfl, hrest⟩
    have hdrop : (cs ++ rest).drop cs.length = rest := List.drop_left
    rw [← hdrop] at hrest
    obtain ⟨j, hj⟩ := exists_matches_toEnd_iff.mpr hrest
    exact ⟨j, cs.length, ⟨List.prefix_append cs rest, Nat.zero_add _⟩, hj⟩

end Stencil.Pattern

namespace Stencil

/-! ## The laws of an engine -/

/-- An engine that takes escaped texts for what they are, and knows the anchors and the class of all
characters but the slash. -/
class LawfulPatternEngine [PatternEngine] : Prop where
  /-- Texts are escaped one character after the other. -/
  escape_append (cs ds : List Char) :
    PatternEngine.escape (cs ++ ds) = PatternEngine.escape cs ++ PatternEngine.escape ds
  /-- The slash has no meaning of its own. -/
  escape_slash : PatternEngine.escape ['/'] = ['/']
  /-- An escaped text at the start. -/
  compile_start (cs : List Char) :
    ∃ search, PatternEngine.compile ('^' :: PatternEngine.escape cs) = .ok search ∧
      ∀ text, search text = true ↔ cs <+: text
  /-- An escaped text at the start, and then some characters but slashes up to the end. -/
  compile_toEnd (cs : List Char) :
    ∃ search, PatternEngine.compile
        ('^' :: PatternEngine.escape cs ++ ['[', '^', '/', ']', '+', '$']) = .ok search ∧
      ∀ text, search text = true ↔ ∃ rest, text = cs ++ rest ∧ rest ≠ [] ∧ '/' ∉ rest

/-- The laws hold of the engine of this library. -/
instance Pattern.lawful_engine : LawfulPatternEngine where
  escape_append _ _ := List.flatMap_append
  escape_slash := rfl
  compile_start cs := by
    obtain ⟨p, hread, hfound⟩ := exists_ofText_anchored cs
    exact ⟨p.isFoundIn, by simp only [PatternEngine.compile, PatternEngine.escape, hread], hfound⟩
  compile_toEnd cs := by
    obtain ⟨p, hread, hfound⟩ := exists_ofText_child cs
    exact ⟨p.isFoundIn, by simp only [PatternEngine.compile, PatternEngine.escape, hread], hfound⟩

end Stencil
