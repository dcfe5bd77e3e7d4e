import Stencil.Proofs.Script.Braced

/-!
# The braces of a hole

A hole of a template literal ends at a brace that is found by counting. The lexer counts while it
looks for the end of the literal, leaving out the characters behind backslashes, and the parser
counts once more when it cuts the literal into its parts, leaving out none. Neither looks for texts
or literals in the hole.

* `Closes`: the braces of a text balance, given some that are open in front of it.
* `closeHole?_eq_some_iff`: the parser finds the end of a hole right behind a text exactly if the
  braces of the text balance.
* `Contained`: the lexer finds the end of the literal right behind the hole.
* `Balanced.contained`: without backslashes it does if the braces balance.
-/

namespace Stencil.Script

variable {depth : Nat} {c : Char} {cs rest : List Char}

/-! ## Balance -/

/-- Every brace is closed that is opened in a text or is one of `depth` that are open in front of
it, and no other one. -/
structure Closes (depth : Nat) (cs : List Char) : Prop where
  /-- Along the way, no more are closed than are open. -/
  within : ∀ front, front <+: cs → front.count '\x7d' ≤ depth + front.count '\x7b'
  /-- At the end, none is open. -/
  settled : cs.count '\x7d' = depth + cs.count '\x7b'

/-- The braces of a text balance. -/
def Balanced (cs : List Char) : Prop := Closes 0 cs

instance (depth : Nat) (cs : List Char) : Decidable (Closes depth cs) :=
  decidable_of_iff
    ((∀ front ∈ cs.inits, front.count '\x7d' ≤ depth + front.count '\x7b') ∧
      cs.count '\x7d' = depth + cs.count '\x7b')
    ⟨fun h => ⟨fun front hfront => h.1 front ((List.mem_inits _ _).mpr hfront), h.2⟩,
      fun h => ⟨fun front hfront => h.within front ((List.mem_inits _ _).mp hfront), h.settled⟩⟩

instance (cs : List Char) : Decidable (Balanced cs) := inferInstanceAs (Decidable (Closes 0 cs))

/-- How many braces are open behind a character. -/
def openBehind (c : Char) (depth : Nat) : Nat :=
  if c = '\x7b' then depth + 1 else if c = '\x7d' then depth - 1 else depth

theorem closes_nil_iff : Closes depth [] ↔ depth = 0 := by
  constructor
  · intro h
    exact h.settled.symm
  · rintro rfl
    exact ⟨fun front hfront => by rw [List.prefix_nil.mp hfront]; exact Nat.le_refl _, rfl⟩

theorem closes_cons_iff :
    Closes depth (c :: cs) ↔ ¬ (c = '\x7d' ∧ depth = 0) ∧ Closes (openBehind c depth) cs := by
  have hcount (front : List Char) : ¬ (c = '\x7d' ∧ depth = 0) →
      ((c :: front).count '\x7d' ≤ depth + (c :: front).count '\x7b' ↔
        front.count '\x7d' ≤ openBehind c depth + front.count '\x7b') ∧
      ((c :: front).count '\x7d' = depth + (c :: front).count '\x7b' ↔
        front.count '\x7d' = openBehind c depth + front.count '\x7b') := by
    intro hopen
    simp only [List.count_cons, beq_iff_eq, openBehind]
    by_cases hleft : c = '\x7b'
    · subst hleft
      simp only [Char.reduceEq, if_false, if_true]
      omega
    · by_cases hright : c = '\x7d'
      · subst hright
        have hdepth : depth ≠ 0 := fun hzero => hopen ⟨rfl, hzero⟩
        simp only [Char.reduceEq, if_false, if_true]
        omega
      · simp only [hleft, hright, if_false]
        omega
  constructor
  · intro h
    have hopen : ¬ (c = '\x7d' ∧ depth = 0) := by
      rintro ⟨rfl, rfl⟩
      exact absurd (h.within ['\x7d'] ⟨cs, rfl⟩) (by decide)
    refine ⟨hopen, fun front hfront => ?_, (hcount cs hopen).2.mp h.settled⟩
    exact (hcount front hopen).1.mp (h.within (c :: front) ((List.prefix_cons_inj c).mpr hfront))
  · rintro ⟨hopen, h⟩
    refine ⟨fun front hfront => ?_, (hcount cs hopen).2.mpr h.settled⟩
    obtain rfl | ⟨behind, rfl, hbehind⟩ := List.prefix_cons_iff.mp hfront
    · exact Nat.zero_le _
    · exact (hcount behind hopen).1.mpr (h.within behind hbehind)

/-- Braces that are open in front of all others stay open. -/
theorem openBehind_add (h : ¬ (c = '\x7d' ∧ depth = 0)) (n : Nat) :
    openBehind c (depth + n) = openBehind c depth + n := by
  unfold openBehind
  split
  · omega
  · split
    · next hright =>
      have hdepth : depth ≠ 0 := fun hzero => h ⟨hright, hzero⟩
      omega
    · rfl

theorem Closes.append {n : Nat} {ds : List Char} (hds : Closes n ds) (hcs : Closes depth cs) :
    Closes (depth + n) (cs ++ ds) := by
  induction cs generalizing depth with
  | nil =>
    obtain rfl := closes_nil_iff.mp hcs
    rwa [Nat.zero_add]
  | cons c cs ih =>
    obtain ⟨hopen, hcs⟩ := closes_cons_iff.mp hcs
    refine closes_cons_iff.mpr ⟨fun h => hopen ⟨h.1, by omega⟩, ?_⟩
    rw [openBehind_add hopen]
    exact ih hcs

/-! ## The end of a hole -/

/-- **The end of a hole is found right behind a text exactly if the braces of the text balance.** -/
theorem closeHole?_eq_some_iff :
    closeHole? depth (cs ++ '\x7d' :: rest) = some (cs, rest) ↔ Closes depth cs := by
  induction cs generalizing depth with
  | nil =>
    rw [closes_nil_iff, List.nil_append, closeHole?]
    split
    · next hclose => simpa using hclose
    · next hclose =>
      refine ⟨fun h => ?_, fun h => absurd (by rw [h]; rfl) hclose⟩
      obtain ⟨_, -, heq⟩ := Option.map_eq_some_iff.mp h
      cases (Prod.mk.inj heq).1
  | cons c cs ih =>
    rw [closes_cons_iff, ← ih, List.cons_append, closeHole?]
    split
    · next hclose =>
      have hnone : c = '\x7d' ∧ depth = 0 := by simpa using hclose
      refine ⟨fun h => ?_, fun h => absurd hnone h.1⟩
      cases (Prod.mk.inj (Option.some.inj h)).1
    · next hclose =>
      have hopen : ¬ (c = '\x7d' ∧ depth = 0) := by simpa using hclose
      rw [and_iff_right hopen]
      constructor
      · intro h
        obtain ⟨⟨body, rest'⟩, hbody, heq⟩ := Option.map_eq_some_iff.mp h
        obtain ⟨hcs, rfl⟩ := Prod.mk.inj heq
        obtain ⟨-, rfl⟩ := List.cons.inj hcs
        exact hbody
      · intro h
        exact Option.map_eq_some_iff.mpr ⟨_, h, rfl⟩

/-! ## The end of a literal -/

/-- An expression as a hole. -/
def hole (e : List Char) : List Char := '$' :: '\x7b' :: (e ++ ['\x7d'])

/-- The template literal with an expression as its only part. -/
def interpolated (e : List Char) : List Char := '`' :: (hole e ++ ['`'])

/-- The end of the literal with an expression as its only part is found right behind the hole. -/
def Contained (e : List Char) : Prop := scanTemplate? 0 (hole e ++ ['`']) = some (hole e, [])

instance (e : List Char) : Decidable (Contained e) := inferInstanceAs (Decidable (_ = _))

/-- In a hole every character counts that is not a backslash. -/
theorem scanTemplate?_inside (h : c ≠ '\\') : scanTemplate? (depth + 1) (c :: cs) =
    (scanTemplate? (openBehind c (depth + 1)) cs).map fun (body, rest) => (c :: body, rest) := by
  by_cases hhole : ['$', '\x7b'] <+: c :: cs
  · obtain ⟨ds, hds⟩ := hhole
    obtain ⟨rfl, rfl⟩ := List.cons.inj hds
    show (scanTemplate? (depth + 2) ds).map _ =
      (scanTemplate? (depth + 1) ('\x7b' :: ds)).map _
    rw [scanTemplate?_cons (by decide) (by simp), if_neg (by simp), Option.map_map]
    rfl
  · rw [scanTemplate?_cons h hhole, if_neg (by simp)]
    unfold openBehind
    simp

theorem scanTemplate?_of_closes (hslash : '\\' ∉ cs) (h : Closes depth cs) :
    scanTemplate? (depth + 1) (cs ++ '\x7d' :: '`' :: rest) = some (cs ++ ['\x7d'], rest) := by
  induction cs generalizing depth with
  | nil =>
    obtain rfl := closes_nil_iff.mp h
    rfl
  | cons c cs ih =>
    rw [List.mem_cons, not_or] at hslash
    obtain ⟨hopen, hcs⟩ := closes_cons_iff.mp h
    rw [List.cons_append, scanTemplate?_inside (Ne.symm hslash.1), openBehind_add hopen,
      ih hslash.2 hcs]
    rfl

/-- **Without backslashes the literal ends behind the hole if the braces balance.** -/
theorem Balanced.contained (h : Balanced cs) (hslash : '\\' ∉ cs) : Contained cs := by
  show scanTemplate? 0 ('$' :: '\x7b' :: (cs ++ ['\x7d'] ++ ['`'])) = _
  rw [List.append_assoc, scanTemplate?]
  exact Option.map_eq_some_iff.mpr ⟨_, scanTemplate?_of_closes hslash h, rfl⟩

/-- A literal with balanced braces in its hole has balanced braces. -/
theorem Balanced.interpolated (h : Balanced cs) : Balanced (interpolated cs) := by
  have hend : Closes 1 ['\x7d', '`'] := by decide
  have hhole : Closes 1 (cs ++ ['\x7d', '`']) := by simpa using hend.append h
  have hstart : Closes 0 ('`' :: '$' :: '\x7b' :: (cs ++ ['\x7d', '`'])) := by
    refine closes_cons_iff.mpr ⟨by decide, closes_cons_iff.mpr ⟨by decide, ?_⟩⟩
    exact closes_cons_iff.mpr ⟨by decide, hhole⟩
  simpa [Balanced, Script.interpolated, hole] using hstart

end Stencil.Script
