/-!
# Searching and cutting texts

Texts are lists of characters; sizes are measured in UTF-8 bytes where a source offset is meant.

* `byteLength` is the size of a text, `takeBytes` and `dropBytes` cut it at an offset.
* `splitWhere` gives the pieces between the characters of a class.
* `cutAt?` splits at the first occurrence of a separator, `cutAtLast?` at the last occurrence of
  a character.
* `replaceAll` replaces the occurrences that do not overlap, from the left.
-/

namespace Stencil.Text

/-- The size of a text in UTF-8 bytes. -/
def byteLength : List Char → Nat
  | [] => 0
  | c :: cs => c.utf8Size + byteLength cs

@[simp]
theorem byteLength_nil : byteLength [] = 0 := rfl

@[simp]
theorem byteLength_cons (c : Char) (cs : List Char) :
    byteLength (c :: cs) = c.utf8Size + byteLength cs := rfl

@[simp]
theorem byteLength_append (cs ds : List Char) :
    byteLength (cs ++ ds) = byteLength cs + byteLength ds := by
  induction cs with
  | nil => simp
  | cons c cs ih => simp [ih, Nat.add_assoc]

/-- The characters that end at or before byte offset `n`. -/
def takeBytes : List Char → Nat → List Char
  | [], _ => []
  | c :: cs, n => if c.utf8Size ≤ n then c :: takeBytes cs (n - c.utf8Size) else []

/-- The characters that do not end at or before byte offset `n`. -/
def dropBytes : List Char → Nat → List Char
  | [], _ => []
  | c :: cs, n => if c.utf8Size ≤ n then dropBytes cs (n - c.utf8Size) else c :: cs

theorem takeBytes_append_dropBytes (cs : List Char) (n : Nat) :
    takeBytes cs n ++ dropBytes cs n = cs := by
  induction cs generalizing n with
  | nil => rfl
  | cons c cs ih => by_cases h : c.utf8Size ≤ n <;> simp [takeBytes, dropBytes, h, ih]

/-- The part of a text between two byte offsets. -/
def slice (cs : List Char) (start stop : Nat) : List Char :=
  takeBytes (dropBytes cs start) (stop - start)

/-- What a prefix test leaves is the rest after the prefix. -/
theorem append_eq_of_isPrefixOf? {start cs rest : List Char}
    (h : start.isPrefixOf? cs = some rest) : start ++ rest = cs := by
  induction start generalizing cs with
  | nil =>
    have h : some cs = some rest := h
    simpa using h.symm
  | cons c start ih =>
    cases cs with
    | nil =>
      have h : none = some rest := h
      simp at h
    | cons d cs =>
      have h : (if c == d then start.isPrefixOf? cs else none) = some rest := h
      split at h
      · next hcd => simp [eq_of_beq hcd, ih h]
      · simp at h

/-- The pieces between the characters that satisfy `p`, empty ones included: one more piece than
there are such characters. -/
def splitWhere (p : Char → Bool) : List Char → List (List Char)
  | [] => [[]]
  | c :: cs =>
    if p c then [] :: splitWhere p cs
    else match splitWhere p cs with
      | [] => [[c]]
      | piece :: pieces => (c :: piece) :: pieces

/-- The parts before and after the first occurrence of `sep`. -/
def cutAt? (sep : List Char) : List Char → Option (List Char × List Char)
  | [] => if sep.isEmpty then some ([], []) else none
  | c :: cs =>
    match sep.isPrefixOf? (c :: cs) with
    | some rest => some ([], rest)
    | none => (cutAt? sep cs).map fun (before, after) => (c :: before, after)

theorem cutAt?_eq_some {sep cs before after : List Char}
    (h : cutAt? sep cs = some (before, after)) : cs = before ++ sep ++ after := by
  induction cs generalizing before with
  | nil =>
    simp only [cutAt?] at h
    split at h <;> simp_all
  | cons c cs ih =>
    simp only [cutAt?] at h
    split at h
    · next rest hr =>
      have hp := append_eq_of_isPrefixOf? hr
      simp only [Option.some.injEq, Prod.mk.injEq] at h
      rw [← hp, ← h.1, ← h.2]; rfl
    · obtain ⟨⟨b, a⟩, hb, he⟩ := Option.map_eq_some_iff.1 h
      simp only [Prod.mk.injEq] at he
      rw [← he.1, ih (he.2 ▸ hb)]; rfl

theorem cutAt?_suffix {sep cs before after : List Char} (h : cutAt? sep cs = some (before, after)) :
    after <:+ cs := ⟨before ++ sep, (cutAt?_eq_some h).symm⟩

theorem cutAt?_length {sep cs before after : List Char} (h : cutAt? sep cs = some (before, after)) :
    after.length ≤ cs.length := (cutAt?_suffix h).length_le

/-- The parts before and after the last occurrence of the character `sep`. -/
def cutAtLast? (sep : Char) : List Char → Option (List Char × List Char)
  | [] => none
  | c :: cs =>
    match cutAtLast? sep cs with
    | some (before, after) => some (c :: before, after)
    | none => if c = sep then some ([], cs) else none

/-- Whether `part` occurs in the text. -/
def hasPart (part cs : List Char) : Bool := (cutAt? part cs).isSome

/-- Replaces occurrences of `old` after passing over `skip` characters. -/
def replaceAfter (old new : List Char) : Nat → List Char → List Char
  | _, [] => []
  | skip + 1, _ :: cs => replaceAfter old new skip cs
  | 0, c :: cs =>
    if old.isPrefixOf (c :: cs) then new ++ replaceAfter old new (old.length - 1) cs
    else c :: replaceAfter old new 0 cs

/-- Replaces the occurrences of `old`, which is not empty, by `new`. -/
def replaceAll (old new cs : List Char) : List Char := replaceAfter old new 0 cs

/-- Drops copies of `part`, which is not empty, from the front, at most `limit` of them. -/
def stripCopies (part : List Char) : Nat → List Char → List Char
  | 0, cs => cs
  | limit + 1, cs =>
    match part.isPrefixOf? cs with
    | some rest => stripCopies part limit rest
    | none => cs

/-- Drops all copies of `part`, which is not empty, from the front. -/
def stripStart (part cs : List Char) : List Char := stripCopies part cs.length cs

/-- Drops all copies of `part`, which is not empty, from the end. -/
def stripEnd (part cs : List Char) : List Char :=
  (stripCopies part.reverse cs.length cs.reverse).reverse

/-- Joins pieces with a separator between them. -/
def joinWith (sep : List Char) : List (List Char) → List Char
  | [] => []
  | [piece] => piece
  | piece :: pieces => piece ++ sep ++ joinWith sep pieces

end Stencil.Text
