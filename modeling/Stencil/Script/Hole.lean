import Stencil.Script.Lexeme

/-!
# The parts of a template literal

The raw body of a template literal is cut at its holes, from an opening `$` and brace to the
closing brace that balances it.

* `RawPart` is a piece of the body, `rawParts` the pieces in order. Literal pieces are unescaped;
  a hole keeps its source and where that stands. An unclosed hole is the last piece.
-/

namespace Stencil.Script

/-- A piece of the body of a template literal. -/
inductive RawPart where
  | literal (text : List Char)
  | hole (offset : Nat) (body : List Char)
  | unclosed (offset : Nat)
  deriving Repr, DecidableEq

/-- The characters up to the brace that closes a hole, and the rest after it. `depth` is the number
of braces open inside the hole. -/
def closeHole? (depth : Nat) : List Char → Option (List Char × List Char)
  | [] => none
  | c :: cs =>
    if c = '\x7d' && depth = 0 then some ([], cs)
    else
      let depth := if c = '\x7b' then depth + 1 else if c = '\x7d' then depth - 1 else depth
      (closeHole? depth cs).map fun (body, rest) => (c :: body, rest)

theorem closeHole?_length {depth : Nat} {cs body rest : List Char}
    (h : closeHole? depth cs = some (body, rest)) : rest.length < cs.length := by
  induction cs generalizing depth body with
  | nil => simp [closeHole?] at h
  | cons c cs ih =>
    simp only [closeHole?] at h
    split at h
    · simp_all
    · obtain ⟨⟨b, r⟩, hb, he⟩ := Option.map_eq_some_iff.1 h
      simp only [Prod.mk.injEq] at he
      have := ih (he.2 ▸ hb)
      simp only [List.length_cons]; omega

/-- A literal piece, unless it is empty. -/
def literalPart (text : List Char) : List RawPart :=
  if text.isEmpty then [] else [.literal text]

/-- The pieces of the rest of a body at byte `offset`, given the literal text read so far in
reverse. -/
def rawPartsFrom (offset : Nat) (seen : List Char) (cs : List Char) : List RawPart :=
  match cs with
  | [] => literalPart seen.reverse
  | '\\' :: c :: cs => rawPartsFrom (offset + 1 + c.utf8Size) (unescape c :: seen) cs
  | '\\' :: [] => literalPart seen.reverse
  | '$' :: '\x7b' :: cs =>
    match h : closeHole? 0 cs with
    | none => literalPart seen.reverse ++ [.unclosed offset]
    | some (body, rest) =>
      have := closeHole?_length h
      literalPart seen.reverse ++
        .hole (offset + 2) body :: rawPartsFrom (offset + 3 + Text.byteLength body) [] rest
  | c :: cs => rawPartsFrom (offset + c.utf8Size) (c :: seen) cs
termination_by cs.length

/-- The pieces of the body of a template literal that starts at byte `offset`. -/
def rawParts (offset : Nat) (body : List Char) : List RawPart :=
  match rawPartsFrom offset [] body with
  | [] => [.literal []]
  | parts => parts

end Stencil.Script
