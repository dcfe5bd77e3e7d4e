import Stencil.Text.WordPart

/-!
# Search patterns

A pattern is searched for in a text. Positions are counted in characters.

* `Pattern` is the syntax tree of a pattern.
* `Pattern.ends` gives the positions at which a match may end that starts at a position. Repetitions
  are bounded by the length of the text, since a match has nothing to gain from passing a position
  twice.
* `Pattern.isFoundIn` says whether a text contains a match.
-/

namespace Stencil

/-- The places that a pattern can ask for. -/
inductive Place where
  | textStart | textEnd | lineStart | lineEnd
  | wordEdge | noWordEdge | wordStart | wordEnd
  /-- No part of a word comes before. -/
  | wordStartHalf
  /-- No part of a word follows. -/
  | wordEndHalf
  deriving Repr, DecidableEq

/-- A pattern. -/
inductive Pattern where
  /-- Nothing, at any position. -/
  | blank
  /-- One character that passes a test. -/
  | one (test : Char → Bool)
  /-- Nothing, at some positions only. -/
  | place (spot : Place)
  | sequence (first second : Pattern)
  | choice (first second : Pattern)
  /-- At least and at most so many matches in a row. -/
  | repeated (p : Pattern) (least : Nat) (most : Option Nat)

/-- Whether a place lies between two characters, either of which may be missing. -/
def Place.holds (before after : Option Char) : Place → Bool
  | .textStart => before.isNone
  | .textEnd => after.isNone
  | .lineStart => before.all (· = '\n')
  | .lineEnd => after.all (· = '\n')
  | .wordEdge => before.any Text.isWordPart != after.any Text.isWordPart
  | .noWordEdge => before.any Text.isWordPart == after.any Text.isWordPart
  | .wordStart => !before.any Text.isWordPart && after.any Text.isWordPart
  | .wordEnd => before.any Text.isWordPart && !after.any Text.isWordPart
  | .wordStartHalf => !before.any Text.isWordPart
  | .wordEndHalf => !after.any Text.isWordPart

namespace Pattern

/-- The character before a position. -/
def charBefore (text : List Char) : Nat → Option Char
  | 0 => none
  | i + 1 => text[i]?

/-- The positions reached from some positions by one step. -/
def stepAll (step : Nat → List Nat) (positions : List Nat) : List Nat :=
  (positions.flatMap step).eraseDups

/-- The positions reached by exactly so many steps. -/
def after (step : Nat → List Nat) : Nat → List Nat → List Nat
  | 0, positions => positions
  | n + 1, positions => after step n (stepAll step positions)

/-- The positions reached by at most so many steps. -/
def within (step : Nat → List Nat) : Nat → List Nat → List Nat
  | 0, positions => positions
  | n + 1, positions => within step n (positions ++ stepAll step positions).eraseDups

/-- The positions at which a match may end that starts at a position. -/
def ends (text : List Char) : Pattern → Nat → List Nat
  | .blank, i => [i]
  | .one test, i => if text[i]?.any test then [i + 1] else []
  | .place spot, i => if spot.holds (charBefore text i) text[i]? then [i] else []
  | .sequence p q, i => stepAll (ends text q) (ends text p i)
  | .choice p q, i => (ends text p i ++ ends text q i).eraseDups
  | .repeated p least most, i =>
    let bound := text.length + 1
    let start := after (ends text p) (min least bound) [i]
    within (ends text p) (min ((most.map (· - least)).getD bound) bound) start

/-- Whether a text contains a match. -/
def isFoundIn (p : Pattern) (text : List Char) : Bool :=
  (List.range (text.length + 1)).any fun i => !(p.ends text i).isEmpty

end Pattern

end Stencil
