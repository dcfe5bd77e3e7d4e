/-!
# Samples

A sample is drawn from a pool by swapping randomly drawn items to its front.

* `arrange` is the sample that some drawn positions give, the first of them from the whole pool, the
  next from all but the first item, and so on.
* `sample` draws the positions and gives the sample; of the source of randomness it needs only a
  number below a bound.
* `Words` is such a source, made of words of 64 bits that are used in turn.
-/

namespace Stencil.Sample

variable {α σ : Type}

/-- Swaps the items at two positions. -/
def swap (i j : Nat) (pool : List α) : List α :=
  match pool[i]?, pool[j]? with
  | some a, some b => (pool.set i b).set j a
  | _, _ => pool

/-- Swaps the items at drawn positions with those from position `i` on. -/
def swapAll : Nat → List Nat → List α → List α
  | _, [], pool => pool
  | i, j :: js, pool => swapAll (i + 1) js (swap i j pool)

/-- The sample that drawn positions give. -/
def arrange (positions : List Nat) (pool : List α) : List α :=
  (swapAll 0 positions pool).take positions.length

/-- Draws `count` positions: the first from `i` on, each next one from one further on, all below
`length`. -/
def draw (below : Nat → σ → Nat × σ) (length : Nat) : Nat → Nat → σ → List Nat × σ
  | 0, _, s => ([], s)
  | count + 1, i, s =>
    let (j, s) := below (length - i) s
    let (js, s) := draw below length count (i + 1) s
    ((i + j) :: js, s)

/-- Draws a sample of at most `n` items. -/
def sample (below : Nat → σ → Nat × σ) (n : Nat) (pool : List α) (s : σ) : List α × σ :=
  let (positions, s) := draw below pool.length (min n pool.length) 0 s
  (arrange positions pool, s)

/-! ## Words of 64 bits -/

/-- Words that are used in turn, again from the first after the last. -/
structure Words where
  all : List Nat
  rest : List Nat

namespace Words

/-- The source that starts with the first of some words. -/
def ofList (words : List Nat) : Words := ⟨words, words⟩

/-- A word of a sequence that looks random: the multiples of an odd number, with their bits
mixed. -/
def mixed (seed index : Nat) : Nat :=
  let x : UInt64 := .ofNat (seed + (index + 1) * 0x9E3779B97F4A7C15)
  let x := (x ^^^ (x >>> 30)) * 0xBF58476D1CE4E5B9
  let x := (x ^^^ (x >>> 27)) * 0x94D049BB133111EB
  (x ^^^ (x >>> 31)).toNat

/-- The source of a seed. -/
def ofSeed (seed : Nat) : Words := ofList ((List.range 1024).map (mixed seed))

/-- The next word. -/
def next (w : Words) : Nat × Words :=
  match w.rest with
  | word :: rest => (word, { w with rest })
  | [] => (w.all.headD 0, { w with rest := w.all.tail })

/-- How many words there are. -/
def wordSize : Nat := 0x10000000000000000

/-- The greatest low half of a product that is accepted for a bound: one below the bound moved up to
the highest bit. Beyond it some numbers would be more likely than others. -/
def zone (bound : Nat) : Nat := bound * Nat.pow 2 (63 - Nat.log2 bound) - 1

/-- A number below a bound, after at most `limit` words that are not accepted. -/
def tryBelow (limit bound : Nat) (w : Words) : Nat × Words :=
  let (word, w) := w.next
  match limit with
  | 0 => (word * bound / wordSize, w)
  | limit + 1 =>
    if word * bound % wordSize ≤ zone bound then (word * bound / wordSize, w)
    else tryBelow limit bound w

/-- A number below a bound: the high half of the product with a word, taking the next word where the
low half is not accepted. -/
def below (bound : Nat) (w : Words) : Nat × Words := tryBelow w.all.length bound w

end Words

end Stencil.Sample
