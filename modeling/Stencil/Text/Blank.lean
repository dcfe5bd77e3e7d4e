import Stencil.Text.Range
import Stencil.Text.Search

/-!
# Blank characters and trimming

A character is blank when it has the white space property: 25 code points.

* `isBlank` is the test.
* `trimStart`, `trimEnd` and `trim` drop blank characters at the ends of a text.
* `words` are the maximal runs of characters that are not blank.
-/

namespace Stencil.Text

/-- The code points with the white space property. -/
def blankRanges : List (Nat × Nat) :=
  [(0x9, 0xD), (0x20, 0x20), (0x85, 0x85), (0xA0, 0xA0), (0x1680, 0x1680), (0x2000, 0x200A),
   (0x2028, 0x2029), (0x202F, 0x202F), (0x205F, 0x205F), (0x3000, 0x3000)]

/-- Whether `c` has the white space property. -/
def isBlank (c : Char) : Bool := inRanges blankRanges c.toNat

/-- The text without its leading blank characters. -/
def trimStart (cs : List Char) : List Char := cs.dropWhile isBlank

/-- The text without its trailing blank characters. -/
def trimEnd (cs : List Char) : List Char := (cs.reverse.dropWhile isBlank).reverse

/-- The text without the blank characters at either end. -/
def trim (cs : List Char) : List Char := trimEnd (trimStart cs)

/-- Whether every character is blank. -/
def allBlank (cs : List Char) : Bool := cs.all isBlank

/-- The maximal runs of characters that are not blank. -/
def words (cs : List Char) : List (List Char) :=
  (splitWhere isBlank cs).filter fun w => !w.isEmpty

end Stencil.Text

namespace Stencil

/-- A string without the blank characters at either end. -/
def trimmed (s : String) : String := String.ofList (Text.trim s.toList)

@[simp]
theorem toList_trimmed (s : String) : (trimmed s).toList = Text.trim s.toList := by
  simp [trimmed]

/-- Whether a string holds blank characters only. -/
def isBlankText (s : String) : Bool := Text.allBlank s.toList

end Stencil
