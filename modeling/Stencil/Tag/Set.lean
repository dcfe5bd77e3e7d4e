import Stencil.Tag.Body

/-!
# Sets of tags

* `TagSet` lists the registered tags; `push` replaces a tag with the same opening marker.
* Opening markers are found by a pattern, the alternation of `TagSet.opens`: of its alternatives the
  first one that stands at a place is taken there. Longer markers therefore come first.
* `TagSet.foundAt?` finds the tag at the front of a text: the marker that the pattern matches there
  is looked up among the tags.
* `TagSet.refusal?`: the pattern has to be built first, and a compiler of patterns may refuse that.
* `TagSet.standard` are the tags that templates use.
-/

namespace Stencil

/-- What a compiler of patterns has against an alternation of texts, if it refuses to build it. -/
abbrev Refusal := List String → Option String

/-- The most bytes that a pattern may take up once it is built. -/
def Refusal.limit : Nat := 10485760

/-- The size of several texts together. -/
def Refusal.bytes (texts : List String) : Nat :=
  texts.foldl (fun bytes text => bytes + text.utf8ByteSize) 0

/-- Refuses an alternation that takes up too much room: 32 bytes for every byte of its texts, and
some more for the states around them. -/
def Refusal.ofSize : Refusal := fun texts =>
  if Refusal.limit < 32 * Refusal.bytes texts + 208 then
    some ("Compiled regex exceeds size limit of " ++ toString Refusal.limit ++ " bytes.")
  else none

/-- The registered tags, the newest last, and the compiler of the pattern for their markers. -/
structure TagSet where
  tags : List Tag
  refuses : Refusal := .ofSize

namespace TagSet

/-- The set without tags. -/
def empty : TagSet := { tags := [] }

/-- Whether there are no tags. -/
def isEmpty (t : TagSet) : Bool := t.tags.isEmpty

/-- Registers a tag. A tag with the same opening marker is replaced. -/
def push (t : TagSet) (tag : Tag) : TagSet :=
  { t with tags := t.tags.filter (fun other => other.openMark ≠ tag.openMark) ++ [tag] }

/-- The tag with the given opening marker. -/
def get? (t : TagSet) (openMark : String) : Option Tag :=
  t.tags.find? fun tag => tag.openMark = openMark

/-- The order of two alternatives: the longer one first, in bytes, and of two that are as long the
one that is first by its characters. -/
def precedes (a b : String) : Bool :=
  b.utf8ByteSize < a.utf8ByteSize || (b.utf8ByteSize = a.utf8ByteSize && a ≤ b)

/-- The alternatives of the pattern: the opening markers in their order. -/
def opens (t : TagSet) : List String := (t.tags.map Tag.openMark).mergeSort precedes

/-- The reason why the pattern is not built, if it is refused. Without tags there is no pattern. -/
def refusal? (t : TagSet) : Option String := if t.isEmpty then none else t.refuses t.opens

/-- The opening marker that the pattern matches at the front of a text, which is the first of its
alternatives there, and the text after it. -/
def markerAt? (t : TagSet) (cs : List Char) : Option (String × List Char) :=
  t.opens.findSome? fun openMark =>
    (openMark.toList.isPrefixOf? cs).map fun rest => (openMark, rest)

/-- The tag found at the front of a text, and the text after its opening marker. -/
def foundAt? (t : TagSet) (cs : List Char) : Option (Tag × List Char) := do
  let (openMark, rest) ← t.markerAt? cs
  let tag ← t.get? openMark
  some (tag, rest)

/-- Bodies of these tags always hold statements. -/
def alwaysStatements (_body : List Char) : BodyClass := .statements

/-- The tags of templates: statements that swallow all blanks or one line break after them, links
to pages and to blocks, dates in words, and plain scripts. -/
def standard : TagSet :=
  empty
    |>.push { openMark := "``\x7b_", closeMark := "\x7d``", trim := .all,
              classify := some alwaysStatements }
    |>.push { openMark := "``\x7b", closeMark := "\x7d``", trim := .newline,
              classify := some alwaysStatements }
    |>.push { openMark := "``[[", closeMark := "]]``", filter := true,
              expand := some Tag.expandPage }
    |>.push { openMark := "``((", closeMark := "))``", filter := true,
              expand := some Tag.expandBlock }
    |>.push { openMark := "``@", closeMark := "``", filter := true,
              expand := some Tag.expandDate }
    |>.push { openMark := "``", closeMark := "``", filter := true,
              classify := some Tag.classifyPlain }

end TagSet

end Stencil
