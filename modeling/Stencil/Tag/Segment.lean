import Stencil.Tag.Shield
import Stencil.Tag.Set

/-!
# The segments of a source

A source is cut into plain text and tags.

* `Segment` is a piece of a source, `FoundTag` a tag as it stands there.
* `bodyOf` reads a body up to its closing marker.
* `Segment.ofSource` cuts a source. It goes through it once, from the left; at every position the
  longest opening marker counts. A single-line tag whose body holds a line feed is no tag, and the
  search goes on after the first character of its marker.
-/

namespace Stencil

/-- A tag as it stands in a source. -/
structure FoundTag where
  tag : Tag
  /-- The byte offset of the opening marker. -/
  start : Nat
  body : List Char

namespace FoundTag

/-- The byte offset of the body. -/
def bodyStart (t : FoundTag) : Nat := t.start + Text.byteLength t.tag.openMark.toList

/-- The span from the opening marker to the closing one. -/
def span (t : FoundTag) : Span :=
  ⟨t.start, t.bodyStart + Text.byteLength t.body + Text.byteLength t.tag.closeMark.toList⟩

/-- The text from the opening marker to the closing one. -/
def source (t : FoundTag) : List Char :=
  t.tag.openMark.toList ++ t.body ++ t.tag.closeMark.toList

end FoundTag

/-- A piece of a source. -/
inductive Segment where
  | text (value : List Char)
  | tag (value : FoundTag)

/-- The text of a piece. -/
def Segment.source : Segment → List Char
  | .text value => value
  | .tag value => value.source

/-- The body up to the first closing marker that counts, and the rest after the marker. `offset` is
where the text stands and `opening` the span of the opening marker. -/
def bodyOf (tag : Tag) (opening : Span) (offset : Nat) (cs : List Char) :
    Except Fault (List Char × List Char) :=
  match cs with
  | [] => .error ⟨.unterminatedTag tag.closeMark, opening⟩
  | c :: cs =>
    match tag.closeMark.toList.isPrefixOf? (c :: cs) with
    | some rest => .ok ([], rest)
    | none =>
      match if tag.holdsScript then Shield.ofStart? (c :: cs) else none with
      | none => do
        let (body, rest) ← bodyOf tag opening (offset + c.utf8Size) cs
        .ok (c :: body, rest)
      | some shield =>
        match _h : shield.after? (c :: cs) with
        | none => .error ⟨shield.unclosed, ⟨offset, offset + Text.byteLength (c :: cs)⟩⟩
        | some after => do
          let passed := (c :: cs).take ((c :: cs).length - after.length)
          let (body, rest) ← bodyOf tag opening (offset + Text.byteLength passed) after
          .ok (passed ++ body, rest)
termination_by cs.length
decreasing_by
  · exact Nat.lt_succ_self _
  · exact Nat.lt_succ_of_le (Shield.after?_suffix _h).length_le

/-- A piece of text, unless it is empty. -/
def Segment.ofText (text : List Char) : List Segment := if text.isEmpty then [] else [.text text]

/-- Whether a body with a line feed in it makes its tag count as plain text. -/
def Tag.rejects (tag : Tag) (body : List Char) : Bool :=
  body.contains '\n' && !(tag.classOf body).allowsLineFeed

/-- The segments of the text `seen`, reversed, followed by the rest `cs` of a source, which stands
at byte `offset`. A tag that takes up no room would be found again and again: it is a fault. -/
def segmentsFrom (tags : TagSet) (offset : Nat) (seen cs : List Char) :
    Except Fault (List Segment) :=
  match tags.foundAt? cs with
  | none =>
    match cs with
    | [] => .ok (Segment.ofText seen.reverse)
    | c :: cs => segmentsFrom tags (offset + c.utf8Size) (c :: seen) cs
  | some (tag, inside) => do
    let bodyStart := offset + Text.byteLength tag.openMark.toList
    let (body, rest) ← bodyOf tag ⟨offset, bodyStart⟩ bodyStart inside
    if tag.rejects body then
      match cs with
      | [] => .ok (Segment.ofText seen.reverse)
      | c :: cs => segmentsFrom tags (offset + c.utf8Size) (c :: seen) cs
    else if _h : rest.length < cs.length then
      let found : FoundTag := ⟨tag, offset, body⟩
      let segments ← segmentsFrom tags found.span.stop [] rest
      .ok (Segment.ofText seen.reverse ++ .tag found :: segments)
    else .error ⟨.endlessTag, ⟨offset, offset⟩⟩
termination_by cs.length

/-- The segments of a source. -/
def Segment.ofSource (tags : TagSet) (source : List Char) : Except Fault (List Segment) :=
  segmentsFrom tags 0 [] source

end Stencil
