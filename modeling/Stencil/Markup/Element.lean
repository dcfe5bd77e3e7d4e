import Stencil.Markup.Inline
import Stencil.Span

/-!
# Elements and events

What markup says about the structure of a document.

* `Element` is the tree of headings, paragraphs, lists and quotes of a document. Code, rules and
  HTML leave nothing in it.
* `Event` is a step of a walk over the tree, `Element.events` the whole walk.
* `MarkupReader` is all that the rest asks of a reader of documents.
-/

namespace Stencil.Markup

/-- A part of a document. -/
inductive Element where
  | heading (level : Nat) (text : List Char)
  | paragraph (span : Span)
  | quote (body : List Element)
  | list (start : Nat) (body : List Element)
  | item (span : Span) (body : List Element)

instance : Inhabited Element := ⟨.quote []⟩

/-- A step of a walk over a document. -/
inductive Event where
  | headingStart (level : Nat)
  | text (value : List Char)
  | lineBreak
  | headingEnd
  | paragraph (span : Span)
  | listStart (offset : Nat)
  | itemStart (span : Span)
  | itemEnd
  deriving Repr, DecidableEq

/-- The event of a run of text. -/
def Event.ofRun : Run → Event
  | .text value => .text value
  | .lineBreak => .lineBreak

mutual

/-- The walk over an element, given the labels of links that are defined. -/
def Element.events (labels : List (List Char)) : Element → List Event
  | .heading level text =>
    .headingStart level :: (runsOf labels text).map Event.ofRun ++ [.headingEnd]
  | .paragraph span => [.paragraph span]
  | .quote body => Element.allEvents labels body
  | .list start body => .listStart start :: Element.allEvents labels body
  | .item span body => .itemStart span :: Element.allEvents labels body ++ [.itemEnd]

/-- The walk over several elements. -/
def Element.allEvents (labels : List (List Char)) : List Element → List Event
  | [] => []
  | e :: es => e.events labels ++ Element.allEvents labels es

end

end Stencil.Markup

namespace Stencil

/-- What reads the structure of documents. -/
class MarkupReader where
  /-- The walk over the document with a source. -/
  events : List Char → List Markup.Event

end Stencil
