import Stencil.Entity.Basic
import Stencil.Graph.Bullet
import Stencil.Markup.Element
import Stencil.SyntaxError

/-!
# Pages from events

A graph document has a top heading per page, property lines below it, and bullets for its blocks.

* `DraftItem` and `DraftPage` are what is read off the events of a document.
* `Draft` is the state of the walk and `Draft.step` its steps; `DraftPage.ofEvents` walks through
  all events. Text and bullets before the first page are faults.
-/

namespace Stencil.Graph

open Markup (Event)

/-- An item with the items below it. -/
structure DraftItem where
  content : List Char
  children : List DraftItem

instance : Inhabited DraftItem := ⟨⟨[], []⟩⟩

/-- A page with its items. -/
structure DraftPage where
  name : String
  properties : Properties := .empty
  items : List DraftItem := []

/-- An item that has not ended yet. -/
structure OpenItem where
  start : Nat
  /-- Where its own text ends: at its first list, or at its end. -/
  stop : Nat
  /-- The items below it, the last first. -/
  done : List DraftItem := []

/-- The state of a walk through the events of a document. -/
structure Draft where
  /-- The pages, the last first, each with its items, the last first. -/
  pages : List DraftPage := []
  /-- The items that have not ended, innermost first. -/
  spine : List OpenItem := []
  /-- The text of the heading of a page that has not ended. -/
  title : Option (List Char) := none

namespace Draft

/-- The name of a page with a heading: its words. -/
def pageName (title : List Char) : String :=
  String.ofList (Text.joinWith [' '] (Text.words title))

/-- Adds the page of a heading. -/
def addPage (d : Draft) (title : List Char) : Draft :=
  { d with pages := { name := pageName title } :: d.pages, title := none }

/-- Adds the properties in a paragraph to a page, unless it has items. -/
def addProperties (page : DraftPage) (text : List Char) : DraftPage :=
  if page.items.isEmpty then
    let found := (Text.lines text).filterMap propertyOf?
    { page with properties := found.foldl (fun p (key, value) =>
        p.insert (String.ofList key) (PropertyValue.ofText (String.ofList value))) page.properties }
  else page

/-- Adds an item that has ended to the item or page it belongs to. -/
def addItem (d : Draft) (item : DraftItem) : Draft :=
  match d.spine with
  | outer :: rest => { d with spine := { outer with done := item :: outer.done } :: rest }
  | [] =>
    match d.pages with
    | page :: pages => { d with pages := { page with items := item :: page.items } :: pages }
    | [] => d

/-- One step of the walk over a document with the given source. -/
def step (source : List Char) (d : Draft) (event : Event) : Except Fault Draft :=
  match d.title with
  | some title =>
    match event with
    | .text value => .ok { d with title := some (title ++ value) }
    | .lineBreak => .ok { d with title := some (title ++ [' ']) }
    | .headingEnd => .ok (d.addPage title)
    | _ => .ok d
  | none =>
    match event with
    | .headingStart level =>
      .ok (if level = 1 && d.spine.isEmpty then { d with title := some [] } else d)
    | .paragraph span =>
      if d.spine.isEmpty then
        match d.pages with
        | page :: pages =>
          let text := Text.slice source span.start span.stop
          .ok { d with pages := addProperties page text :: pages }
        | [] => .error ⟨.textOutsidePage, span⟩
      else .ok d
    | .itemStart span =>
      if d.pages.isEmpty then .error ⟨.blockOutsidePage, span⟩
      else .ok { d with spine := { start := span.start, stop := span.stop } :: d.spine }
    | .listStart offset =>
      match d.spine with
      | item :: outer => .ok { d with spine := { item with stop := min item.stop offset } :: outer }
      | [] => .ok d
    | .itemEnd =>
      match d.spine with
      | item :: outer =>
        let content := bulletContent (Text.slice source item.start item.stop)
        .ok ({ d with spine := outer }.addItem ⟨content, item.done.reverse⟩)
      | [] => .ok d
    | _ => .ok d

end Draft

/-- A page whose items stand in order. -/
def DraftPage.inOrder (page : DraftPage) : DraftPage := { page with items := page.items.reverse }

/-- The pages of a document, given its source and events. -/
def DraftPage.ofEvents (source : List Char) (events : List Event) :
    Except Fault (List DraftPage) := do
  let d ← events.foldlM (Draft.step source) {}
  let d := match d.title with
    | some title => d.addPage title
    | none => d
  .ok (d.pages.reverse.map DraftPage.inOrder)

end Stencil.Graph
