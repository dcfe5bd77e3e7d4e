import Stencil.Calendar.Iso
import Stencil.Graph.Draft
import Stencil.Markup.Document

/-!
# Graph documents

* `PageTree` is a page with its blocks.
* `numberItems` and `numberPages` give pages and blocks their numbers, in the order in which they
  start, and link every block to its parent and to what stands left of it.
* `Graph.ofSource` reads a document.
* `UuidSource` gives an identifier to whatever does not bring its own.
-/

namespace Stencil

open Stencil.Graph Calendar

/-- A page with its blocks. -/
structure PageTree where
  page : Page
  blocks : List Block

/-- The pages of a graph. -/
abbrev Graph := List PageTree

/-- Where the identifiers of pages and blocks come from that do not bring their own. -/
class UuidSource where
  /-- The identifier for the page or block with a number. -/
  fresh : Int → String

/-- Identifiers that tell the number. -/
instance UuidSource.numbered : UuidSource where
  fresh id := "auto-" ++ toString id

namespace Graph

/-- Whether a line is the identifier of its block. -/
def isIdLine (line : List Char) : Bool :=
  match propertyOf? line with
  | some (key, _) => key = ['i', 'd']
  | none => false

/-- The content of an item without the lines with its identifier. -/
def contentOf (content : List Char) : String :=
  String.ofList (Text.joinWith ['\n'] ((Text.lines content).filter fun line => !isIdLine line))

mutual

/-- The block of an item, and the next free number after the blocks below it. -/
def numberItem [UuidSource] (page : Page) (parent left : Option Int) (id : Int) :
    DraftItem → Block × Int
  | ⟨content, children⟩ =>
    let properties := Properties.ofContent (String.ofList content)
    let (blocks, next) := numberItems page (some id) (some id) (id + 1) children
    ({ id, page, parent, left
       uuid := ((properties.get? "id").map (·.text)).getD (UuidSource.fresh id)
       content := contentOf content
       properties := properties.erase "id"
       children := .expanded blocks }, next)

/-- The blocks of items below a parent, numbered from `id` on, and the next free number. -/
def numberItems [UuidSource] (page : Page) (parent left : Option Int) (id : Int) :
    List DraftItem → List Block × Int
  | [] => ([], id)
  | item :: items =>
    let (block, next) := numberItem page parent left id item
    let (blocks, next) := numberItems page parent (some id) next items
    (block :: blocks, next)

end

/-- The page with a number. A page whose name is a date is a journal page. -/
def pageOf [UuidSource] [DateLibrary] (id : Int) (raw : DraftPage) : Page where
  id
  uuid := ((raw.properties.get? "id").map (·.text)).getD (UuidSource.fresh id)
  name := lowered raw.name
  title := raw.name
  journalDay := (DateLibrary.readIso? raw.name.toList).map (·.journalDay)
  properties := raw.properties

/-- Numbers pages and their blocks from `id` on. -/
def numberPages [UuidSource] [DateLibrary] (id : Int) : List DraftPage → Graph
  | [] => []
  | raw :: rest =>
    let page := pageOf id raw
    let (blocks, next) := numberItems page none none (id + 1) raw.items
    ⟨page, blocks⟩ :: numberPages next rest

/-- The note that goes with a fault. -/
def notesOf : Cause → List Note
  | .blockOutsidePage => [.startWithPage]
  | _ => []

/-- Reads a graph document. -/
def ofSource [MarkupReader] [UuidSource] [DateLibrary] (source : String) (file : Nat) :
    Except SyntaxError Graph := do
  let source := source.toList
  let pages ← (DraftPage.ofEvents source (MarkupReader.events source)).mapError fun fault =>
    { (SyntaxError.ofFault fault file).locate source with notes := notesOf fault.cause }
  .ok (numberPages 1 pages)

/-- All blocks of a graph, parents first. -/
def blocks (g : Graph) : List Block := g.flatMap fun page => Block.flatten page.blocks

end Graph

end Stencil
