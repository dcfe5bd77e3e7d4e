import Stencil.Entity.Basic
import Stencil.Outline.Node
import Stencil.Serial.Json
import Stencil.View.Scene

/-!
# Serialized forms

How properties, pages, blocks, nodes and settings are written as JSON and read back.

* `toJson` and `ofJson?` of each type. Unknown fields are passed over, and empty parts of nodes are
  left out.
-/

namespace Stencil

open Json (required defaulted optional)

/-- An optional value, null if it is missing. -/
def Json.ofOption {α : Type} (write : α → Json) : Option α → Json
  | some a => write a
  | none => .null

/-! ## Properties and pages -/

/-- A property value as JSON. -/
def PropertyValue.toJson (v : PropertyValue) : Json :=
  .object [("text", .text v.text), ("refs", .array (v.refs.map .text))]

/-- Reads a property value. -/
def PropertyValue.ofJson? (j : Json) : Option PropertyValue :=
  match j.fields? ["text", "refs"] with
  | some [text, refs] => do
    let text ← required Json.text? text
    let refs ← defaulted [] (Json.list? Json.text?) refs
    some ⟨text, refs⟩
  | _ => none

/-- Properties as JSON. -/
def Properties.toJson (p : Properties) : Json :=
  .object (p.entries.map fun entry => (entry.1, entry.2.toJson))

/-- Reads properties. -/
def Properties.ofJson? : Json → Option Properties
  | .object members => do
    let entries ← members.mapM fun (key, value) =>
      (PropertyValue.ofJson? value).map fun value => (key, value)
    some (.ofList entries)
  | _ => none

/-- A page as JSON. -/
def Page.toJson (p : Page) : Json :=
  .object [("id", .integer p.id), ("uuid", .text p.uuid), ("name", .text p.name),
    ("original_name", .text p.title), ("journal_day", .ofOption .integer p.journalDay),
    ("properties", p.properties.toJson)]

/-- Reads a page. -/
def Page.ofJson? (j : Json) : Option Page :=
  match j.fields? ["id", "uuid", "name", "original_name", "journal_day", "properties"] with
  | some [id, uuid, name, title, journalDay, properties] => do
    let id ← required Json.int64? id
    let uuid ← required Json.text? uuid
    let name ← required Json.text? name
    let title ← required Json.text? title
    let journalDay ← optional Json.int32? journalDay
    let properties ← defaulted .empty Properties.ofJson? properties
    some { id, uuid, name, title, journalDay, properties }
  | _ => none

/-! ## Blocks -/

mutual

/-- A block as JSON. -/
def Block.toJson : Block → Json
  | ⟨id, uuid, content, properties, page, parent, left, children⟩ =>
    .object [("id", .integer id), ("uuid", .text uuid), ("content", .text content),
      ("properties", properties.toJson), ("page", page.toJson),
      ("parent", .ofOption .integer parent), ("left", .ofOption .integer left),
      ("children", match children with
        | .expanded items => .object [("Expanded", .array (Block.toJsons items))]
        | .counted number => .object [("CountOnly", .integer number)])]

/-- Blocks as JSON. -/
def Block.toJsons : List Block → List Json
  | [] => []
  | b :: bs => b.toJson :: Block.toJsons bs

end

/-- Reads children, which are an object with exactly one member. -/
def Children.ofJson? {α : Type} (read : Json → Option α) : Json → Option (Children α)
  | .object [(kind, value)] =>
    if kind = "Expanded" then (Json.list? read value).map .expanded
    else if kind = "CountOnly" then (Json.nat64? value).map .counted
    else none
  | _ => none

/-- Reads a block that is nested at most `depth` deep. -/
def Block.ofJsonWithin? (depth : Nat) (j : Json) : Option Block :=
  match depth with
  | 0 => none
  | depth + 1 =>
    match j.fields? ["id", "uuid", "content", "properties", "page", "parent", "left", "children"]
    with
    | some [id, uuid, content, properties, page, parent, left, children] => do
      let id ← required Json.int64? id
      let uuid ← required Json.text? uuid
      let content ← required Json.text? content
      let properties ← defaulted .empty Properties.ofJson? properties
      let page ← required Page.ofJson? page
      let parent ← optional Json.int64? parent
      let left ← optional Json.int64? left
      let children ←
        defaulted (.expanded []) (Children.ofJson? (Block.ofJsonWithin? depth)) children
      some { id, uuid, content, properties, page, parent, left, children }
    | _ => none

/-- Reads a block. -/
def Block.ofJson? (j : Json) : Option Block := Block.ofJsonWithin? (j.depth + 1) j

/-! ## Nodes -/

/-- A member that is left out when it has nothing to say. -/
def Json.memberUnless (empty : Bool) (key : String) (value : Json) : List (String × Json) :=
  if empty then [] else [(key, value)]

/-- What a node asks for beyond its content and children. -/
def Node.dataJson (uuid : Option String) (cursor : List Nat) : Json :=
  .object (Json.memberUnless uuid.isNone "uuid" (.ofOption .text uuid) ++
    Json.memberUnless cursor.isEmpty "cursor" (.array (cursor.map fun n => .integer (n : Nat))))

mutual

/-- A node as JSON. -/
def Node.toJson : Node → Json
  | ⟨content, children, _, uuid, cursor⟩ =>
    .object ([("content", .text content)] ++
      Json.memberUnless children.isEmpty "children" (.array (Node.toJsons children)) ++
      Json.memberUnless (uuid.isNone && cursor.isEmpty) "data" (Node.dataJson uuid cursor))

/-- Nodes as JSON. -/
def Node.toJsons : List Node → List Json
  | [] => []
  | n :: ns => n.toJson :: Node.toJsons ns

end

/-- Reads what a node asks for beyond its content and children. -/
def Node.dataOfJson? (j : Json) : Option (Option String × List Nat) :=
  match j.fields? ["uuid", "cursor"] with
  | some [uuid, cursor] => do
    let uuid ← optional Json.text? uuid
    let cursor ← defaulted [] (Json.list? Json.nat64?) cursor
    some (uuid, cursor)
  | _ => none

/-- Reads a node that is nested at most `depth` deep. -/
def Node.ofJsonWithin? (depth : Nat) (j : Json) : Option Node :=
  match depth with
  | 0 => none
  | depth + 1 =>
    match j.fields? ["content", "children", "data"] with
    | some [content, children, data] => do
      let content ← required Json.text? content
      let children ← defaulted [] (Json.list? (Node.ofJsonWithin? depth)) children
      let (uuid, cursor) ← defaulted (none, []) Node.dataOfJson? data
      some { content, children, uuid, cursor }
    | _ => none

/-- Reads a node. -/
def Node.ofJson? (j : Json) : Option Node := Node.ofJsonWithin? (j.depth + 1) j

/-! ## Settings -/

/-- Settings as JSON. -/
def Settings.toJson (s : Settings) : Json :=
  .object [("version", .text s.version), ("graph", .text s.graph),
    ("date_format", .text s.dateFormat), ("today", .text s.today.iso),
    ("language", .text s.language)]

/-- Reads a date. -/
def Calendar.Date.ofJson? (j : Json) : Option Calendar.Date := do
  let text ← j.text?
  (Calendar.Date.readLoose text.toList).toOption

/-- Reads settings; what is missing is as in `base`. -/
def Settings.ofJson? (base : Settings) (j : Json) : Option Settings :=
  match j.fields? ["version", "graph", "date_format", "today", "language"] with
  | some [version, graph, dateFormat, today, language] => do
    let version ← defaulted base.version Json.text? version
    let graph ← defaulted base.graph Json.text? graph
    let dateFormat ← defaulted base.dateFormat Json.text? dateFormat
    let today ← defaulted base.today Calendar.Date.ofJson? today
    let language ← defaulted base.language Json.text? language
    some { version, graph, dateFormat, today, language }
  | _ => none

end Stencil
