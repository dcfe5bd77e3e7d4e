import Stencil.Value.Basic
import Stencil.View.Scene

/-!
# Views as values

The records under which templates find what they are rendered into.
-/

namespace Stencil

/-- The record of texts by name. -/
def Value.ofTextFields (texts : Dictionary String) : Value := .record .plain (texts.map .text)

/-- The record of lists of texts by name. -/
def Value.ofTextListFields (texts : Dictionary (List String)) : Value :=
  .record .plain (texts.map .ofTexts)

/-- The record of the facts that the host tells. -/
def Settings.toValue (s : Settings) : Value :=
  .ofFields .plain [
    ("version", .text s.version),
    ("graph", .text s.graph),
    ("date_format", .text s.dateFormat),
    ("today", .date s.today),
    ("language", .text s.language)]

/-- The record of a path of names. -/
def Namespace.toValue (n : Namespace) : Value :=
  .ofFields .plain [
    ("parts", .ofTexts n.parts),
    ("prefix", .text n.parent),
    ("leaf", .text n.leaf),
    ("ancestors", .ofTexts n.ancestors)]

/-- The record of a page. -/
def PageView.toValue (p : PageView) : Value :=
  .ofFields .page [
    ("id", .ofInt p.id),
    ("uuid", .text p.uuid),
    ("name", .text p.name),
    ("key", .text p.key),
    ("namespace", (p.path.map Namespace.toValue).getD .null),
    ("day", (p.day.map Value.date).getD .null),
    ("props", .ofTextFields p.texts),
    ("prop_refs", .ofTextListFields p.references)]

/-- The record of a block that is known by its number only. -/
def Value.ofBlockNumber? : Option Int → Value
  | some id => .ofFields .plain [("id", .ofInt id)]
  | none => .null

mutual

/-- The record of a block. Children that were only counted are null. -/
def BlockView.toValue : BlockView → Value
  | ⟨id, uuid, content, texts, references, page, parent, previous, level, children⟩ =>
    .ofFields .block [
      ("id", .ofInt id),
      ("uuid", .text uuid),
      ("content", .text content),
      ("props", .ofTextFields texts),
      ("prop_refs", .ofTextListFields references),
      ("page", page.toValue),
      ("parent", .ofBlockNumber? parent),
      ("prev", .ofBlockNumber? previous),
      ("level", .ofInt level),
      ("children", match children with
        | .expanded items => .list (BlockView.toValues items)
        | .counted _ => .null),
      ("children_count", .ofInt children.size)]

/-- The records of blocks. -/
def BlockView.toValues : List BlockView → List Value
  | [] => []
  | b :: bs => b.toValue :: BlockView.toValues bs

end

/-- The record of a template. -/
def TemplateView.toValue (t : TemplateView) : Value :=
  .ofFields .plain [
    ("name", .text t.name),
    ("including_parent", .flag t.includingParent),
    ("accessed_via", .text t.accessedVia),
    ("uuid", .ofText? t.uuid),
    ("props", .ofTextFields t.texts)]

/-- The record of the part that is being rendered. -/
def SelfView.toValue (s : SelfView) : Value :=
  .ofFields .block [
    ("uuid", .ofText? s.uuid),
    ("page", s.page.toValue),
    ("level", .ofInt s.level)]

end Stencil
