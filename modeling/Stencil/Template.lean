import Stencil.Outline.Node
import Stencil.View.Scene

/-!
# Templates

A template is an outline that is rendered node by node.

* `TemplateOrigin` is a template as it was found, rooted at a block or over a whole page.
* `Template.ofSource` reads its properties off the root and unwraps fenced bodies.
* `Template.isEmpty` says that nothing would be rendered, without rendering.
-/

namespace Stencil

/-- How a template was found. -/
inductive Access where
  | page
  | name
  | reference
  deriving Repr, DecidableEq

/-- Whether the content of the root is rendered when the template does not say so. -/
def Access.includesParent : Access → Bool
  | .page => false
  | .name => true
  | .reference => false

/-- The word for a way of access. -/
def Access.word : Access → String
  | .page => "page"
  | .name => "name"
  | .reference => "reference"

/-- A template as it was found. -/
structure TemplateOrigin where
  root : Node
  name : String
  access : Access
  page : PageView

mutual

/-- The outline of a block. -/
def Block.toNode : Block → Node
  | ⟨_, uuid, content, _, _, _, _, .expanded items⟩ =>
    { content, children := Block.toNodes items, origin := some uuid }
  | ⟨_, uuid, content, _, _, _, _, .counted _⟩ => { content, origin := some uuid }

/-- The outlines of blocks. -/
def Block.toNodes : List Block → List Node
  | [] => []
  | b :: bs => b.toNode :: Block.toNodes bs

end

namespace TemplateOrigin

/-- The template rooted at a block, named by its property or else by its identifier. -/
def ofBlock (b : Block) (access : Access) : TemplateOrigin where
  root := b.toNode
  name := ((b.property? "template").map (·.text)).getD b.uuid
  access
  page := .ofPage b.page

/-- The template over the blocks of a page. -/
def ofPage (p : Page) (blocks : List Block) : TemplateOrigin where
  root := { content := "", children := Block.toNodes blocks }
  name := (PageView.ofPage p).name
  access := .page
  page := .ofPage p

end TemplateOrigin

/-- A template ready to be rendered. -/
structure Template where
  root : Node
  name : String
  /-- Whether the content of the root is rendered. -/
  includingParent : Bool
  access : Access
  page : PageView
  /-- The properties of the root by their normal names. -/
  texts : Dictionary String

namespace Template

/-- The value of a yes or no property. -/
def readYesNo? (value : List Char) : Option Bool :=
  let word := String.ofList (Text.lower (Text.trim value))
  if word = "yes" || word = "true" || word = "y" then some true
  else if word = "no" || word = "false" || word = "n" then some false
  else none

/-- Whether a property names the template. -/
def isNameKey (key : List Char) : Bool := asciiLowered (String.ofList key) = "template"

/-- Whether a property says that the content of the root is rendered. -/
def isParentKey (key : List Char) : Bool :=
  asciiLowered (String.ofList key) = "template-including-parent"

/-- Whether a line of the root belongs to its content. -/
def keepsLine (line : List Char) : Bool :=
  match propertyOf? line with
  | some (key, _) => !isNameKey key && !isParentKey key
  | none => true

/-- The properties of lines by their normal names. -/
def textsOf (lines : List (List Char)) : Dictionary String :=
  .ofList ((lines.filterMap propertyOf?).map fun (key, value) =>
    (normalName (String.ofList key), String.ofList value))

/-- What the last line about it says on the content of the root. -/
def includingParentOf? (lines : List (List Char)) : Option Bool :=
  ((lines.filterMap propertyOf?).filter fun entry => isParentKey entry.1).getLast?.bind
    fun entry => readYesNo? entry.2

/-- The content of a block that is nothing but a fenced statement tag. -/
def unfenced? (content : List Char) : Option (List Char) :=
  match ['`', '`', '`'].isPrefixOf? (Text.trim content) with
  | none => none
  | some afterFence =>
    match Text.cutAt? ['\n'] afterFence with
    | none => none
    | some (_, rest) =>
      if ['`', '`', '`'].isSuffixOf rest then
        let body := rest.take (rest.length - 3)
        let body := (body.reverse.dropWhile fun c => c = '\n' || c = '\r').reverse
        let inner := Text.trim body
        if ['`', '`', '\x7b'].isPrefixOf inner && ['\x7d', '`', '`'].isSuffixOf inner then some body
        else none
      else none

/-- A content without the fence around it, if it is a fenced statement tag. -/
def unfence (content : String) : String :=
  match unfenced? content.toList with
  | some body => String.ofList body
  | none => content

mutual

/-- A tree whose fenced statement tags have lost their fences. -/
def unfenceTree : Node → Node
  | ⟨content, children, origin, uuid, cursor⟩ =>
    ⟨unfence content, unfenceForest children, origin, uuid, cursor⟩

/-- A forest whose fenced statement tags have lost their fences. -/
def unfenceForest : List Node → List Node
  | [] => []
  | n :: ns => unfenceTree n :: unfenceForest ns

end

/-- Makes a template ready: the properties that concern it as a template leave the content. -/
def ofSource (s : TemplateOrigin) : Template :=
  let lines := Text.lines s.root.content.toList
  let content := String.ofList (Text.joinWith ['\n'] (lines.filter keepsLine))
  { root := unfenceTree { s.root with content }
    name := s.name
    includingParent := (includingParentOf? lines).getD s.access.includesParent
    access := s.access
    page := s.page
    texts := textsOf lines }

/-- Whether rendering would give nothing, by the contents alone. -/
def isEmpty (t : Template) : Bool :=
  Node.allBlank t.root.children && (!t.includingParent || isBlankText t.root.content)

/-- What the template sees of itself. -/
def view (t : Template) : TemplateView where
  name := t.name
  includingParent := t.includingParent
  accessedVia := t.access.word
  uuid := t.root.origin
  texts := t.texts

end Template

end Stencil
