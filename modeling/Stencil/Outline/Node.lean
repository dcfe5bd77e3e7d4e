import Stencil.Text.Blank
import Stencil.Text.Line

/-!
# Outline nodes

The trees that are rendered and inserted.

* `Node` is a content with its children.
* `Node.get?` and `Node.modify` follow a path of child positions.
* `Node.isBlank` says that there is no content at all.
* `Node.markdown` and `Node.forestMarkdown` write trees as indented bullets.
* `Node.Everywhere`: a property holds of the node at the end of every path. `Node.everywhere_iff`:
  of the node itself and everywhere below its children.
-/

namespace Stencil

/-- A content and the nodes below it. -/
structure Node where
  content : String
  children : List Node := []
  /-- The block that the node was made from. -/
  origin : Option String := none
  /-- The identifier that the inserted block has to have. -/
  uuid : Option String := none
  /-- Where the cursor goes, as character offsets into the content. -/
  cursor : List Nat := []

instance : Inhabited Node := ⟨{ content := "" }⟩

namespace Node

/-- Whether the node asks for nothing beyond its content and children. -/
def isPlain (n : Node) : Bool := n.uuid.isNone && n.cursor.isEmpty

mutual

/-- Whether neither the node nor any below it has content. -/
def isBlank : Node → Bool
  | ⟨content, children, _, _, _⟩ => isBlankText content && allBlank children

/-- Whether no node of a forest has content. -/
def allBlank : List Node → Bool
  | [] => true
  | n :: ns => n.isBlank && allBlank ns

end

/-- The node at the end of a path of child positions. -/
def get? (n : Node) : List Nat → Option Node
  | [] => some n
  | i :: path =>
    match n.children[i]? with
    | some child => child.get? path
    | none => none

/-- Changes the node at the end of a path; a path that leads nowhere changes nothing. -/
def modify (n : Node) (f : Node → Node) : List Nat → Node
  | [] => f n
  | i :: path =>
    match n.children[i]? with
    | some child => { n with children := n.children.set i (child.modify f path) }
    | none => n

/-- The lines of the bullet of a content at a level. -/
def contentLines (level : Nat) (content : String) : List (List Char) :=
  let indent := List.replicate (2 * level) ' '
  let lines := Text.lines content.toList
  (indent ++ '-' :: ' ' :: lines.headD []) ::
    lines.tail.map fun line => indent ++ ' ' :: ' ' :: line

mutual

/-- The lines of the bullets of a tree. -/
def bulletLines (level : Nat) : Node → List (List Char)
  | ⟨content, children, _, _, _⟩ => contentLines level content ++ forestLines (level + 1) children

/-- The lines of the bullets of a forest. -/
def forestLines (level : Nat) : List Node → List (List Char)
  | [] => []
  | n :: ns => n.bulletLines level ++ forestLines level ns

end

/-- A text of lines, each with a line feed after it. -/
def ofLines (lines : List (List Char)) : String :=
  String.ofList (lines.flatMap fun line => line ++ ['\n'])

/-- A tree as indented bullets. -/
def markdown (n : Node) : String := ofLines (n.bulletLines 0)

/-- A forest as indented bullets. -/
def forestMarkdown (nodes : List Node) : String := ofLines (forestLines 0 nodes)

/-! ## What holds everywhere in a tree -/

/-- Whether a property holds of a node and of all nodes below it. -/
def Everywhere (P : Node → Prop) (n : Node) : Prop := ∀ path m, n.get? path = some m → P m

variable {P : Node → Prop} {n : Node}

theorem everywhere_iff : n.Everywhere P ↔ P n ∧ ∀ child ∈ n.children, child.Everywhere P := by
  constructor
  · intro h
    refine ⟨h [] n rfl, fun child hchild path m hm => ?_⟩
    obtain ⟨i, hi⟩ := List.mem_iff_getElem?.mp hchild
    refine h (i :: path) m ?_
    rw [get?, hi]
    exact hm
  · rintro ⟨hn, hbelow⟩ path m hm
    cases path with
    | nil => exact Option.some.inj hm ▸ hn
    | cons i path =>
      rw [get?] at hm
      split at hm
      · next child hi => exact hbelow child (List.mem_of_getElem? hi) path m hm
      · exact nomatch hm

theorem Everywhere.self (h : n.Everywhere P) : P n := (everywhere_iff.mp h).1

theorem Everywhere.children (h : n.Everywhere P) : ∀ child ∈ n.children, child.Everywhere P :=
  (everywhere_iff.mp h).2

end Node

end Stencil
