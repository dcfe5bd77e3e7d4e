import Mathlib
import Stencil.Proofs.Graph.Landmarks
import Stencil.View.Block

/-!
# Numbers and links of blocks

The numbers that pages and blocks get, and the links between blocks, say how they are nested.

* `Block.AllLinked`: siblings that are linked to their page, their parent and to each other, with
  all that is below them. Numbered items are (`numberItems_linked`).
* `BlockView.AllPlaced`: views of siblings with the levels and the siblings before them. Views of
  linked blocks are (`ofBlocksAt_placed`).
* `Graph.landmarks`: the starts and ends of a graph in order.
* `Graph.ofEvents_consistent`: a graph has the landmarks that its events say, with the numbers 1, 2,
  3, ... in their order.
-/

namespace Stencil

open Stencil.Graph Calendar Markup Landmark

/-! ## Links -/

/-- How a block is linked to its page, its parent and what is left of it. Blocks come after their
parents. -/
structure Block.Links (page : Page) (parent left : Option Int) (b : Block) : Prop where
  onPage : b.page = page
  below : b.parent = parent
  rightOf : b.left = left
  after : ∀ p ∈ parent, p < b.id

mutual

/-- Whether a block is linked, and the blocks below it have it as their parent and as what is left
of the first of them. -/
def Block.IsLinked (page : Page) (parent left : Option Int) : Block → Prop
  | ⟨id, uuid, content, properties, ownPage, ownParent, ownLeft, .expanded items⟩ =>
    Block.Links page parent left
        ⟨id, uuid, content, properties, ownPage, ownParent, ownLeft, .expanded items⟩ ∧
      Block.AllLinked page (some id) (some id) items
  | ⟨id, uuid, content, properties, ownPage, ownParent, ownLeft, .counted number⟩ =>
    Block.Links page parent left
      ⟨id, uuid, content, properties, ownPage, ownParent, ownLeft, .counted number⟩

/-- Whether siblings are linked to one parent, and each but the first to the one before it. -/
def Block.AllLinked (page : Page) (parent left : Option Int) : List Block → Prop
  | [] => True
  | b :: bs => b.IsLinked page parent left ∧ Block.AllLinked page parent (some b.id) bs

end

theorem Block.IsLinked.links {page : Page} {parent left : Option Int} {b : Block}
    (h : b.IsLinked page parent left) : b.Links page parent left := by
  obtain ⟨_, _, _, _, _, _, _, _ | _⟩ := b
  · exact h.1
  · exact h

mutual

/-- The landmarks of a block and all below it. -/
def Block.landmarks : Block → List (Landmark Int)
  | ⟨id, _, content, _, _, _, _, .expanded items⟩ =>
    .enter id :: Block.landmarksAll items ++ [.leave content]
  | ⟨id, _, content, _, _, _, _, .counted _⟩ => [.enter id, .leave content]

/-- The landmarks of blocks in order. -/
def Block.landmarksAll : List Block → List (Landmark Int)
  | [] => []
  | b :: bs => b.landmarks ++ Block.landmarksAll bs

end

/-- The landmarks of a graph: its pages and blocks where they start, with their numbers. -/
def Graph.landmarks (g : Graph) : List (Landmark Int) :=
  g.flatMap fun tree => .page tree.page.id tree.page.title :: Block.landmarksAll tree.blocks

namespace Graph

/-! ## Numbering -/

section Numbering

variable [UuidSource]

mutual

/-- A numbered item has the landmarks of the item, with numbers from its own on. -/
theorem numberItem_landmarks (page : Page) : ∀ (item : DraftItem) (parent left : Option Int)
    (id : Int), (numberItem page parent left id item).1.landmarks = number id item.landmarks ∧
      (numberItem page parent left id item).2 = id + starts item.landmarks
  | ⟨content, children⟩, parent, left, id => by
    obtain ⟨hblocks, hnext⟩ := numberItems_landmarks page children (some id) (some id) (id + 1)
    rw [DraftItem.landmarks, List.cons_append, number, number_append, starts, starts_append]
    refine ⟨?_, ?_⟩
    · rw [← hblocks]
      rfl
    · refine hnext.trans ?_
      simp only [starts, Nat.add_zero]
      omega

theorem numberItems_landmarks (page : Page) : ∀ (items : List DraftItem)
    (parent left : Option Int) (id : Int),
    Block.landmarksAll (numberItems page parent left id items).1 =
        number id (DraftItem.landmarksAll items) ∧
      (numberItems page parent left id items).2 = id + starts (DraftItem.landmarksAll items)
  | [], parent, left, id => ⟨rfl, (Int.add_zero id).symm⟩
  | item :: items, parent, left, id => by
    obtain ⟨hblock, hnext⟩ := numberItem_landmarks page item parent left id
    obtain ⟨hblocks, hnext'⟩ := numberItems_landmarks page items parent (some id)
      (numberItem page parent left id item).2
    rw [DraftItem.landmarksAll, number_append, starts_append, ← hblock, ← hnext, ← hblocks]
    refine ⟨rfl, hnext'.trans ?_⟩
    rw [hnext]
    omega

end

/-- **Numbered pages have the landmarks of the pages, with numbers in their order.** -/
theorem numberPages_landmarks [DateLibrary] (pages : List DraftPage) (id : Int) :
    (numberPages id pages).landmarks = number id (pages.flatMap DraftPage.landmarks) := by
  induction pages generalizing id with
  | nil => rfl
  | cons raw pages ih =>
    obtain ⟨hblocks, hnext⟩ := numberItems_landmarks (pageOf id raw) raw.items none none (id + 1)
    rw [List.flatMap_cons, DraftPage.landmarks, List.cons_append, number, number_append, ← hblocks,
      ← hnext, ← ih]
    rfl

theorem numberItem_id (page : Page) (item : DraftItem) (parent left : Option Int) (id : Int) :
    (numberItem page parent left id item).1.id = id := by
  cases item
  rfl

mutual

/-- A numbered item is linked as it is told to be. -/
theorem numberItem_linked (page : Page) : ∀ (item : DraftItem) (parent left : Option Int)
    (id : Int), (∀ p ∈ parent, p < id) →
      (numberItem page parent left id item).1.IsLinked page parent left
  | ⟨_, children⟩, _, _, id, hparent =>
    ⟨⟨rfl, rfl, rfl, hparent⟩, numberItems_linked page children (some id) (some id) (id + 1)
      fun _ hp => Option.some.inj hp ▸ Int.lt_succ id⟩

theorem numberItems_linked (page : Page) : ∀ (items : List DraftItem) (parent left : Option Int)
    (id : Int), (∀ p ∈ parent, p < id) →
      Block.AllLinked page parent left (numberItems page parent left id items).1
  | [], parent, left, id, _ => trivial
  | item :: items, parent, left, id, hparent => by
    have hnext := (numberItem_landmarks page item parent left id).2
    have hlater : ∀ p ∈ parent, p < (numberItem page parent left id item).2 := fun p hp => by
      have hp := hparent p hp
      omega
    refine ⟨numberItem_linked page item parent left id hparent, ?_⟩
    rw [numberItem_id]
    exact numberItems_linked page items parent (some id) _ hlater

end

theorem linked_of_mem_numberPages [DateLibrary] {pages : List DraftPage} {id : Int}
    {tree : PageTree} (h : tree ∈ numberPages id pages) :
    Block.AllLinked tree.page none none tree.blocks := by
  induction pages generalizing id with
  | nil => exact nomatch h
  | cons raw pages ih =>
    rcases List.mem_cons.mp h with rfl | h
    · exact numberItems_linked _ raw.items none none (id + 1) nofun
    · exact ih h

end Numbering

end Graph

/-! ## All blocks -/

/-- The number of a block that starts. -/
def Graph.Landmark.entered? : Landmark Int → Option Int
  | .enter id => some id
  | .page _ _ | .leave _ => none

mutual

theorem Block.ids_withDescendants : ∀ b : Block,
    b.withDescendants.map (·.id) = b.landmarks.filterMap entered?
  | ⟨id, uuid, content, properties, page, parent, left, .expanded items⟩ => by
    have ih := Block.ids_flatten items
    rw [Block.withDescendants, List.map_cons, ih, Block.landmarks, List.filterMap_append]
    exact (List.append_nil _).symm
  | ⟨_, _, _, _, _, _, _, .counted _⟩ => rfl

theorem Block.ids_flatten : ∀ bs : List Block,
    (Block.flatten bs).map (·.id) = (Block.landmarksAll bs).filterMap entered?
  | [] => rfl
  | b :: bs => by
    rw [Block.flatten, List.map_append, Block.ids_withDescendants b, Block.ids_flatten bs,
      Block.landmarksAll, List.filterMap_append]

end

mutual

/-- Blocks at and below a linked block are linked. -/
theorem Block.linked_of_mem_withDescendants {page : Page} : ∀ (b : Block) {c : Block}
    {parent left : Option Int}, b.IsLinked page parent left → c ∈ b.withDescendants →
      ∃ parent' left', c.IsLinked page parent' left'
  | ⟨_, _, _, _, _, _, _, .expanded items⟩, c, parent, left, h, hc => by
    rcases List.mem_cons.mp hc with rfl | hc
    · exact ⟨parent, left, h⟩
    · exact Block.linked_of_mem_flatten items h.2 hc
  | ⟨_, _, _, _, _, _, _, .counted _⟩, c, parent, left, h, hc => by
    rw [List.mem_singleton.mp hc]
    exact ⟨parent, left, h⟩

theorem Block.linked_of_mem_flatten {page : Page} : ∀ (bs : List Block) {c : Block}
    {parent left : Option Int}, Block.AllLinked page parent left bs → c ∈ Block.flatten bs →
      ∃ parent' left', c.IsLinked page parent' left'
  | [], _, _, _, _, hc => nomatch hc
  | b :: bs, c, parent, left, h, hc => by
    rcases List.mem_append.mp hc with hc | hc
    · exact Block.linked_of_mem_withDescendants b h.1 hc
    · exact Block.linked_of_mem_flatten bs h.2 hc

end

/-- The blocks of a graph are those that start in it, in order. -/
theorem Graph.ids_blocks (g : Graph) :
    g.blocks.map (·.id) = g.landmarks.filterMap entered? := by
  induction g with
  | nil => rfl
  | cons tree g ih =>
    have htree : Graph.landmarks (tree :: g) =
        (.page tree.page.id tree.page.title :: Block.landmarksAll tree.blocks) ++
          Graph.landmarks g := rfl
    rw [blocks, List.flatMap_cons, List.map_append, Block.ids_flatten, htree, List.filterMap_append]
    exact congrArg _ ih

/-- Numbers that are given in order increase. -/
theorem Graph.Landmark.pairwise_number (ls : List (Landmark Unit)) (next : Int) :
    ((number next ls).filterMap entered?).Pairwise (· < ·) ∧
      ∀ id ∈ (number next ls).filterMap entered?, next ≤ id := by
  induction ls generalizing next with
  | nil => exact ⟨.nil, nofun⟩
  | cons l ls ih =>
    cases l with
    | page _ name =>
      obtain ⟨hpairs, hfrom⟩ := ih (next + 1)
      exact ⟨hpairs, fun id hid => by have := hfrom id hid; omega⟩
    | enter _ =>
      obtain ⟨hpairs, hfrom⟩ := ih (next + 1)
      refine ⟨List.pairwise_cons.mpr ⟨fun id hid => hfrom id hid, hpairs⟩, fun id hid => ?_⟩
      rcases List.mem_cons.mp hid with rfl | hid
      · exact Int.le_refl _
      · have := hfrom id hid
        omega
    | leave content => exact ih next

/-! ## Views -/

namespace BlockView

mutual

/-- Whether a view has a level and a sibling before it, and the views below it are placed below. -/
def IsPlaced (level : Nat) (previous : Option Int) : BlockView → Prop
  | ⟨_, _, _, _, _, _, _, ownPrevious, ownLevel, .expanded items⟩ =>
    (ownPrevious = previous ∧ ownLevel = level) ∧ AllPlaced (level + 1) none items
  | ⟨_, _, _, _, _, _, _, ownPrevious, ownLevel, .counted _⟩ =>
    ownPrevious = previous ∧ ownLevel = level

/-- Whether views of siblings have a level and each has the one before it as its previous sibling,
the first what stands before all. -/
def AllPlaced (level : Nat) (previous : Option Int) : List BlockView → Prop
  | [] => True
  | v :: vs => v.IsPlaced level previous ∧ AllPlaced level (some v.id) vs

end

theorem id_ofBlockAt (level : Nat) (b : Block) : (ofBlockAt level b).id = b.id := by
  cases b
  rfl

mutual

/-- The view of a linked block is placed at its level, and its previous sibling is what is left of
it unless that is its parent. -/
theorem ofBlockAt_placed {page : Page} : ∀ (b : Block) (level : Nat) {parent left : Option Int},
    b.IsLinked page parent left → (ofBlockAt level b).IsPlaced level (previousOf left parent)
  | ⟨id, _, _, _, _, _, _, .expanded items⟩, level, parent, left, h => by
    obtain ⟨⟨-, rfl, rfl, -⟩, hitems⟩ := h
    have hbelow := ofBlocksAt_placed items (level + 1) hitems
    have hfirst : previousOf (some id) (some id) = none := if_pos rfl
    rw [hfirst] at hbelow
    exact ⟨⟨rfl, rfl⟩, hbelow⟩
  | ⟨_, _, _, _, _, _, _, .counted _⟩, level, parent, left, h => by
    obtain ⟨-, rfl, rfl, -⟩ := h
    exact ⟨rfl, rfl⟩

theorem ofBlocksAt_placed {page : Page} : ∀ (bs : List Block) (level : Nat)
    {parent left : Option Int}, Block.AllLinked page parent left bs →
      AllPlaced level (previousOf left parent) (ofBlocksAt level bs)
  | [], level, parent, left, _ => trivial
  | b :: bs, level, parent, left, h => by
    obtain ⟨hb, hbs⟩ := h
    have hrest := ofBlocksAt_placed bs level hbs
    -- A block comes after its parent, so it is left of the next sibling as a sibling.
    have hprevious : previousOf (some b.id) parent = some b.id :=
      if_neg fun heq => Int.lt_irrefl b.id (hb.links.after b.id heq.symm)
    rw [hprevious, ← id_ofBlockAt level b] at hrest
    exact ⟨ofBlockAt_placed b level hb, hrest⟩

end

end BlockView

/-! ## Graphs -/

namespace Graph

/-- What a graph and the events that it was read from have to do with each other. -/
structure Consistent (source : List Char) (events : List Event) (g : Graph) : Prop where
  /-- Pages and blocks have the numbers 1, 2, 3, ... in the order in which they start. -/
  numbers : g.landmarks = number 1 (Landmark.ofEvents source false [] events)
  /-- Blocks are linked to their page, their parents and their siblings. -/
  links : ∀ tree ∈ g, Block.AllLinked tree.page none none tree.blocks
  /-- Views of blocks have their depths as levels and their previous siblings. -/
  views : ∀ tree ∈ g, BlockView.AllPlaced 0 none (BlockView.ofBlocksAt 0 tree.blocks) ∧
    ∀ b ∈ Block.flatten tree.blocks,
      (BlockView.ofBlock b).IsPlaced 0 (BlockView.previousOf b.left b.parent)
  /-- The blocks that are listed are those that start in the graph, each once. -/
  blocks : g.blocks.map (·.id) = g.landmarks.filterMap entered?
  /-- They are listed in the order of their numbers. -/
  increasing : (g.blocks.map (·.id)).Pairwise (· < ·)

theorem ofEvents_consistent [UuidSource] [DateLibrary] {source : List Char} {events : List Event}
    {pages : List DraftPage} (hnested : Nested events)
    (h : DraftPage.ofEvents source events = .ok pages) :
    Consistent source events (numberPages 1 pages) := by
  have hlandmarks : (numberPages 1 pages).landmarks =
      number 1 (Landmark.ofEvents source false [] events) := by
    rw [numberPages_landmarks, ofEvents_landmarks hnested h]
  have hblocks := ids_blocks (numberPages 1 pages)
  refine ⟨hlandmarks, fun tree => linked_of_mem_numberPages, fun tree htree => ?_, hblocks, ?_⟩
  · have hlinked := linked_of_mem_numberPages htree
    refine ⟨BlockView.ofBlocksAt_placed tree.blocks 0 hlinked, fun b hb => ?_⟩
    obtain ⟨parent, left, hb⟩ := Block.linked_of_mem_flatten tree.blocks hlinked hb
    rw [hb.links.rightOf, hb.links.below]
    exact BlockView.ofBlockAt_placed b 0 hb
  · rw [hblocks, hlandmarks]
    exact (pairwise_number _ 1).1

/-- A graph is consistent with the events that a lawful reader gives for its source. -/
theorem ofSource_consistent [MarkupReader] [LawfulMarkupReader] [UuidSource] [DateLibrary]
    {source : String} {file : Nat} {g : Graph} (h : Graph.ofSource source file = .ok g) :
    Consistent source.toList (MarkupReader.events source.toList) g := by
  obtain ⟨pages, hpages, h⟩ := bind_eq_ok_iff.mp h
  rw [← Except.ok.inj h]
  exact ofEvents_consistent (LawfulMarkupReader.nested _) (mapError_eq_ok_iff.mp hpages)

/-- **Numbers and links of a graph are consistent.** Whatever properly nested events a graph is read
from, its pages and blocks are numbered in the order of their starts, blocks are linked to their
page, parents and siblings, their views have the right levels and neighbours, and all blocks are
listed once, in order. The events of every document are such events. -/
theorem consistent [UuidSource] [DateLibrary] :
    (∀ (source : List Char) (events : List Event) (pages : List DraftPage), Nested events →
      DraftPage.ofEvents source events = .ok pages →
        Consistent source events (numberPages 1 pages)) ∧
    ∀ (source : String) (file : Nat) (g : Graph), Graph.ofSource source file = .ok g →
      Consistent source.toList (Markup.Document.ofSource source.toList).events g :=
  ⟨fun _ _ _ => ofEvents_consistent, fun _ _ _ => ofSource_consistent⟩

/-- Two pages, and a block below another. -/
def nestedSource : String := "# A\n\n- b\n  - c\n- d\n\n# E\n\n- f\n"

/-- The walk over the document. -/
def nestedEvents : List Event :=
  [.headingStart 1, .text ['A'], .headingEnd,
    .listStart 5, .itemStart ⟨5, 15⟩, .paragraph ⟨7, 9⟩,
    .listStart 11, .itemStart ⟨11, 15⟩, .paragraph ⟨13, 15⟩, .itemEnd, .itemEnd,
    .itemStart ⟨15, 20⟩, .paragraph ⟨17, 19⟩, .itemEnd,
    .headingStart 1, .text ['E'], .headingEnd,
    .listStart 25, .itemStart ⟨25, 29⟩, .paragraph ⟨27, 29⟩, .itemEnd]

/-- The pages of the document with their items. -/
def nestedPages : List DraftPage :=
  [⟨"A", .empty, [⟨['b'], [⟨['c'], []⟩]⟩, ⟨['d'], []⟩]⟩, ⟨"E", .empty, [⟨['f'], []⟩]⟩]

theorem events_nestedSource :
    (Markup.Document.ofSource nestedSource.toList).events = nestedEvents := by cbv

theorem ofEvents_nestedEvents :
    DraftPage.ofEvents nestedSource.toList nestedEvents = .ok nestedPages := by cbv

/-- The numbers of two pages and their blocks. -/
theorem consistent_nestedSource :
    Nested nestedEvents ∧
      Consistent nestedSource.toList nestedEvents (numberPages 1 nestedPages) ∧
      Graph.ofSource nestedSource 0 = .ok (numberPages 1 nestedPages) ∧
      Consistent nestedSource.toList (Markup.Document.ofSource nestedSource.toList).events
        (numberPages 1 nestedPages) ∧
      (numberPages 1 nestedPages).landmarks =
        [.page 1 "A", .enter 2, .enter 3, .leave "c", .leave "b", .enter 4, .leave "d",
          .page 5 "E", .enter 6, .leave "f"] := by
  have hnested : Nested nestedEvents := by decide
  have hconsistent := consistent.1 _ _ _ hnested ofEvents_nestedEvents
  have hgraph : Graph.ofSource nestedSource 0 = .ok (numberPages 1 nestedPages) := by
    unfold Graph.ofSource
    dsimp only [MarkupReader.events]
    rw [events_nestedSource, ofEvents_nestedEvents]
    rfl
  refine ⟨hnested, hconsistent, hgraph, consistent.2 _ _ _ hgraph, ?_⟩
  rw [hconsistent.numbers]
  cbv

/-- The name in the last top heading of some events, wherever it stands. -/
def lastHeading? : List Event → Option String
  | [] => none
  | .headingStart level :: es =>
    (lastHeading? es).or (if level = 1 then some (Draft.pageName (titleOf es)) else none)
  | _ :: es => lastHeading? es

/-- A top heading in an item starts no page: the page of a block need not be that of the last top
heading before it. -/
theorem not_page_of_last_heading :
    ¬ ∀ (source : List Char) (before after : List Event) (span : Span) (pages : List DraftPage),
      Nested (before ++ .itemStart span :: after) →
      DraftPage.ofEvents source (before ++ .itemStart span :: after) = .ok pages →
      ∀ b ∈ (numberPages 1 pages).blocks,
        b.id = 1 + starts (Landmark.ofEvents source false [] before) →
        lastHeading? before = some b.page.title := by
  intro h
  have hpages : DraftPage.ofEvents "# A\n\n- # B\n- c\n".toList
      ([.headingStart 1, .text ['A'], .headingEnd, .listStart 5, .itemStart ⟨5, 11⟩,
        .headingStart 1, .text ['B'], .headingEnd, .itemEnd] ++
        [.itemStart ⟨11, 15⟩, .paragraph ⟨13, 15⟩, .itemEnd]) =
      .ok [⟨"A", .empty, [⟨['#', ' ', 'B'], []⟩, ⟨['c'], []⟩]⟩] := by cbv
  have hlast := h _ _ _ _ _ (by decide) hpages _ (List.mem_cons_of_mem _ List.mem_cons_self) rfl
  exact absurd hlast (by decide)

end Graph

end Stencil
