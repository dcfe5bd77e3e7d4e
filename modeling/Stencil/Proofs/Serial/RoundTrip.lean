import Stencil.Proofs.Dictionary
import Stencil.Proofs.Serial.Reader
import Stencil.Serial.Entity

/-!
# Serialized forms lose nothing

Nodes, pages and blocks are written as JSON and read again by other rules: each field has its own
rule for when it is left out and its own default.

* `Page.Fits`, `Block.Fits` and `Node.Fits`: the numbers can be written with the bits that they
  have, and properties stand in the order of their keys. Nothing else is ever read
  (`reads_page`, `reads_blockWithin`, `reads_nodeWithin`).
* `Node.withoutOrigins`: what is not written of a node, at any depth, is where it came from.
* `Json.Solid`: no part of a value is empty; `Node.solid_toJson`: empty parts of nodes are left out.
* `serialized_forms`: what is written is read back, and only what fits is.
-/

namespace Stencil

open Json

/-! ## Properties and pages -/

theorem PropertyValue.ofJson?_toJson (v : PropertyValue) : ofJson? v.toJson = some v := by
  have hrefs : Json.list? Json.text? (.array (v.refs.map .text)) = some (v.refs.map id) :=
    list?_write fun _ _ => rfl
  rw [List.map_id] at hrefs
  simp [ofJson?, toJson, fields?, required, defaulted, text?, hrefs]

theorem Properties.ofJson?_toJson {p : Properties} (h : p.Ordered) :
    Properties.ofJson? (Properties.toJson p) = some p := by
  have hentries : (p.entries.map fun entry => (entry.1, entry.2.toJson)).mapM
      (fun member : String × Json => (PropertyValue.ofJson? member.2).map fun v => (member.1, v)) =
        some (p.entries.map id) :=
    mapM_write fun entry _ => by rw [PropertyValue.ofJson?_toJson]; rfl
  rw [List.map_id] at hentries
  unfold Properties.ofJson? Properties.toJson
  simp only [hentries]
  exact congrArg some (Dictionary.ofList_entries h)

/-- Properties are read in the order of their keys. -/
theorem reads_properties : ReadsOnly Dictionary.Ordered Properties.ofJson? := by
  intro j p h
  cases j with
  | object members =>
    obtain ⟨entries, -, hentries⟩ := Option.bind_eq_some_iff.mp h
    exact Option.some.inj hentries ▸ Dictionary.ordered_ofList entries
  | _ => exact nomatch h

/-- What the fields of a page can hold. -/
structure Page.Fits (p : Page) : Prop where
  id : Fits64 p.id
  journalDay : ∀ day ∈ p.journalDay, Fits32 day
  properties : p.properties.Ordered

/-- An optional number is read back. -/
theorem optional_ofOption {read : Json → Option Int} {n? : Option Int}
    (h : ∀ n ∈ n?, read (.integer n) = some n) :
    optional read (some (ofOption .integer n?)) = some n? := by
  cases n? with
  | none => rfl
  | some n =>
    have hne : Json.integer n ≠ .null := nofun
    rw [ofOption, optional_of_ne_null hne, h n rfl]
    rfl

theorem Page.ofJson?_toJson {p : Page} (h : p.Fits) : Page.ofJson? p.toJson = some p := by
  have hid : int64? (.integer p.id) = some p.id := int64?_eq_some_iff.mpr ⟨rfl, h.id⟩
  have hday : optional int32? (some (ofOption .integer p.journalDay)) = some p.journalDay :=
    optional_ofOption fun day hday => int32?_eq_some_iff.mpr ⟨rfl, h.journalDay day hday⟩
  simp [Page.ofJson?, Page.toJson, fields?, required, defaulted, text?, hid, hday,
    Properties.ofJson?_toJson h.properties]

theorem reads_page : ReadsOnly Page.Fits Page.ofJson? := by
  intro j p h
  unfold Page.ofJson? at h
  split at h
  · obtain ⟨id, hid, h⟩ := Option.bind_eq_some_iff.mp h
    obtain ⟨uuid, -, h⟩ := Option.bind_eq_some_iff.mp h
    obtain ⟨name, -, h⟩ := Option.bind_eq_some_iff.mp h
    obtain ⟨title, -, h⟩ := Option.bind_eq_some_iff.mp h
    obtain ⟨journalDay, hday, h⟩ := Option.bind_eq_some_iff.mp h
    obtain ⟨properties, hproperties, h⟩ := Option.bind_eq_some_iff.mp h
    obtain rfl := Option.some.inj h
    exact {
      id := ReadsOnly.required (fun _ _ hn => (int64?_eq_some_iff.mp hn).2) hid
      journalDay := ReadsOnly.optional (fun _ _ hn => (int32?_eq_some_iff.mp hn).2) hday
      properties := reads_properties.defaulted hproperties Dictionary.ordered_empty }
  · exact nomatch h

/-! ## Blocks -/

/-- What the fields of a block and of the blocks below it can hold. -/
inductive Block.Fits : Block → Prop where
  | mk {b : Block} (id : Fits64 b.id) (properties : b.properties.Ordered) (page : b.page.Fits)
    (parent : ∀ n ∈ b.parent, Fits64 n) (left : ∀ n ∈ b.left, Fits64 n)
    (counted : ∀ number, b.children = .counted number → FitsUnsigned64 number)
    (items : ∀ child ∈ b.children.items, Block.Fits child) : Block.Fits b

/-- Children as JSON. -/
def Children.toJson {α : Type} (write : α → Json) : Children α → Json
  | .expanded items => .object [("Expanded", .array (items.map write))]
  | .counted number => .object [("CountOnly", .integer number)]

theorem Block.toJsons_eq_map (bs : List Block) : Block.toJsons bs = bs.map Block.toJson := by
  induction bs with
  | nil => rfl
  | cons b bs ih => rw [Block.toJsons, ih, List.map_cons]

theorem Block.toJson_eq (b : Block) : b.toJson =
    .object [("id", .integer b.id), ("uuid", .text b.uuid), ("content", .text b.content),
      ("properties", b.properties.toJson), ("page", b.page.toJson),
      ("parent", .ofOption .integer b.parent), ("left", .ofOption .integer b.left),
      ("children", b.children.toJson Block.toJson)] := by
  obtain ⟨id, uuid, content, properties, page, parent, left, children⟩ := b
  cases children with
  | expanded items => rw [Block.toJson, Block.toJsons_eq_map]; rfl
  | counted number => rw [Block.toJson]; rfl

section Children

variable {α : Type} {read : Json → Option α} {write : α → Json}

theorem Children.ofJson?_toJson {children : Children α}
    (hcounted : ∀ number, children = .counted number → FitsUnsigned64 number)
    (hitems : ∀ child ∈ children.items, read (write child) = some child) :
    Children.ofJson? read (children.toJson write) = some children := by
  cases children with
  | expanded items =>
    have hlist : list? read (.array (items.map write)) = some (items.map id) := list?_write hitems
    rw [List.map_id] at hlist
    simp [Children.ofJson?, Children.toJson, hlist]
  | counted number =>
    have hnumber : nat64? (.integer number) = some number :=
      nat64?_eq_some_iff.mpr ⟨rfl, hcounted number rfl⟩
    simp [Children.ofJson?, Children.toJson, hnumber]

theorem Children.reads {P : α → Prop} (h : ReadsOnly P read) :
    ReadsOnly (fun children => (∀ number, children = .counted number → FitsUnsigned64 number) ∧
      ∀ child ∈ children.items, P child) (Children.ofJson? read) := by
  intro j children hread
  unfold Children.ofJson? at hread
  split at hread
  · split at hread
    · obtain ⟨items, hitems, rfl⟩ := Option.map_eq_some_iff.mp hread
      exact ⟨nofun, h.list? _ _ hitems⟩
    · split at hread
      · obtain ⟨number, hnumber, rfl⟩ := Option.map_eq_some_iff.mp hread
        exact ⟨fun n hn => Children.counted.inj hn ▸ (nat64?_eq_some_iff.mp hnumber).2, nofun⟩
      · exact nomatch hread
  · exact nomatch hread

theorem Children.depth_lt_of_mem {children : Children α} {child : α}
    (h : child ∈ children.items) : (write child).depth < (children.toJson write).depth := by
  cases children with
  | expanded items =>
    have hwhole : (array (items.map write)).depth <
        (Children.toJson write (.expanded items)).depth :=
      depth_lt_of_mem_object (m := ("Expanded", .array (items.map write))) List.mem_cons_self
    exact Nat.lt_trans (depth_lt_of_mem_array (List.mem_map_of_mem h)) hwhole
  | counted number => exact absurd h List.not_mem_nil

end Children

theorem Block.depth_children_lt (b : Block) :
    (b.children.toJson Block.toJson).depth < b.toJson.depth := by
  rw [Block.toJson_eq]
  exact depth_lt_of_mem_object (m := ("children", b.children.toJson Block.toJson)) (by simp)

theorem Block.ofJsonWithin?_toJson {depth : Nat} {b : Block} (h : b.Fits)
    (hdepth : b.toJson.depth < depth) : Block.ofJsonWithin? depth b.toJson = some b := by
  induction depth generalizing b with
  | zero => exact absurd hdepth (Nat.not_lt_zero _)
  | succ depth ih =>
    obtain ⟨hid, hproperties, hpage, hparent, hleft, hcounted, hitems⟩ := h
    -- A child is nested less deeply than the block, so one level less is enough for it.
    have hchildren : Children.ofJson? (Block.ofJsonWithin? depth)
        (b.children.toJson Block.toJson) = some b.children := by
      refine Children.ofJson?_toJson hcounted fun child hchild => ih (hitems child hchild) ?_
      have hbelow := Nat.lt_trans (Children.depth_lt_of_mem hchild) (Block.depth_children_lt b)
      exact Nat.lt_of_lt_of_le hbelow (Nat.le_of_lt_succ hdepth)
    rw [Block.toJson_eq]
    obtain ⟨id, uuid, content, properties, page, parent, left, children⟩ := b
    have hid : int64? (.integer id) = some id := int64?_eq_some_iff.mpr ⟨rfl, hid⟩
    have hparent : optional int64? (some (ofOption .integer parent)) = some parent :=
      optional_ofOption fun n hn => int64?_eq_some_iff.mpr ⟨rfl, hparent n hn⟩
    have hleft : optional int64? (some (ofOption .integer left)) = some left :=
      optional_ofOption fun n hn => int64?_eq_some_iff.mpr ⟨rfl, hleft n hn⟩
    simp [Block.ofJsonWithin?, fields?, required, defaulted, text?, hid, hparent, hleft, hchildren,
      Properties.ofJson?_toJson hproperties, Page.ofJson?_toJson hpage]

theorem reads_blockWithin (depth : Nat) : ReadsOnly Block.Fits (Block.ofJsonWithin? depth) := by
  induction depth with
  | zero => exact nofun
  | succ depth ih =>
    intro j b h
    unfold Block.ofJsonWithin? at h
    split at h
    · obtain ⟨id, hid, h⟩ := Option.bind_eq_some_iff.mp h
      obtain ⟨uuid, -, h⟩ := Option.bind_eq_some_iff.mp h
      obtain ⟨content, -, h⟩ := Option.bind_eq_some_iff.mp h
      obtain ⟨properties, hproperties, h⟩ := Option.bind_eq_some_iff.mp h
      obtain ⟨page, hpage, h⟩ := Option.bind_eq_some_iff.mp h
      obtain ⟨parent, hparent, h⟩ := Option.bind_eq_some_iff.mp h
      obtain ⟨left, hleft, h⟩ := Option.bind_eq_some_iff.mp h
      obtain ⟨children, hchildren, h⟩ := Option.bind_eq_some_iff.mp h
      obtain rfl := Option.some.inj h
      have hnumber : ReadsOnly Fits64 int64? := fun _ _ hn => (int64?_eq_some_iff.mp hn).2
      have hbelow := (Children.reads ih).defaulted hchildren ⟨nofun, nofun⟩
      exact .mk (hnumber.required hid)
        (reads_properties.defaulted hproperties Dictionary.ordered_empty)
        (reads_page.required hpage) (hnumber.optional hparent) (hnumber.optional hleft)
        hbelow.1 hbelow.2
    · exact nomatch h

/-! ## Nodes -/

mutual

/-- A node without the blocks that it and the nodes below it were made from. -/
def Node.withoutOrigins : Node → Node
  | ⟨content, children, _, uuid, cursor⟩ =>
    ⟨content, Node.allWithoutOrigins children, none, uuid, cursor⟩

/-- Nodes without the blocks that they and the nodes below them were made from. -/
def Node.allWithoutOrigins : List Node → List Node
  | [] => []
  | n :: ns => n.withoutOrigins :: Node.allWithoutOrigins ns

end

theorem Node.allWithoutOrigins_eq_map (ns : List Node) :
    Node.allWithoutOrigins ns = ns.map Node.withoutOrigins := by
  induction ns with
  | nil => rfl
  | cons n ns ih => rw [Node.allWithoutOrigins, ih, List.map_cons]

theorem Node.withoutOrigins_eq (n : Node) : n.withoutOrigins =
    { content := n.content, children := n.children.map Node.withoutOrigins, uuid := n.uuid,
      cursor := n.cursor } := by
  obtain ⟨content, children, origin, uuid, cursor⟩ := n
  rw [Node.withoutOrigins, Node.allWithoutOrigins_eq_map]

theorem Node.get?_withoutOrigins (path : List Nat) (n : Node) :
    n.withoutOrigins.get? path = (n.get? path).map Node.withoutOrigins := by
  induction path generalizing n with
  | nil => rfl
  | cons i path ih =>
    rw [Node.get?, Node.get?, Node.withoutOrigins_eq, List.getElem?_map]
    cases n.children[i]? with
    | none => rfl
    | some child => exact ih child

/-- What the cursors of a node can be. -/
def Node.CursorFits (n : Node) : Prop := ∀ position ∈ n.cursor, FitsUnsigned64 position

/-- What the cursors of a node and of the nodes below it can be. -/
def Node.Fits (n : Node) : Prop := n.Everywhere Node.CursorFits

theorem Node.fits_of_withoutOrigins {n : Node} (h : n.withoutOrigins.Fits) : n.Fits := by
  intro path m hm
  have hcursor := h path m.withoutOrigins (by rw [Node.get?_withoutOrigins, hm]; rfl)
  rwa [Node.withoutOrigins_eq] at hcursor

theorem Node.toJsons_eq_map (ns : List Node) : Node.toJsons ns = ns.map Node.toJson := by
  induction ns with
  | nil => rfl
  | cons n ns ih => rw [Node.toJsons, ih, List.map_cons]

theorem Node.toJson_eq (n : Node) : n.toJson =
    .object ([("content", .text n.content)] ++
      memberUnless n.children.isEmpty "children" (.array (n.children.map Node.toJson)) ++
      memberUnless n.isPlain "data" (Node.dataJson n.uuid n.cursor)) := by
  obtain ⟨content, children, origin, uuid, cursor⟩ := n
  rw [Node.toJson, Node.toJsons_eq_map]
  rfl

theorem Node.depth_lt_of_mem {n child : Node} (h : child ∈ n.children) :
    child.toJson.depth < n.toJson.depth := by
  have hne : n.children.isEmpty = false :=
    List.isEmpty_eq_false_iff.mpr fun hnil => absurd (hnil ▸ h) List.not_mem_nil
  have hmem : ("children", Json.array (n.children.map Node.toJson)) ∈
      [("content", .text n.content)] ++
        memberUnless n.children.isEmpty "children" (.array (n.children.map Node.toJson)) ++
        memberUnless n.isPlain "data" (Node.dataJson n.uuid n.cursor) := by
    simp [memberUnless, hne]
  rw [Node.toJson_eq n]
  exact Nat.lt_trans (depth_lt_of_mem_array (List.mem_map_of_mem h)) (depth_lt_of_mem_object hmem)

/-- The field of a member that is left out when it has nothing to say. -/
def Json.fieldUnless (empty : Bool) (value : Json) : Option Json :=
  if empty then none else some value

/-- Such a member is found by its own key only. -/
theorem Json.member?_memberUnless {empty : Bool} {key k : String} {value : Json} :
    member? key (memberUnless empty k value) =
      if k = key then fieldUnless empty value else none := by
  cases empty <;> simp [memberUnless, fieldUnless]

section FieldUnless

variable {α : Type} {read : Json → Option α} {empty : Bool} {value : Json}

/-- What is left out is read as the default, so this must be what was left out. -/
theorem Json.defaulted_fieldUnless {d a : α} (hempty : empty = true → d = a)
    (hread : read value = some a) : defaulted d read (fieldUnless empty value) = some a := by
  cases empty with
  | true => exact congrArg some (hempty rfl)
  | false => exact hread

theorem Json.optional_fieldUnless {write : α → Json} {a? : Option α}
    (hnull : ∀ a ∈ a?, write a ≠ .null) (hread : ∀ a ∈ a?, read (write a) = some a) :
    Json.optional read (fieldUnless a?.isNone (ofOption write a?)) = some a? := by
  cases a? with
  | none => rfl
  | some a =>
    show Json.optional read (some (write a)) = _
    rw [optional_of_ne_null (hnull a rfl), hread a rfl]
    rfl

end FieldUnless

theorem Node.dataOfJson?_dataJson {n : Node} (h : n.CursorFits) :
    Node.dataOfJson? (Node.dataJson n.uuid n.cursor) = some (n.uuid, n.cursor) := by
  have huuid : Json.optional text? (fieldUnless n.uuid.isNone (ofOption .text n.uuid)) =
      some n.uuid := optional_fieldUnless (fun _ _ => nofun) fun _ _ => rfl
  have hlist : list? nat64? (.array (n.cursor.map fun n => .integer (n : Nat))) =
      some (n.cursor.map id) :=
    list?_write fun position hposition => nat64?_eq_some_iff.mpr ⟨rfl, h position hposition⟩
  rw [List.map_id] at hlist
  have hcursor : defaulted [] (list? nat64?) (fieldUnless n.cursor.isEmpty
      (.array (n.cursor.map fun n => .integer (n : Nat)))) = some n.cursor :=
    defaulted_fieldUnless (fun hempty => (List.isEmpty_iff.mp hempty).symm) hlist
  simp [Node.dataOfJson?, Node.dataJson, fields?, member?_memberUnless, huuid, hcursor]

theorem Node.ofJsonWithin?_toJson {depth : Nat} {n : Node} (h : n.Fits)
    (hdepth : n.toJson.depth < depth) :
    Node.ofJsonWithin? depth n.toJson = some n.withoutOrigins := by
  induction depth generalizing n with
  | zero => exact absurd hdepth (Nat.not_lt_zero _)
  | succ depth ih =>
    have hlist : list? (Node.ofJsonWithin? depth) (.array (n.children.map Node.toJson)) =
        some (n.children.map Node.withoutOrigins) := by
      refine list?_write fun child hchild => ih (h.children child hchild) ?_
      exact Nat.lt_of_lt_of_le (Node.depth_lt_of_mem hchild) (Nat.le_of_lt_succ hdepth)
    have hchildren : defaulted [] (list? (Node.ofJsonWithin? depth))
        (fieldUnless n.children.isEmpty (.array (n.children.map Node.toJson))) =
          some (n.children.map Node.withoutOrigins) :=
      defaulted_fieldUnless (fun hempty => by rw [List.isEmpty_iff.mp hempty]; rfl) hlist
    have hdata : defaulted (none, []) Node.dataOfJson?
        (fieldUnless n.isPlain (Node.dataJson n.uuid n.cursor)) = some (n.uuid, n.cursor) :=
      defaulted_fieldUnless (fun hplain => by
        obtain ⟨huuid, hcursor⟩ := Bool.and_eq_true_iff.mp hplain
        rw [Option.isNone_iff_eq_none.mp huuid, List.isEmpty_iff.mp hcursor])
        (Node.dataOfJson?_dataJson h.self)
    rw [Node.toJson_eq, Node.withoutOrigins_eq]
    simp [Node.ofJsonWithin?, fields?, member?_memberUnless, required, text?, hchildren, hdata]

/-- Cursors are read as numbers that fit. -/
theorem reads_data : ReadsOnly (fun data => ∀ position ∈ data.2, FitsUnsigned64 position)
    Node.dataOfJson? := by
  intro j data h
  unfold Node.dataOfJson? at h
  split at h
  · obtain ⟨uuid, -, h⟩ := Option.bind_eq_some_iff.mp h
    obtain ⟨cursor, hcursor, h⟩ := Option.bind_eq_some_iff.mp h
    obtain rfl := Option.some.inj h
    have hnumber : ReadsOnly FitsUnsigned64 nat64? := fun _ _ hn => (nat64?_eq_some_iff.mp hn).2
    exact hnumber.list?.defaulted hcursor nofun
  · exact nomatch h

theorem reads_nodeWithin (depth : Nat) : ReadsOnly Node.Fits (Node.ofJsonWithin? depth) := by
  induction depth with
  | zero => exact nofun
  | succ depth ih =>
    intro j n h
    unfold Node.ofJsonWithin? at h
    split at h
    · obtain ⟨content, -, h⟩ := Option.bind_eq_some_iff.mp h
      obtain ⟨children, hchildren, h⟩ := Option.bind_eq_some_iff.mp h
      obtain ⟨⟨uuid, cursor⟩, hdata, h⟩ := Option.bind_eq_some_iff.mp h
      obtain rfl := Option.some.inj h
      exact Node.everywhere_iff.mpr ⟨reads_data.defaulted hdata nofun,
        ih.list?.defaulted hchildren nofun⟩
    · exact nomatch h

/-! ## Empty parts -/

/-- A value without empty parts: nothing in it is null, an empty array or an object without
members. -/
inductive Json.Solid : Json → Prop where
  | boolean (value : Bool) : Json.Solid (.boolean value)
  | integer (value : Int) : Json.Solid (.integer value)
  | fraction (mantissa : Int) (places : Nat) : Json.Solid (.fraction mantissa places)
  | text (value : String) : Json.Solid (.text value)
  | array {items : List Json} (hne : items ≠ []) (h : ∀ j ∈ items, Json.Solid j) :
    Json.Solid (.array items)
  | object {members : List (String × Json)} (hne : members ≠ [])
    (h : ∀ m ∈ members, Json.Solid m.2) : Json.Solid (.object members)

theorem Json.mem_memberUnless {empty : Bool} {key : String} {value : Json} {m : String × Json}
    (h : m ∈ memberUnless empty key value) : empty = false ∧ m = (key, value) := by
  cases empty with
  | true => exact absurd h List.not_mem_nil
  | false => exact ⟨rfl, List.mem_singleton.mp h⟩

theorem Node.solid_dataJson {n : Node} (h : n.isPlain = false) :
    (Node.dataJson n.uuid n.cursor).Solid := by
  refine .object (fun hnil => ?_) fun m hm => ?_
  · obtain ⟨huuid, hcursor⟩ := List.append_eq_nil_iff.mp hnil
    have hplain : n.isPlain = true := by
      cases hu : n.uuid <;> cases hc : n.cursor <;> simp_all [memberUnless, Node.isPlain]
    exact Bool.false_ne_true (h.symm.trans hplain)
  · rcases List.mem_append.mp hm with hm | hm
    · obtain ⟨hempty, rfl⟩ := mem_memberUnless hm
      cases huuid : n.uuid with
      | none => rw [huuid] at hempty; exact nomatch hempty
      | some uuid => exact .text uuid
    · obtain ⟨hempty, rfl⟩ := mem_memberUnless hm
      refine .array (by simpa using hempty) fun j hj => ?_
      obtain ⟨position, -, rfl⟩ := List.mem_map.mp hj
      exact .integer position

/-- Nothing empty is written of a node, nor of the nodes below it. -/
theorem Node.solid_toJson {depth : Nat} {n : Node} (hdepth : n.toJson.depth < depth) :
    n.toJson.Solid := by
  induction depth generalizing n with
  | zero => exact absurd hdepth (Nat.not_lt_zero _)
  | succ depth ih =>
    have hitems : ∀ j ∈ n.children.map Node.toJson, j.Solid := by
      intro j hj
      obtain ⟨child, hchild, rfl⟩ := List.mem_map.mp hj
      exact ih (Nat.lt_of_lt_of_le (Node.depth_lt_of_mem hchild) (Nat.le_of_lt_succ hdepth))
    rw [Node.toJson_eq]
    refine .object (by simp) fun m hm => ?_
    rcases List.mem_append.mp hm with hm | hm
    · rcases List.mem_append.mp hm with hm | hm
      · rw [List.mem_singleton.mp hm]
        exact .text n.content
      · obtain ⟨hempty, rfl⟩ := mem_memberUnless hm
        exact .array (by simpa using hempty) hitems
    · obtain ⟨hempty, rfl⟩ := mem_memberUnless hm
      exact Node.solid_dataJson hempty

/-! ## Serialized forms -/

/-- **Serialized forms lose nothing.** The form of a node has no empty part, and a node is read back
from it except for its origins, at any depth. Pages and blocks are read back as they were, whether
the children of blocks are all there or only counted. The numbers have to fit their bits and
properties to be in order: this is so of everything that is ever read. -/
theorem serialized_forms :
    (∀ n : Node, n.toJson.Solid ∧ (Node.ofJson? n.toJson = some n.withoutOrigins ↔ n.Fits)) ∧
    (∀ p : Page, Page.ofJson? p.toJson = some p ↔ p.Fits) ∧
    (∀ b : Block, Block.ofJson? b.toJson = some b ↔ b.Fits) := by
  refine ⟨fun n => ⟨Node.solid_toJson (Nat.lt_succ_self _), fun h => ?_, fun h => ?_⟩,
    fun p => ⟨fun h => reads_page _ _ h, Page.ofJson?_toJson⟩,
    fun b => ⟨fun h => reads_blockWithin _ _ _ h,
      fun h => Block.ofJsonWithin?_toJson h (Nat.lt_succ_self _)⟩⟩
  · exact Node.fits_of_withoutOrigins (reads_nodeWithin _ _ _ h)
  · exact Node.ofJsonWithin?_toJson h (Nat.lt_succ_self _)

/-- A node that was made from a block and has a child that was made from another one. -/
example : (⟨"a", [⟨"b", [], some "block", none, []⟩], some "root", some "u-1", []⟩ : Node).toJson =
    .object [("content", .text "a"), ("children", .array [.object [("content", .text "b")]]),
      ("data", .object [("uuid", .text "u-1")])] := rfl

end Stencil
