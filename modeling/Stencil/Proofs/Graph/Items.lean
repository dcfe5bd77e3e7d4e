import Stencil.Graph.Draft
import Stencil.Proofs.Result

/-!
# Where the contents of items come from

The items of a document are read off its events. Whatever is nested in whatever, the content of
every item is that of a part of the source which begins where an item starts.

* `DraftItem.flatten`: items with all items below them.
* `Draft.Traced`: the items that a walk has read or begun come from some events. Steps of the walk
  keep this (`Traced.step`), and so does the whole walk (`content_of_mem_flatten`).
-/

namespace Stencil.Graph

open Markup (Event)

mutual

/-- An item and all items below it, parents first. -/
def DraftItem.withDescendants : DraftItem → List DraftItem
  | ⟨content, children⟩ => ⟨content, children⟩ :: DraftItem.flatten children

/-- All items of a forest, parents first. -/
def DraftItem.flatten : List DraftItem → List DraftItem
  | [] => []
  | item :: items => item.withDescendants ++ DraftItem.flatten items

end

theorem DraftItem.mem_flatten_iff {item : DraftItem} {items : List DraftItem} :
    item ∈ flatten items ↔ ∃ top ∈ items, item ∈ top.withDescendants := by
  induction items with
  | nil => simp [flatten]
  | cons top items ih => simp [flatten, ih]

/-- Whether a text is the content of a part of the source that begins where an item starts at some
event and does not go beyond its end. -/
def IsItemContent (source : List Char) (events : List Event) (content : List Char) : Prop :=
  ∃ span stop, .itemStart span ∈ events ∧ stop ≤ span.stop ∧
    content = bulletContent (Text.slice source span.start stop)

namespace Draft

variable {source : List Char} {events : List Event} {d d' : Draft} {e : Event} {item : DraftItem}

/-- Whether all items of a forest have contents from the source. -/
def AreTraced (source : List Char) (events : List Event) (items : List DraftItem) : Prop :=
  ∀ item ∈ DraftItem.flatten items, IsItemContent source events item.content

/-- Whether what a walk has read comes from the source and some events. -/
structure Traced (source : List Char) (events : List Event) (d : Draft) : Prop where
  pages : ∀ page ∈ d.pages, AreTraced source events page.items
  /-- The items below those that have not ended. -/
  done : ∀ item ∈ d.spine, AreTraced source events item.done
  /-- The items that have not ended themselves. -/
  spine : ∀ item ∈ d.spine, ∃ span, .itemStart span ∈ events ∧ item.start = span.start ∧
    item.stop ≤ span.stop

theorem areTraced_cons (hitem : IsItemContent source events item.content)
    (hbelow : AreTraced source events item.children) {items : List DraftItem}
    (hitems : AreTraced source events items) : AreTraced source events (item :: items) := by
  intro below hmem
  obtain ⟨content, children⟩ := item
  rw [DraftItem.flatten, DraftItem.withDescendants, List.cons_append] at hmem
  rcases List.mem_cons.mp hmem with rfl | hmem
  · exact hitem
  · rcases List.mem_append.mp hmem with hmem | hmem
    · exact hbelow below hmem
    · exact hitems below hmem

theorem AreTraced.reverse {items : List DraftItem} (h : AreTraced source events items) :
    AreTraced source events items.reverse := by
  intro item hitem
  obtain ⟨top, htop, hitem⟩ := DraftItem.mem_flatten_iff.mp hitem
  exact h item (DraftItem.mem_flatten_iff.mpr ⟨top, List.mem_reverse.mp htop, hitem⟩)

theorem Traced.addItem (h : d.Traced source events)
    (hitem : IsItemContent source events item.content)
    (hbelow : AreTraced source events item.children) : (d.addItem item).Traced source events := by
  obtain ⟨pages, spine, title⟩ := d
  obtain ⟨hpages, hdone, hspine⟩ := h
  unfold Draft.addItem
  cases spine with
  | cons outer rest =>
    obtain ⟨houter, hdone⟩ := List.forall_mem_cons.mp hdone
    obtain ⟨hstart, hspine⟩ := List.forall_mem_cons.mp hspine
    exact ⟨hpages, List.forall_mem_cons.mpr ⟨areTraced_cons hitem hbelow houter, hdone⟩,
      List.forall_mem_cons.mpr ⟨hstart, hspine⟩⟩
  | nil =>
    cases pages with
    | nil => exact ⟨hpages, hdone, hspine⟩
    | cons page pages =>
      obtain ⟨hpage, hpages⟩ := List.forall_mem_cons.mp hpages
      exact ⟨List.forall_mem_cons.mpr ⟨areTraced_cons hitem hbelow hpage, hpages⟩, hdone, hspine⟩

theorem items_addProperties (page : DraftPage) (text : List Char) :
    (addProperties page text).items = page.items := by
  unfold addProperties
  split <;> rfl

theorem Traced.addPage (h : d.Traced source events) (title : List Char) :
    (d.addPage title).Traced source events :=
  ⟨List.forall_mem_cons.mpr ⟨nofun, h.pages⟩, h.done, h.spine⟩

/-- **Steps of the walk only add items from the source.** -/
theorem Traced.step (h : d.Traced source events) (he : e ∈ events)
    (hstep : step source d e = .ok d') : d'.Traced source events := by
  obtain ⟨pages, spine, title⟩ := d
  unfold Draft.step at hstep
  cases title with
  | some title =>
    cases e with
    | headingEnd =>
      cases hstep
      exact h.addPage title
    | headingStart _ | text _ | lineBreak | paragraph _ | listStart _ | itemStart _ | itemEnd =>
      cases hstep
      exact ⟨h.pages, h.done, h.spine⟩
  | none =>
    cases e with
    | headingStart level =>
      cases hstep
      split
      · exact ⟨h.pages, h.done, h.spine⟩
      · exact h
    | paragraph span =>
      dsimp only at hstep
      split at hstep
      · cases pages with
        | nil => exact nomatch hstep
        | cons page pages =>
          cases hstep
          obtain ⟨hpage, hpages⟩ := List.forall_mem_cons.mp h.pages
          rw [← items_addProperties] at hpage
          exact ⟨List.forall_mem_cons.mpr ⟨hpage, hpages⟩, h.done, h.spine⟩
      · cases hstep
        exact h
    | itemStart span =>
      dsimp only at hstep
      split at hstep
      · exact nomatch hstep
      · cases hstep
        exact ⟨h.pages, List.forall_mem_cons.mpr ⟨nofun, h.done⟩,
          List.forall_mem_cons.mpr ⟨⟨span, he, rfl, Nat.le_refl _⟩, h.spine⟩⟩
    | listStart offset =>
      cases spine with
      | nil =>
        cases hstep
        exact h
      | cons item outer =>
        cases hstep
        obtain ⟨hdone, hdones⟩ := List.forall_mem_cons.mp h.done
        obtain ⟨⟨span, hspan, hstart, hstop⟩, hspine⟩ := List.forall_mem_cons.mp h.spine
        exact ⟨h.pages, List.forall_mem_cons.mpr ⟨hdone, hdones⟩, List.forall_mem_cons.mpr
          ⟨⟨span, hspan, hstart, Nat.le_trans (Nat.min_le_left _ _) hstop⟩, hspine⟩⟩
    | itemEnd =>
      cases spine with
      | nil =>
        cases hstep
        exact h
      | cons item outer =>
        cases hstep
        obtain ⟨hdone, hdones⟩ := List.forall_mem_cons.mp h.done
        obtain ⟨⟨span, hspan, hstart, hstop⟩, hspine⟩ := List.forall_mem_cons.mp h.spine
        have houter : Traced source events ⟨pages, outer, none⟩ := ⟨h.pages, hdones, hspine⟩
        exact houter.addItem ⟨span, item.stop, hspan, hstop, by rw [hstart]⟩ hdone.reverse
    | text _ | lineBreak | headingEnd =>
      cases hstep
      exact h

theorem Traced.run {es : List Event} (h : d.Traced source events) (hes : ∀ e ∈ es, e ∈ events)
    (hrun : es.foldlM (Draft.step source) d = .ok d') : d'.Traced source events := by
  induction es generalizing d with
  | nil =>
    cases hrun
    exact h
  | cons e es ih =>
    obtain ⟨he, hes⟩ := List.forall_mem_cons.mp hes
    rw [List.foldlM_cons] at hrun
    obtain ⟨d₁, hstep, hrun⟩ := bind_eq_ok_iff.mp hrun
    exact ih (h.step he hstep) hes hrun

end Draft

/-- **Every item of a document has the content of a part of its source.** -/
theorem content_of_mem_flatten {source : List Char} {events : List Event} {pages : List DraftPage}
    (h : DraftPage.ofEvents source events = .ok pages) {page : DraftPage} (hpage : page ∈ pages)
    {item : DraftItem} (hitem : item ∈ DraftItem.flatten page.items) :
    IsItemContent source events item.content := by
  obtain ⟨d, hd, h⟩ := bind_eq_ok_iff.mp h
  have hstart : Draft.Traced source events {} := ⟨nofun, nofun, nofun⟩
  have htraced := hstart.run (fun _ he => he) hd
  have hclosed : ∀ d : Draft, d.Traced source events →
      ∀ page ∈ d.pages.reverse.map DraftPage.inOrder, Draft.AreTraced source events page.items := by
    intro d hd page hpage
    obtain ⟨raw, hraw, rfl⟩ := List.mem_map.mp hpage
    exact (hd.pages raw (List.mem_reverse.mp hraw)).reverse
  rw [← Except.ok.inj h] at hpage
  split at hpage
  · next title _ => exact hclosed _ (htraced.addPage title) page hpage item hitem
  · exact hclosed d htraced page hpage item hitem

end Stencil.Graph
