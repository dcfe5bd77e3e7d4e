import Stencil.Graph.Document
import Stencil.Proofs.Result

/-!
# Pages and blocks in the order of the events

The events of a document say where pages and blocks start and where blocks end. What is read off
them and numbered says the same in the same order.

* `Nested`: items and headings are properly nested, and no heading contains an item. It is all that
  graphs ask of the events of a `MarkupReader` (`LawfulMarkupReader`), and holds of the one of this
  library (`nested_events`).
* `Landmark.ofEvents` reads the landmarks of a document directly off its events.
* `Draft.outline`: the landmarks of a walk that has come to some events. Steps of the walk leave
  them the same (`step_outline`), and so does the whole walk (`ofEvents_landmarks`).
* `numberPages_landmarks`: numbering gives the starts the numbers that follow each other.
-/

namespace Stencil.Graph

open Markup (Event)

/-! ## Nesting -/

/-- What can be open at an event. -/
inductive Mark where
  | heading
  | item
  deriving DecidableEq

/-- What is open after an event, innermost first; none if the event does not fit there. -/
def marksAfter? (marks : List Mark) : Event → Option (List Mark)
  | .headingStart _ => some (.heading :: marks)
  | .headingEnd =>
    match marks with
    | .heading :: outer => some outer
    | _ => none
  | .itemStart _ => if marks.head? = some .heading then none else some (.item :: marks)
  | .itemEnd =>
    match marks with
    | .item :: outer => some outer
    | _ => none
  | .text _ | .lineBreak | .paragraph _ | .listStart _ => some marks

/-- Whether items and headings are properly nested and no heading contains an item. -/
def Nested (events : List Event) : Prop := events.foldlM marksAfter? [] = some []

instance (events : List Event) : Decidable (Nested events) := inferInstanceAs (Decidable (_ = _))

section Elements

variable (labels : List (List Char)) {marks : List Mark}

theorem marksAfter?_runs (runs : List Markup.Run) :
    (runs.map Event.ofRun).foldlM marksAfter? marks = some marks := by
  induction runs with
  | nil => rfl
  | cons run runs ih =>
    cases run with
    | text _ | lineBreak => exact ih

mutual

/-- The walk over an element opens and closes in pairs, and its headings contain no items. -/
theorem marksAfter?_events : ∀ (e : Markup.Element) {marks : List Mark},
    marks.head? ≠ some .heading → (e.events labels).foldlM marksAfter? marks = some marks
  | .heading level text, marks, _ => by
    rw [Markup.Element.events, List.cons_append, List.foldlM_cons]
    show (_ ++ _ : List Event).foldlM marksAfter? (.heading :: marks) = _
    rw [List.foldlM_append, marksAfter?_runs]
    rfl
  | .paragraph _, _, _ => rfl
  | .quote body, _, h => marksAfter?_allEvents body h
  | .list _ body, _, h => marksAfter?_allEvents body h
  | .item span body, marks, h => by
    have hbody : (Markup.Element.allEvents labels body).foldlM marksAfter? (.item :: marks) = _ :=
      marksAfter?_allEvents body fun h => nomatch h
    rw [Markup.Element.events, List.cons_append, List.foldlM_cons, marksAfter?, if_neg h]
    show (_ ++ _ : List Event).foldlM marksAfter? (.item :: marks) = _
    rw [List.foldlM_append, hbody]
    rfl

theorem marksAfter?_allEvents : ∀ (es : List Markup.Element) {marks : List Mark},
    marks.head? ≠ some .heading →
      (Markup.Element.allEvents labels es).foldlM marksAfter? marks = some marks
  | [], _, _ => rfl
  | e :: es, marks, h => by
    rw [Markup.Element.allEvents, List.foldlM_append, marksAfter?_events e h]
    exact marksAfter?_allEvents es h

end

/-- The events of a document are properly nested. -/
theorem nested_events (d : Markup.Document) : Nested d.events :=
  marksAfter?_allEvents d.labels d.elements nofun

end Elements

/-- A reader whose events are properly nested. -/
class LawfulMarkupReader [MarkupReader] : Prop where
  nested (source : List Char) : Nested (MarkupReader.events source)

instance : LawfulMarkupReader where
  nested source := nested_events (Markup.Document.ofSource source)

/-! ## Landmarks -/

/-- Where a page or a block starts, or a block ends. -/
inductive Landmark (α : Type) where
  | page (id : α) (name : String)
  | enter (id : α)
  | leave (content : String)
  deriving DecidableEq

namespace Landmark

/-- The text of the heading that is open at some events: all up to the next end of a heading. -/
def titleOf : List Event → List Char
  | .text value :: es => value ++ titleOf es
  | .lineBreak :: es => ' ' :: titleOf es
  | .headingEnd :: _ | [] => []
  | .headingStart _ :: es | .paragraph _ :: es | .listStart _ :: es | .itemStart _ :: es
  | .itemEnd :: es => titleOf es

/-- The landmarks of some events, given whether they begin in the heading of a page and the sources
of the open items, innermost first. Top headings start pages where no item is open, items start
blocks; the content of a block goes up to its first list. -/
def ofEvents (source : List Char) : Bool → List Span → List Event → List (Landmark Unit)
  | _, _, [] => []
  | true, spans, .headingEnd :: es => ofEvents source false spans es
  | true, spans, _ :: es => ofEvents source true spans es
  | false, spans, .headingStart level :: es =>
    if level = 1 && spans.isEmpty then
      .page () (Draft.pageName (titleOf es)) :: ofEvents source true spans es
    else ofEvents source false spans es
  | false, spans, .itemStart span :: es => .enter () :: ofEvents source false (span :: spans) es
  | false, span :: spans, .listStart offset :: es =>
    ofEvents source false (⟨span.start, min span.stop offset⟩ :: spans) es
  | false, span :: spans, .itemEnd :: es =>
    .leave (contentOf (bulletContent (Text.slice source span.start span.stop))) ::
      ofEvents source false spans es
  | false, spans, _ :: es => ofEvents source false spans es

/-- Gives the starts numbers from `next` on. -/
def number (next : Int) : List (Landmark Unit) → List (Landmark Int)
  | [] => []
  | .page _ name :: ls => .page next name :: number (next + 1) ls
  | .enter _ :: ls => .enter next :: number (next + 1) ls
  | .leave content :: ls => .leave content :: number next ls

/-- How many starts there are. -/
def starts : List (Landmark Unit) → Nat
  | [] => 0
  | .page _ _ :: ls | .enter _ :: ls => starts ls + 1
  | .leave _ :: ls => starts ls

theorem starts_append (ls ls' : List (Landmark Unit)) :
    starts (ls ++ ls') = starts ls + starts ls' := by
  induction ls with
  | nil => rw [List.nil_append, starts, Nat.zero_add]
  | cons l ls ih => cases l <;> simp only [List.cons_append, starts, ih] <;> omega

theorem number_append (next : Int) (ls ls' : List (Landmark Unit)) :
    number next (ls ++ ls') = number next ls ++ number (next + starts ls) ls' := by
  induction ls generalizing next with
  | nil => rw [List.nil_append, number, List.nil_append, starts, Int.natCast_zero, Int.add_zero]
  | cons l ls ih =>
    cases l with
    | page _ name | enter _ =>
      rw [List.cons_append, number, number, ih, List.cons_append, starts, Int.natCast_add,
        Int.natCast_one, Int.add_assoc, Int.add_comm 1]
    | leave content => rw [List.cons_append, number, number, ih, List.cons_append, starts]

end Landmark

/-! ## The walk through the events -/

open Landmark

mutual

/-- The landmarks of an item. -/
def DraftItem.landmarks : DraftItem → List (Landmark Unit)
  | ⟨content, children⟩ =>
    .enter () :: DraftItem.landmarksAll children ++ [.leave (contentOf content)]

/-- The landmarks of items in order. -/
def DraftItem.landmarksAll : List DraftItem → List (Landmark Unit)
  | [] => []
  | item :: items => item.landmarks ++ DraftItem.landmarksAll items

end

theorem DraftItem.landmarksAll_append (items items' : List DraftItem) :
    landmarksAll (items ++ items') = landmarksAll items ++ landmarksAll items' := by
  induction items with
  | nil => rfl
  | cons item items ih =>
    rw [List.cons_append, landmarksAll, landmarksAll, ih, List.append_assoc]

/-- The landmarks of a page and its items. -/
def DraftPage.landmarks (page : DraftPage) : List (Landmark Unit) :=
  .page () page.name :: DraftItem.landmarksAll page.items

/-- The landmarks of an item that has not ended, as far as it has been read. -/
def OpenItem.landmarks (item : OpenItem) : List (Landmark Unit) :=
  .enter () :: DraftItem.landmarksAll item.done.reverse

namespace Draft

variable {source : List Char} {d d' : Draft} {e : Event} {es : List Event} {marks : List Mark}

/-- The landmarks that a walk has read. -/
def landmarks (d : Draft) : List (Landmark Unit) :=
  d.pages.reverse.flatMap (fun page => page.inOrder.landmarks) ++
    d.spine.reverse.flatMap OpenItem.landmarks

/-- The page with the heading that is open at some events. -/
def pending (d : Draft) (events : List Event) : List (Landmark Unit) :=
  match d.title with
  | some title => [.page () (pageName (title ++ titleOf events))]
  | none => []

/-- The sources of the open items. -/
def spans (d : Draft) : List Span := d.spine.map fun item => ⟨item.start, item.stop⟩

/-- The landmarks of a walk that has come to some events. -/
def outline (source : List Char) (d : Draft) (events : List Event) : List (Landmark Unit) :=
  d.landmarks ++ d.pending events ++ ofEvents source d.title.isSome d.spans events

/-- How a walk fits what is open at an event. -/
inductive Fits (d : Draft) : List Mark → Prop where
  /-- In the heading of a page, which is outside of items. -/
  | heading {title : List Char} {outer : List Mark} :
    d.title = some title → d.spine = [] → outer.count .item = 0 → Fits d (.heading :: outer)
  /-- Elsewhere; items are on pages. -/
  | outside {marks : List Mark} :
    d.title = none → d.spine.length = marks.count .item → (d.spine ≠ [] → d.pages ≠ []) →
      Fits d marks

theorem landmarks_addPage {title : List Char} (h : d.spine = []) :
    (d.addPage title).landmarks = d.landmarks ++ [.page () (pageName title)] := by
  simp only [addPage, landmarks, h, List.reverse_nil, List.flatMap_nil, List.append_nil,
    List.reverse_cons, List.flatMap_append, List.flatMap_cons]
  rfl

theorem landmarks_addProperties (page : DraftPage) (text : List Char) :
    (addProperties page text).inOrder.landmarks = page.inOrder.landmarks := by
  rw [addProperties]
  split <;> rfl

/-- An item that has ended comes after all that has been read. -/
theorem landmarks_addItem {item : DraftItem} (h : d.pages ≠ []) :
    (d.addItem item).landmarks = d.landmarks ++ item.landmarks := by
  unfold addItem landmarks
  cases hspine : d.spine with
  | cons outer rest =>
    simp only [List.reverse_cons, List.flatMap_append, List.flatMap_cons, List.flatMap_nil,
      List.append_nil, OpenItem.landmarks, DraftItem.landmarksAll_append, DraftItem.landmarksAll,
      List.append_assoc, List.cons_append]
  | nil =>
    cases hpages : d.pages with
    | nil => exact absurd hpages h
    | cons page pages =>
      simp only [List.reverse_cons, List.flatMap_append, List.flatMap_cons, List.flatMap_nil,
        List.append_nil, DraftPage.inOrder, DraftPage.landmarks, DraftItem.landmarksAll_append,
        DraftItem.landmarksAll, List.append_assoc, List.cons_append, List.reverse_nil]

/-- An item that has ended changes nothing but what is below the innermost open item or on the last
page. -/
theorem addItem_frame (d : Draft) (item : DraftItem) :
    (d.addItem item).title = d.title ∧ (d.addItem item).spine.length = d.spine.length ∧
      (d.addItem item).spans = d.spans ∧ (d.pages ≠ [] → (d.addItem item).pages ≠ []) := by
  unfold addItem
  cases hspine : d.spine with
  | cons outer rest =>
    refine ⟨rfl, rfl, ?_, id⟩
    rw [spans, spans, hspine]
    rfl
  | nil =>
    cases hpages : d.pages with
    | nil => exact ⟨rfl, congrArg List.length hspine, rfl, fun h => absurd rfl h⟩
    | cons page pages =>
      refine ⟨rfl, rfl, ?_, fun _ => List.cons_ne_nil _ _⟩
      rw [spans, spans, hspine]

theorem outline_of_title {title : List Char} (h : d.title = some title) (es : List Event) :
    d.outline source es = d.landmarks ++ .page () (pageName (title ++ titleOf es)) ::
      ofEvents source true d.spans es := by
  rw [outline, pending, h, List.append_assoc]
  rfl

theorem outline_of_no_title (h : d.title = none) (es : List Event) :
    d.outline source es = d.landmarks ++ ofEvents source false d.spans es := by
  rw [outline, pending, h, List.append_nil]
  rfl

/-- A step in the heading of a page. -/
theorem step_heading {title : List Char} {outer : List Mark} (htitle : d.title = some title)
    (hspine : d.spine = []) (houter : outer.count .item = 0)
    (hmarks : marksAfter? (.heading :: outer) e = some marks) (h : step source d e = .ok d') :
    Fits d' marks ∧ d'.outline source es = d.outline source (e :: es) := by
  rw [outline_of_title htitle]
  unfold step at h
  rw [htitle] at h
  cases e with
  | text value =>
    cases h
    cases hmarks
    refine ⟨.heading rfl hspine houter, ?_⟩
    rw [outline_of_title rfl, titleOf, List.append_assoc]
    rfl
  | lineBreak =>
    cases h
    cases hmarks
    refine ⟨.heading rfl hspine houter, ?_⟩
    rw [outline_of_title rfl, titleOf, List.append_assoc]
    rfl
  | headingEnd =>
    cases h
    cases hmarks
    have hlength : (d.addPage title).spine.length = 0 := congrArg List.length hspine
    refine ⟨.outside rfl (hlength.trans houter.symm) fun _ => List.cons_ne_nil _ _, ?_⟩
    rw [outline_of_no_title rfl, landmarks_addPage hspine, titleOf, List.append_nil,
      List.append_assoc]
    rfl
  | headingStart _ =>
    cases h
    cases hmarks
    exact ⟨.heading htitle hspine houter, outline_of_title htitle es⟩
  | paragraph _ | listStart _ =>
    cases h
    cases hmarks
    exact ⟨.heading htitle hspine houter, outline_of_title htitle es⟩
  | itemStart _ | itemEnd => exact nomatch hmarks

/-- The end of the innermost open item is where all that has been read of it ends. -/
theorem outline_itemEnd {pages : List DraftPage} {item : OpenItem} {rest : List OpenItem}
    (h : pages ≠ []) :
    outline source ((⟨pages, rest, none⟩ : Draft).addItem
        ⟨bulletContent (Text.slice source item.start item.stop), item.done.reverse⟩) es =
      outline source ⟨pages, item :: rest, none⟩ (.itemEnd :: es) := by
  obtain ⟨hnone, -, hspans, -⟩ := addItem_frame ⟨pages, rest, none⟩
    ⟨bulletContent (Text.slice source item.start item.stop), item.done.reverse⟩
  rw [outline_of_no_title hnone, outline_of_no_title rfl, hspans, landmarks_addItem h,
    DraftItem.landmarks]
  simp only [landmarks, List.reverse_cons, List.flatMap_append, List.flatMap_cons,
    List.flatMap_nil, List.append_nil, List.append_assoc, OpenItem.landmarks, List.cons_append]
  rfl

/-- A step outside of the headings of pages. -/
theorem step_outside (htitle : d.title = none) (hitems : d.spine.length = marks.count .item)
    (hpaged : d.spine ≠ [] → d.pages ≠ []) {marks' : List Mark}
    (hmarks : marksAfter? marks e = some marks') (h : step source d e = .ok d') :
    Fits d' marks' ∧ d'.outline source es = d.outline source (e :: es) := by
  obtain ⟨pages, spine, title⟩ := d
  cases htitle
  unfold step at h
  dsimp only at hitems hpaged h
  have houtline : outline source ⟨pages, spine, none⟩ (e :: es) = _ := outline_of_no_title rfl _
  rw [houtline]
  cases e with
  | text _ | lineBreak =>
    cases h
    cases hmarks
    exact ⟨.outside rfl hitems hpaged, outline_of_no_title rfl es⟩
  | headingStart level =>
    cases h
    cases hmarks
    have hspans : (spans ⟨pages, spine, none⟩).isEmpty = spine.isEmpty := List.isEmpty_map
    rw [ofEvents, hspans]
    split
    · next hpage =>
      have hspine : spine = [] := List.isEmpty_iff.mp (Bool.and_eq_true_iff.mp hpage).2
      rw [hspine] at hitems
      exact ⟨.heading rfl hspine hitems.symm, @outline_of_title source _ [] rfl es⟩
    · refine ⟨.outside rfl ?_ hpaged, outline_of_no_title rfl es⟩
      rw [List.count_cons_of_ne (by decide), hitems]
  | headingEnd =>
    cases h
    refine ⟨.outside rfl ?_ hpaged, outline_of_no_title rfl es⟩
    cases marks with
    | nil => exact nomatch hmarks
    | cons mark outer =>
      cases mark with
      | item => exact nomatch hmarks
      | heading => rw [← Option.some.inj hmarks, hitems, List.count_cons_of_ne (by decide)]
  | paragraph span =>
    cases hmarks
    dsimp only at h
    split at h
    · cases pages with
      | nil => exact nomatch h
      | cons page pages =>
        cases h
        refine ⟨.outside rfl hitems fun _ => List.cons_ne_nil _ _, ?_⟩
        rw [outline_of_no_title rfl]
        refine congrArg (· ++ _) ?_
        simp only [landmarks, List.reverse_cons, List.flatMap_append, List.flatMap_cons,
          List.flatMap_nil, landmarks_addProperties]
    · cases h
      exact ⟨.outside rfl hitems hpaged, outline_of_no_title rfl es⟩
  | listStart offset =>
    cases hmarks
    cases spine with
    | nil =>
      cases h
      exact ⟨.outside rfl hitems hpaged, outline_of_no_title rfl es⟩
    | cons item outer =>
      cases h
      refine ⟨.outside rfl hitems fun _ => hpaged (List.cons_ne_nil _ _), ?_⟩
      rw [outline_of_no_title rfl, landmarks, landmarks, spans, spans]
      simp only [List.reverse_cons, List.flatMap_append, List.flatMap_cons, List.map_cons, ofEvents]
      rfl
  | itemStart span =>
    dsimp only at h
    split at h
    · exact nomatch h
    · next hpages =>
      cases h
      rw [marksAfter?] at hmarks
      split at hmarks
      · exact nomatch hmarks
      · cases hmarks
        refine ⟨.outside rfl ?_ fun _ hnil => hpages (List.isEmpty_iff.mpr hnil), ?_⟩
        · rw [List.length_cons, List.count_cons_self, hitems]
        · rw [outline_of_no_title rfl, ofEvents, landmarks, landmarks, spans, spans]
          simp only [List.reverse_cons, List.flatMap_append, List.flatMap_cons, List.flatMap_nil,
            List.append_nil, List.append_assoc, List.map_cons, OpenItem.landmarks]
          rfl
  | itemEnd =>
    cases marks with
    | nil => exact nomatch hmarks
    | cons mark outer =>
      cases mark with
      | heading => exact nomatch hmarks
      | item =>
        cases hmarks
        rw [List.count_cons_self] at hitems
        cases spine with
        | nil => exact nomatch hitems
        | cons item rest =>
          cases h
          have hpages : pages ≠ [] := hpaged (List.cons_ne_nil _ _)
          obtain ⟨hnone, hlength, -, hpages'⟩ := addItem_frame ⟨pages, rest, none⟩
            ⟨bulletContent (Text.slice source item.start item.stop), item.done.reverse⟩
          refine ⟨.outside hnone (hlength.trans (Nat.succ.inj hitems)) fun _ => hpages' hpages, ?_⟩
          exact (outline_itemEnd hpages).trans (outline_of_no_title rfl _)

/-- **Steps of the walk leave the landmarks of the document the same.** -/
theorem step_outline (hfits : Fits d marks) {marks' : List Mark}
    (hmarks : marksAfter? marks e = some marks') (h : step source d e = .ok d') :
    Fits d' marks' ∧ d'.outline source es = d.outline source (e :: es) := by
  cases hfits with
  | heading htitle hspine houter => exact step_heading htitle hspine houter hmarks h
  | outside htitle hitems hpaged => exact step_outside htitle hitems hpaged hmarks h

theorem run_outline {marks' : List Mark} (hfits : Fits d marks)
    (hmarks : es.foldlM marksAfter? marks = some marks')
    (h : es.foldlM (step source) d = .ok d') :
    Fits d' marks' ∧ d'.outline source [] = d.outline source es := by
  induction es generalizing d marks with
  | nil =>
    cases hmarks
    cases h
    exact ⟨hfits, rfl⟩
  | cons e es ih =>
    rw [List.foldlM_cons] at hmarks h
    obtain ⟨marks₁, hmarks₁, hmarks⟩ := Option.bind_eq_some_iff.mp hmarks
    obtain ⟨d₁, hd₁, h⟩ := bind_eq_ok_iff.mp h
    obtain ⟨hfits₁, hstep⟩ := step_outline hfits hmarks₁ hd₁
    obtain ⟨hfits', hrun⟩ := ih hfits₁ hmarks h
    exact ⟨hfits', hrun.trans hstep⟩

end Draft

/-- **The pages of a document have the landmarks that its events say.** -/
theorem ofEvents_landmarks {source : List Char} {events : List Event} {pages : List DraftPage}
    (hnested : Nested events) (h : DraftPage.ofEvents source events = .ok pages) :
    pages.flatMap DraftPage.landmarks = Landmark.ofEvents source false [] events := by
  obtain ⟨d, hd, h⟩ := bind_eq_ok_iff.mp h
  have hstart : Draft.Fits {} [] := .outside rfl rfl fun hspine => absurd rfl hspine
  obtain ⟨hfits, hrun⟩ := Draft.run_outline hstart hnested hd
  cases hfits with
  | outside htitle hitems =>
    have hspine : d.spine = [] := List.eq_nil_of_length_eq_zero hitems
    rw [Draft.outline_of_no_title htitle, Landmark.ofEvents, List.append_nil, Draft.landmarks,
      hspine, List.reverse_nil, List.flatMap_nil, List.append_nil] at hrun
    rw [htitle] at h
    rw [← Except.ok.inj h, List.flatMap_map]
    exact hrun

end Stencil.Graph
