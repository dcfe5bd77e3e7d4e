import Stencil.Proofs.Text.Search
import Stencil.Proofs.Text.Trim
import Stencil.Render.Cursor

/-!
# Nodes as they are inserted

What `Node.finish` makes of the text of a node and of its cursor marks.

* `takeCursor_of_mark` and `takeCursor_of_unmarked`: a mark leaves the text and its place is kept.
* `trimmedOffset` is where an offset comes to stand when the text around it is trimmed;
  `finish_of_takeCursors` says that offsets of marks come to stand there.
* `IsFinished` is what holds of a node that may be inserted; `everywhere_finish` says that finishing
  achieves it everywhere in a tree whose nodes have no cursors yet.
-/

namespace Stencil

/-- Whether a text holds neither character of a cursor mark. -/
def IsUnmarked (cs : List Char) : Prop := ∀ c ∈ cs, c ∉ cursorMark

instance (cs : List Char) : Decidable (IsUnmarked cs) :=
  List.decidableBAll (fun c => c ∉ cursorMark) cs

theorem IsUnmarked.start_notMem {cs : List Char} (h : IsUnmarked cs) : '\x01' ∉ cs :=
  fun hc => h _ hc List.mem_cons_self

theorem isUnmarked_append {cs ds : List Char} :
    IsUnmarked (cs ++ ds) ↔ IsUnmarked cs ∧ IsUnmarked ds := List.forall_mem_append

/-- Neither character of a cursor mark is blank. -/
theorem isUnmarked_of_allBlank {cs : List Char} (h : Text.allBlank cs = true) : IsUnmarked cs := by
  intro c hc hmark
  have hblank := List.all_eq_true.mp h c hc
  rcases List.mem_pair.mp hmark with rfl | rfl <;> exact absurd hblank (by decide)

/-- Whether a text can be an identifier that is forced on a node. -/
def IsIdentifier (id : String) : Prop := isBlankText id = false ∧ trimmed id = id

/-- Where an offset into a text comes to stand when the text is trimmed. -/
def trimmedOffset (text : List Char) (offset : Nat) : Nat :=
  min (offset - (text.takeWhile Text.isBlank).length) (Text.trim text).length

theorem trimmedOffset_mono (text : List Char) {i j : Nat} (h : i ≤ j) :
    trimmedOffset text i ≤ trimmedOffset text j := by
  unfold trimmedOffset
  omega

namespace Node

/-! ## Cursor marks -/

theorem takeCursor_of_unmarked {n : Node} (h : IsUnmarked n.content.toList) : n.takeCursor = n := by
  unfold takeCursor
  rw [cursorMark, Text.cutAt?_eq_none h.start_notMem]

theorem takeCursor_of_mark (n : Node) {before : List Char} (after : List Char)
    (h : IsUnmarked before) (hn : n.content.toList = before ++ (cursorMark ++ after)) :
    n.takeCursor = { n with
      content := String.ofList (before ++ after), cursor := n.cursor ++ [before.length] } := by
  have hcut : Text.cutAt? cursorMark n.content.toList = some (before, after) := by
    rw [hn]
    exact Text.cutAt?_append h.start_notMem after
  unfold takeCursor
  rw [hcut]

/-- Taking a mark out of a node changes its content and adds one cursor at most. -/
theorem takeCursor_cases (n : Node) :
    n.takeCursor = n ∨ ∃ content offset,
      n.takeCursor = { n with content, cursor := n.cursor ++ [offset] } := by
  unfold takeCursor
  split
  · exact .inr ⟨_, _, rfl⟩
  · exact .inl rfl

theorem length_cursor_takeCursor (n : Node) : n.takeCursor.cursor.length ≤ n.cursor.length + 1 := by
  rcases n.takeCursor_cases with h | ⟨content, offset, h⟩
  · rw [h]
    exact Nat.le_succ _
  · rw [h, List.length_append, List.length_singleton]

theorem uuid_takeCursor (n : Node) : n.takeCursor.uuid = n.uuid := by
  rcases n.takeCursor_cases with h | ⟨content, offset, h⟩ <;> rw [h]

/-! ## Trimming -/

theorem tidy_eq (n : Node) : n.tidy = { n with
    content := String.ofList (Text.trim n.content.toList)
    cursor := n.cursor.map (trimmedOffset n.content.toList) } := rfl

/-- What holds of a node as it may be inserted. -/
structure IsFinished (n : Node) : Prop where
  content : trimmed n.content = n.content
  length_cursor : n.cursor.length ≤ 2
  cursor : ∀ offset ∈ n.cursor, offset ≤ n.content.length
  uuid : ∀ id ∈ n.uuid, IsIdentifier id

/-- What holds of a node before it is finished. -/
structure IsUnfinished (n : Node) : Prop where
  cursor : n.cursor = []
  uuid : ∀ id ∈ n.uuid, IsIdentifier id

theorem isFinished_finishContent {n : Node} (h : n.IsUnfinished) : n.finishContent.IsFinished := by
  have hlength : n.takeCursors.cursor.length ≤ 2 := by
    have hfirst := n.length_cursor_takeCursor
    have hsecond := n.takeCursor.length_cursor_takeCursor
    rw [h.cursor, List.length_nil] at hfirst
    exact hsecond.trans (Nat.succ_le_succ hfirst)
  have huuid : n.takeCursors.uuid = n.uuid := by rw [takeCursors, uuid_takeCursor, uuid_takeCursor]
  rw [finishContent, tidy_eq]
  refine ⟨?_, ?_, fun offset hoffset => ?_, ?_⟩
  · show trimmed (String.ofList _) = String.ofList _
    rw [trimmed, String.toList_ofList, Text.trim_trim]
  · rwa [List.length_map]
  · obtain ⟨place, -, rfl⟩ := List.mem_map.mp hoffset
    rw [String.length_ofList]
    exact Nat.min_le_right _ _
  · rw [huuid]
    exact h.uuid

mutual

/-- **Finishing a tree finishes every node of it.** -/
theorem everywhere_finish : ∀ n : Node, n.Everywhere IsUnfinished → n.finish.Everywhere IsFinished
  | ⟨content, children, origin, uuid, cursor⟩, h => by
    have hself := isFinished_finishContent (n := ⟨content, [], origin, uuid, cursor⟩)
      ⟨h.self.cursor, h.self.uuid⟩
    rw [finish, everywhere_iff]
    exact ⟨⟨hself.content, hself.length_cursor, hself.cursor, hself.uuid⟩,
      everywhere_finishAll children h.children⟩

theorem everywhere_finishAll : ∀ nodes : List Node, (∀ n ∈ nodes, n.Everywhere IsUnfinished) →
    ∀ m ∈ finishAll nodes, m.Everywhere IsFinished
  | [], _, _, hm => absurd hm (by simp [finishAll])
  | n :: nodes, h, m, hm => by
    rw [finishAll] at hm
    rcases List.mem_cons.mp hm with rfl | hm
    · exact everywhere_finish n (h n List.mem_cons_self)
    · exact everywhere_finishAll nodes (fun n hn => h n (List.mem_cons_of_mem _ hn)) m hm

end

section Marks

variable {a b c : List Char} {origin uuid : Option String}

theorem takeCursors_none (ha : IsUnmarked a) :
    takeCursors ⟨String.ofList a, [], origin, uuid, []⟩ =
      ⟨String.ofList a, [], origin, uuid, []⟩ := by
  have htake : takeCursor ⟨String.ofList a, [], origin, uuid, []⟩ =
      ⟨String.ofList a, [], origin, uuid, []⟩ :=
    takeCursor_of_unmarked (by rwa [String.toList_ofList])
  rw [takeCursors, htake, htake]

theorem takeCursors_one (ha : IsUnmarked a) (hb : IsUnmarked b) :
    takeCursors ⟨String.ofList (a ++ cursorMark ++ b), [], origin, uuid, []⟩ =
      ⟨String.ofList (a ++ b), [], origin, uuid, [a.length]⟩ := by
  have hfirst := takeCursor_of_mark
    ⟨String.ofList (a ++ cursorMark ++ b), [], origin, uuid, []⟩ b ha
    (by rw [String.toList_ofList, List.append_assoc])
  rw [takeCursors, hfirst]
  exact takeCursor_of_unmarked
    (by rw [String.toList_ofList]; exact isUnmarked_append.mpr ⟨ha, hb⟩)

/-- The second mark is found in the text without the first one. A third one would stay. -/
theorem takeCursors_two (ha : IsUnmarked a) (hb : IsUnmarked b) :
    takeCursors
        ⟨String.ofList (a ++ cursorMark ++ b ++ cursorMark ++ c), [], origin, uuid, []⟩ =
      ⟨String.ofList (a ++ b ++ c), [], origin, uuid, [a.length, a.length + b.length]⟩ := by
  have hfirst := takeCursor_of_mark
    ⟨String.ofList (a ++ cursorMark ++ b ++ cursorMark ++ c), [], origin, uuid, []⟩
    (b ++ cursorMark ++ c) ha (by simp only [String.toList_ofList, List.append_assoc])
  rw [takeCursors, hfirst]
  have hsecond := takeCursor_of_mark
    ⟨String.ofList (a ++ (b ++ cursorMark ++ c)), [], origin, uuid, [a.length]⟩ c
    (isUnmarked_append.mpr ⟨ha, hb⟩) (by simp only [String.toList_ofList, List.append_assoc])
  rw [List.length_append] at hsecond
  exact hsecond

end Marks

/-- A node whose marks were taken out has its text trimmed, and the places of the marks move with
the text. -/
theorem finish_of_takeCursors {content : String} {text : List Char} {children : List Node}
    {origin uuid : Option String} {offsets : List Nat}
    (h : takeCursors ⟨content, [], origin, uuid, []⟩ =
      ⟨String.ofList text, [], origin, uuid, offsets⟩) :
    finish ⟨content, children, origin, uuid, []⟩ =
      ⟨String.ofList (Text.trim text), finishAll children, origin, uuid,
        offsets.map (trimmedOffset text)⟩ := by
  rw [finish, finishContent, h, tidy_eq]
  simp only [String.toList_ofList]

end Node

end Stencil
