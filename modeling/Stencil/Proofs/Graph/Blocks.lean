import Stencil.Graph.Document
import Stencil.Proofs.Dictionary
import Stencil.Proofs.Graph.Items
import Stencil.Proofs.Text.Line
import Stencil.Proofs.Text.Search
import Stencil.Proofs.Text.Trim

/-!
# Blocks and the texts of their items

The text of an item gives its block the content, the properties and the identifier. The identifier
is taken from the other two in two ways: its lines are left out of the content, and its entry is
erased from the properties of the whole text. Both come to the same.

* `propertyOf?_eq_some_iff`: which lines are properties, and of which name and value.
* `entryOf?`: the property that a line is. `isIdLine_iff`: which lines are the identifier.
* `ofContent_contentOf`: the properties of the content are those of the text without the identifier.
* `get?_id_ofContent`: the last identifier counts.
* `IsBlockOf`: how a block comes from the text of an item. All blocks of a forest come so from its
  items (`numberItems_isBlockOf`), and all blocks of a document (`blocks_of_items`).
-/

namespace Stencil.Graph

open Calendar Text

variable {line key value content : List Char}

/-! ## Property lines -/

theorem not_isPropertyChar_of_isBlank {c : Char} (h : isBlank c = true) :
    isPropertyChar c = false := by
  rw [isPropertyChar, isWordChar_of_isBlank h]
  exact of_isBlank (P := fun c => (false || c = '-' || c = '_') = false) h (by decide +kernel)

/-- A name with the colons behind it is what a line starts with once its blanks are off. -/
theorem trim_propertyLine {front gap : List Char} (hne : key ≠ [])
    (hkey : ∀ c ∈ key, isBlank c = false) (hfront : ∀ c ∈ front, isBlank c = true)
    (rest : List Char) : trim (front ++ (key ++ (gap ++ ':' :: ':' :: rest))) =
      key ++ gap ++ ([':', ':'] ++ trimEnd rest) := by
  obtain ⟨c, cs, rfl⟩ := List.exists_cons_of_ne_nil hne
  have hhead : ¬ isBlank c = true := by
    rw [hkey c List.mem_cons_self]
    exact Bool.false_ne_true
  rw [trim_blank_append hfront, trim, trimStart, List.cons_append,
    List.dropWhile_cons_of_neg hhead]
  have hend : trimEnd (c :: cs ++ gap ++ [':'] ++ ':' :: rest) =
      c :: cs ++ gap ++ [':'] ++ ':' :: trimEnd rest := trimEnd_append_cons (by decide) _ rest
  simpa only [List.append_assoc, List.cons_append, List.nil_append] using hend

/-- A property line is read as its name and its value. -/
theorem propertyOf?_append {front gap : List Char} (hne : key ≠ [])
    (hkey : ∀ c ∈ key, isPropertyChar c = true) (hfront : ∀ c ∈ front, isBlank c = true)
    (hgap : ∀ c ∈ gap, isBlank c = true) (rest : List Char) :
    propertyOf? (front ++ (key ++ (gap ++ ':' :: ':' :: rest))) = some (key, trim rest) := by
  have hblank (c : Char) (hc : c ∈ key) : isBlank c = false := by
    by_contra h
    rw [Bool.not_eq_false] at h
    exact Bool.false_ne_true ((not_isPropertyChar_of_isBlank h).symm.trans (hkey c hc))
  have hcolon : ':' ∉ key ++ gap := by
    intro hmem
    rcases List.mem_append.mp hmem with hmem | hmem
    · exact absurd (hkey _ hmem) (by decide +kernel)
    · exact absurd (hgap _ hmem) (by decide +kernel)
  rw [propertyOf?, trim_propertyLine hne hblank hfront, cutAt?_append hcolon]
  dsimp only
  rw [trim_append_blank hgap, trim_of_no_blank hblank, trim_trimEnd, if_neg]
  rw [Bool.or_eq_true, not_or, List.isEmpty_iff, Bool.not_eq_true', Bool.not_eq_false,
    List.all_eq_true]
  exact ⟨hne, hkey⟩

/-- **The property lines**: a name of letters, digits, hyphens and underscores, then two colons,
then the value. Blanks around the name and around the value do not count. -/
theorem propertyOf?_eq_some_iff : propertyOf? line = some (key, value) ↔
    key ≠ [] ∧ (∀ c ∈ key, isPropertyChar c = true) ∧
      ∃ front gap rest, (∀ c ∈ front, isBlank c = true) ∧ (∀ c ∈ gap, isBlank c = true) ∧
        line = front ++ (key ++ (gap ++ ':' :: ':' :: rest)) ∧ value = trim rest := by
  constructor
  · intro h
    unfold propertyOf? at h
    split at h
    · cases h
    · next before after hcut =>
      dsimp only at h
      split at h
      · cases h
      · next hkey =>
        obtain ⟨rfl, rfl⟩ := Prod.mk.inj (Option.some.inj h)
        rw [Bool.or_eq_true, not_or, List.isEmpty_iff, Bool.not_eq_true', Bool.not_eq_false,
          List.all_eq_true] at hkey
        obtain ⟨front, tail, hline, hfront, htail⟩ := exists_eq_trim line
        obtain ⟨indent, gap, hbefore, hindent, hgap⟩ := exists_eq_trim before
        refine ⟨hkey.1, hkey.2, front ++ indent, gap, after ++ tail,
          List.forall_mem_append.mpr ⟨hfront, hindent⟩, hgap, ?_,
          (trim_append_blank htail after).symm⟩
        calc line
          _ = front ++ (trim line ++ tail) := hline
          _ = front ++ (before ++ [':', ':'] ++ after ++ tail) := by rw [cutAt?_eq_some hcut]
          _ = front ++ (indent ++ (trim before ++ gap) ++ [':', ':'] ++ after ++ tail) := by
            rw [← hbefore]
          _ = _ := by simp only [List.append_assoc, List.cons_append, List.nil_append]
  · rintro ⟨hne, hkey, front, gap, rest, hfront, hgap, rfl, rfl⟩
    exact propertyOf?_append hne hkey hfront hgap rest

/-- The property that a line is. -/
def entryOf? (line : List Char) : Option (String × PropertyValue) :=
  (propertyOf? line).map fun (key, value) =>
    (String.ofList key, PropertyValue.ofText (String.ofList value))

theorem entryOf?_nil : entryOf? [] = none := by decide

/-- A carriage return at its end does not make a line another property. -/
theorem entryOf?_dropReturn (line : List Char) : entryOf? (dropReturn line) = entryOf? line := by
  rw [entryOf?, propertyOf?, trim_dropReturn]
  rfl

theorem ofContent_eq (content : String) :
    Properties.ofContent content = .ofList ((lines content.toList).filterMap entryOf?) := by
  rw [Properties.ofContent, List.map_filterMap]
  rfl

theorem isIdLine_iff : isIdLine line = true ↔ ∃ value, entryOf? line = some ("id", value) := by
  rw [isIdLine, entryOf?]
  cases propertyOf? line with
  | none => simp
  | some entry =>
    obtain ⟨key, value⟩ := entry
    have hkey : String.ofList key = "id" ↔ key = ['i', 'd'] := String.ofList_eq
    simp [hkey]

theorem fst_ne_id {entry : String × PropertyValue} (h : isIdLine line = false)
    (hentry : entryOf? line = some entry) : entry.1 ≠ "id" := by
  obtain ⟨key, value⟩ := entry
  rintro rfl
  rw [isIdLine_iff.mpr ⟨value, hentry⟩] at h
  cases h

theorem isIdLine_dropReturn (line : List Char) : isIdLine (dropReturn line) = isIdLine line := by
  rw [Bool.eq_iff_iff, isIdLine_iff, isIdLine_iff, entryOf?_dropReturn]

theorem isIdLine_nil : isIdLine [] = false := by decide

/-- Leaving out the lines with the identifier is leaving out its entries. -/
theorem filterMap_entryOf?_filter (content : List (List Char)) :
    (content.filter fun line => !isIdLine line).filterMap entryOf? =
      (content.filterMap entryOf?).filter fun entry => entry.1 ≠ "id" := by
  rw [List.filterMap_filter, List.filter_filterMap]
  refine List.filterMap_congr fun line _ => ?_
  cases hline : isIdLine line with
  | true =>
    obtain ⟨value, hentry⟩ := isIdLine_iff.mp hline
    rw [hentry]
    rfl
  | false =>
    cases hentry : entryOf? line with
    | none => rfl
    | some entry => exact (if_pos (decide_eq_true (fst_ne_id hline hentry))).symm

/-! ## Contents -/

/-- The lines of a text that are not its identifier. -/
def otherLines (content : List Char) : List (List Char) :=
  (lines content).filter fun line => !isIdLine line

theorem toList_contentOf (content : List Char) :
    (contentOf content).toList = joinWith ['\n'] (otherLines content) := String.toList_ofList

theorem splitWhere_contentOf (h : otherLines content ≠ []) :
    splitWhere (· = '\n') (contentOf content).toList = otherLines content := by
  rw [toList_contentOf]
  exact splitWhere_joinWith h fun line hline =>
    notMem_of_mem_lines (List.mem_of_mem_filter hline)

/-- The pieces of a content are the lines that are not its identifier, or there is nothing. -/
theorem splitWhere_contentOf_or (content : List Char) :
    splitWhere (· = '\n') (contentOf content).toList = otherLines content ∨
      otherLines content = [] ∧ splitWhere (· = '\n') (contentOf content).toList = [[]] := by
  by_cases h : otherLines content = []
  · rw [toList_contentOf, h]
    exact .inr ⟨rfl, rfl⟩
  · exact .inl (splitWhere_contentOf h)

/-- No line of a content is an identifier. -/
theorem isIdLine_of_mem_contentOf (h : line ∈ lines (contentOf content).toList) :
    isIdLine line = false := by
  obtain ⟨piece, hpiece, hline⟩ := of_mem_linesOfPieces h
  have hnot : isIdLine piece = false := by
    obtain heq | ⟨-, heq⟩ := splitWhere_contentOf_or content
    · rw [heq] at hpiece
      simpa using (List.mem_filter.mp hpiece).2
    · rw [heq, List.mem_singleton] at hpiece
      rw [hpiece]
      exact isIdLine_nil
  -- A line of the text that ended in two carriage returns loses the other one in the content.
  rcases hline with rfl | rfl
  · exact hnot
  · rw [isIdLine_dropReturn, hnot]

/-- **The properties of a content are those of its text without the identifier.** -/
theorem ofContent_contentOf (content : List Char) :
    Properties.ofContent (contentOf content) =
      (Properties.ofContent (String.ofList content)).erase "id" := by
  have hentries : (lines (contentOf content).toList).filterMap entryOf? =
      (otherLines content).filterMap entryOf? := by
    rw [lines, filterMap_linesOfPieces entryOf?_nil entryOf?_dropReturn]
    obtain heq | ⟨hnil, heq⟩ := splitWhere_contentOf_or content
    · rw [heq]
    · -- Where no line is left there is one empty piece, which is no property.
      rw [heq, hnil]
      decide
  rw [ofContent_eq, ofContent_eq, hentries, otherLines, filterMap_entryOf?_filter,
    Dictionary.erase_ofList, String.toList_ofList]

/-! ## Identifiers -/

theorem text_of_propertyOf? (h : propertyOf? line = some (key, value)) :
    (PropertyValue.ofText (String.ofList value)).text = String.ofList value := by
  obtain ⟨-, -, front, gap, rest, -, -, -, rfl⟩ := propertyOf?_eq_some_iff.mp h
  rw [PropertyValue.ofText, String.toList_ofList, trim_trim]

/-- The last identifier of a text is its property. -/
theorem get?_id_ofContent {before after : List (List Char)}
    (hlines : lines content = before ++ line :: after)
    (hline : propertyOf? line = some (['i', 'd'], value))
    (hafter : ∀ other ∈ after, isIdLine other = false) :
    ((Properties.ofContent (String.ofList content)).get? "id").map (·.text) =
      some (String.ofList value) := by
  have hentry : entryOf? line = some ("id", PropertyValue.ofText (String.ofList value)) := by
    rw [entryOf?, hline]
    rfl
  have hother : (after.filterMap entryOf?).filter (fun entry => entry.1 = "id") = [] := by
    refine List.filter_eq_nil_iff.mpr fun entry hmem => ?_
    obtain ⟨other, hmem, hother⟩ := List.mem_filterMap.mp hmem
    exact fun hkey => fst_ne_id (hafter other hmem) hother (of_decide_eq_true hkey)
  rw [ofContent_eq, String.toList_ofList, Dictionary.get?_ofList, hlines, List.filterMap_append,
    List.filterMap_cons_some hentry, List.filter_append, List.filter_cons_of_pos rfl, hother,
    List.getLast?_concat, Option.map_some, Option.map_some, text_of_propertyOf? hline]

/-! ## Blocks -/

/-- How the block of an item comes from its text. -/
structure IsBlockOf (item : DraftItem) (b : Block) : Prop where
  /-- The properties are those of the content. -/
  properties_eq : b.properties = Properties.ofContent b.content
  id_notMem : "id" ∉ b.properties.keys
  isIdLine_eq_false : ∀ line ∈ lines b.content.toList, isIdLine line = false
  /-- The content is the other lines, in order. -/
  toList_content : b.content.toList = joinWith ['\n'] (otherLines item.content)
  splitWhere_content : otherLines item.content ≠ [] →
    splitWhere (· = '\n') b.content.toList = otherLines item.content
  /-- The last line with an identifier gives it to the block. -/
  uuid_eq : ∀ before line value after, lines item.content = before ++ line :: after →
    propertyOf? line = some (['i', 'd'], value) → (∀ other ∈ after, isIdLine other = false) →
      b.uuid = String.ofList value

mutual

/-- A numbered item and all below it are blocks of their items. -/
theorem numberItem_isBlockOf [UuidSource] (page : Page) : ∀ (item : DraftItem)
    (parent left : Option Int) (id : Int), List.Forall₂ IsBlockOf item.withDescendants
      (numberItem page parent left id item).1.withDescendants
  | ⟨content, children⟩, parent, left, id => by
    refine .cons ?_ (numberItems_isBlockOf page children (some id) (some id) (id + 1))
    exact {
      properties_eq := (ofContent_contentOf content).symm
      id_notMem := Dictionary.notMem_keys_erase _ _
      isIdLine_eq_false := fun _ => isIdLine_of_mem_contentOf
      toList_content := toList_contentOf content
      splitWhere_content := splitWhere_contentOf
      uuid_eq := fun before line value after hlines hline hafter => by
        show Option.getD _ _ = _
        rw [get?_id_ofContent hlines hline hafter, Option.getD_some] }

theorem numberItems_isBlockOf [UuidSource] (page : Page) : ∀ (items : List DraftItem)
    (parent left : Option Int) (id : Int), List.Forall₂ IsBlockOf (DraftItem.flatten items)
      (Block.flatten (numberItems page parent left id items).1)
  | [], _, _, _ => .nil
  | item :: items, parent, left, id =>
    List.rel_append (numberItem_isBlockOf page item parent left id)
      (numberItems_isBlockOf page items parent (some id) _)

end

theorem numberPages_isBlockOf [UuidSource] [DateLibrary] (pages : List DraftPage) (id : Int) :
    List.Forall₂ IsBlockOf (pages.flatMap fun page => DraftItem.flatten page.items)
      (numberPages id pages).blocks := by
  induction pages generalizing id with
  | nil => exact .nil
  | cons raw pages ih =>
    exact List.rel_append (numberItems_isBlockOf (pageOf id raw) raw.items none none (id + 1))
      (ih _)

/-- The blocks of a document agree with the items that its reader finds. -/
theorem exists_isBlockOf_ofSource [MarkupReader] [UuidSource] [DateLibrary] {source : String}
    {file : Nat} {g : Graph} (h : Graph.ofSource source file = .ok g) :
    ∃ pages, DraftPage.ofEvents source.toList (MarkupReader.events source.toList) = .ok pages ∧
      List.Forall₂ IsBlockOf (pages.flatMap fun page => DraftItem.flatten page.items)
        g.blocks := by
  obtain ⟨pages, hpages, h⟩ := bind_eq_ok_iff.mp h
  refine ⟨pages, mapError_eq_ok_iff.mp hpages, ?_⟩
  rw [← Except.ok.inj h]
  exact numberPages_isBlockOf pages 1

/-- **The blocks of items agree with their texts,** whatever the items are and below whatever they
stand, and so do the blocks of a document. -/
theorem blocks_of_items [UuidSource] [DateLibrary] :
    (∀ (page : Page) (parent left : Option Int) (id : Int) (items : List DraftItem),
      List.Forall₂ IsBlockOf (DraftItem.flatten items)
        (Block.flatten (numberItems page parent left id items).1)) ∧
    ∀ (source : String) (file : Nat) (g : Graph), Graph.ofSource source file = .ok g →
      ∃ pages, DraftPage.ofEvents source.toList (Markup.Document.ofSource source.toList).events =
          .ok pages ∧
        List.Forall₂ IsBlockOf (pages.flatMap fun page => DraftItem.flatten page.items)
          g.blocks :=
  ⟨fun page parent left id items => numberItems_isBlockOf page items parent left id,
    fun _ _ _ => exists_isBlockOf_ofSource⟩

/-- The last of two identifiers counts, and neither is left. -/
example :
    let b := (numberItem default none none 1 ⟨"id:: x\r\na:: 1\r\n id ::y".toList, []⟩).1
    (b.content, b.uuid, b.properties.keys) = ("a:: 1", "y", ["a"]) := by decide +kernel

end Stencil.Graph
