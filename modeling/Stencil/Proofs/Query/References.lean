import Mathlib.Data.List.Nodup
import Mathlib.Data.List.Perm.Subperm
import Mathlib.Data.Set.Basic
import Stencil.Proofs.Entity.References
import Stencil.Proofs.Query.Reader
import Stencil.Proofs.Query.Spelling

/-!
# Filters on references

A filter on references compares the keys of some names with the references of a property. Both are
lists without repetitions, so a filter that counts them and looks for each key decides whether they
are the same set. A name that is written as a link loses its brackets, but keeps the blanks inside
them, which the references of a property do not have.

* `nodup_foldl_addName` and `mem_foldl_addName_iff`: names that are added one by one.
* `nodup_refs_ofText`, `nodup_referenceKeys` and `mem_referenceKeys_iff`: references and keys.
* `Query.reference_includes_only_iff`: the filter for exactly some names.
* `Query.reference_includes_link_iff`: the filter for a link finds the link exactly if no blanks
  stand around the name.
* `Query.not_reference_includes_link`: a link with blanks that is not found.
-/

namespace Stencil

open Text PropertyValue

/-! ## Names that are added one by one -/

section AddName

variable {kept : List String} {key : String}

theorem nodup_addName (h : kept.Nodup) (name : List Char) : (addName kept name).Nodup := by
  unfold addName
  dsimp only
  split
  · exact h
  · next hnew =>
    simp only [Bool.or_eq_true, not_or, List.contains_iff_mem] at hnew
    exact List.nodup_append_comm.mpr (List.nodup_cons.mpr ⟨hnew.2, h⟩)

theorem mem_addName_iff {name : List Char} :
    key ∈ addName kept name ↔ key ∈ kept ∨ key ≠ "" ∧ String.ofList name = key := by
  unfold addName
  dsimp only
  split
  · next hold =>
    simp only [Bool.or_eq_true, String.isEmpty_iff, List.contains_iff_mem] at hold
    refine ⟨.inl, fun h => h.elim id fun ⟨hne, heq⟩ => ?_⟩
    subst heq
    exact hold.resolve_left hne
  · next hnew =>
    simp only [Bool.or_eq_true, not_or, String.isEmpty_iff] at hnew
    rw [List.mem_append, List.mem_singleton]
    refine or_congr_right ⟨fun h => ⟨?_, h.symm⟩, fun h => h.2.symm⟩
    rw [h]
    exact hnew.1

variable {names : List (List Char)}

theorem nodup_foldl_addName (h : kept.Nodup) (names : List (List Char)) :
    (names.foldl addName kept).Nodup := by
  induction names generalizing kept with
  | nil => exact h
  | cons name names ih => exact ih (nodup_addName h name)

theorem mem_foldl_addName_iff : key ∈ names.foldl addName kept ↔
    key ∈ kept ∨ key ≠ "" ∧ ∃ name ∈ names, String.ofList name = key := by
  induction names generalizing kept with
  | nil => simp
  | cons name names ih =>
    rw [List.foldl_cons, ih, mem_addName_iff, or_assoc]
    refine or_congr_right ?_
    rw [← and_or_left, List.exists_mem_cons_iff]

end AddName

/-! ## References and keys -/

theorem nodup_refsIn (cs : List Char) : (refsIn cs).Nodup := by
  unfold refsIn
  dsimp only
  split
  · exact nodup_foldl_addName List.nodup_nil _
  · exact nodup_foldl_addName List.nodup_nil _

/-- A property refers to each page once. -/
theorem nodup_refs_ofText (raw : String) : (ofText raw).refs.Nodup := nodup_refsIn _

namespace Query

variable {key : String} {names : List String}

theorem referenceKeys_eq (names : List String) :
    referenceKeys names = (names.map fun name => (referenceKey name).toList).foldl addName [] := by
  simp only [List.foldl_map, addName, String.ofList_toList]
  rfl

/-- A filter has each key once. -/
theorem nodup_referenceKeys (names : List String) : (referenceKeys names).Nodup := by
  rw [referenceKeys_eq]
  exact nodup_foldl_addName List.nodup_nil _

/-- The keys of a filter are those of its names that are not empty. -/
theorem mem_referenceKeys_iff :
    key ∈ referenceKeys names ↔ key ≠ "" ∧ ∃ name ∈ names, referenceKey name = key := by
  simp [referenceKeys_eq, mem_foldl_addName_iff]

theorem referenceKeys_singleton {name : String} (h : referenceKey name ≠ "") :
    referenceKeys [name] = [referenceKey name] := by
  simp [referenceKeys, h]

end Query

/-! ## Exactly some names -/

namespace Filter

/-- Of two lists without repetitions, equally long, one has all members of the other only if both
have the same members. -/
theorem testReferences_includesOnly_iff {names : List String} {v : PropertyValue}
    (hnames : names.Nodup) (hrefs : v.refs.Nodup) :
    testReferences .includesOnly names v = true ↔ {key | key ∈ names} = {key | key ∈ v.refs} := by
  have hmembers : {key | key ∈ names} = {key | key ∈ v.refs} ↔ names.Perm v.refs := by
    rw [List.perm_ext_iff_of_nodup hnames hrefs, Set.ext_iff]
    rfl
  rw [hmembers, testReferences, Bool.and_eq_true, beq_iff_eq, List.all_eq_true]
  simp only [List.contains_iff_mem]
  constructor
  · rintro ⟨hlength, hall⟩
    have hsubperm : names.Subperm v.refs := List.subperm_of_subset hnames hall
    exact hsubperm.perm_of_length_le (le_of_eq hlength)
  · intro hperm
    exact ⟨hperm.length_eq.symm, fun key hkey => hperm.mem_iff.mp hkey⟩

end Filter

theorem quoted_injective : Function.Injective quoted := by
  intro s t h
  have hs : Reads (quoted s) [s] := reads_quoted s
  have ht : Reads (quoted s) [t] := h ▸ reads_quoted t
  have heq := hs.symm.trans ht
  simpa using heq

theorem Form.textAll_map_literal (texts : List String) :
    textAll (texts.map .literal) = " ".intercalate (texts.map quoted) := by
  induction texts with
  | nil => rfl
  | cons text texts ih =>
    cases texts with
    | nil => simp [textAll, Form.text]
    | cons next texts =>
      rw [List.map_cons, textAll, ih]
      · simp [Form.text]
      · simp

namespace Query

/-- A filter on references concerns the property that was selected last. -/
theorem reference_property (q : Query) (p : String) {operator : String} {op : ReferenceOperator}
    (hop : ReferenceOperator.ofText operator = .ok op) (names : List String) :
    (q.property p).reference operator names =
      .ok ((q.property p).add (.reference (propertySymbol p) op (referenceKeys names))) := by
  have hfocus : (q.property p).focused "reference" = .ok (propertySymbol p) := by
    rw [focused, focus_property]
  rw [reference, hfocus, hop]
  rfl

theorem accepts_reference {p : String} {page : Page} {v : PropertyValue}
    (h : Filter.propertyOf? page p = some v) (op : ReferenceOperator) (keys : List String) :
    (Filter.reference (propertySymbol p) op keys).accepts page =
      Filter.testReferences op keys v := by
  rw [Filter.accepts, Filter.propertyOf?_propertySymbol, h]
  rfl

/-- **A filter for exactly some names decides the equality of two sets**, those of the keys of the
names, empty ones left out, and of the references of the property. In the text of the query it
names each key once. -/
theorem reference_includes_only_iff (q : Query) (p : String) (names : List String) :
    ∃ f : Filter, (q.property p).reference "includes only" names = .ok ((q.property p).add f) ∧
      (∀ (page : Page) (raw : String), Filter.propertyOf? page p = some (ofText raw) →
        (f.accepts page = true ↔
          {key | key ≠ "" ∧ ∃ name ∈ names, referenceKey name = key} =
            {key | key ∈ (ofText raw).refs})) ∧
      ((referenceKeys names).map quoted).Nodup ∧
      ∀ index, f.clause index = "[(= #\x7b" ++ " ".intercalate ((referenceKeys names).map quoted) ++
        "\x7d " ++ rawVariable (propertySymbol p) ++ ")]" := by
  have hop : ReferenceOperator.ofText "includes only" = .ok .includesOnly := by decide +kernel
  refine ⟨_, reference_property q p hop names, fun page raw hvalue => ?_,
    (nodup_referenceKeys names).map quoted_injective, fun index => ?_⟩
  · have hkeys : {key | key ≠ "" ∧ ∃ name ∈ names, referenceKey name = key} =
        {key | key ∈ referenceKeys names} := Set.ext fun key => mem_referenceKeys_iff.symm
    rw [accepts_reference hvalue, hkeys]
    exact Filter.testReferences_includesOnly_iff (nodup_referenceKeys names) (nodup_refs_ofText raw)
  · rw [← String.toList_inj]
    simp [Filter.clause, Filter.forms, Form.test, Form.text, Form.textAll,
      Form.textAll_map_literal]

/-- A page with two tags, and a filter for them with a repeated name and an empty one. -/
theorem reference_includes_only_tags :
    ∃ f, (pages.property "tags").reference "includes only" ["[[lean]]", " RUST ", "", "Lean"] =
        .ok ((pages.property "tags").add f) ∧
      ∀ page : Page, page.properties = Properties.ofContent "Tags:: [[Rust]], #lean, [[ rust ]]" →
        f.accepts page = true := by
  obtain ⟨f, hf, haccepts, -⟩ := reference_includes_only_iff pages "tags"
    ["[[lean]]", " RUST ", "", "Lean"]
  refine ⟨f, hf, fun page hpage => ?_⟩
  have hvalue : Filter.propertyOf? page "tags" = some (ofText "[[Rust]], #lean, [[ rust ]]") := by
    rw [Filter.propertyOf?, hpage]
    decide +kernel
  refine (haccepts page _ hvalue).mpr (Set.ext fun key => ?_)
  have hkeys : referenceKeys ["[[lean]]", " RUST ", "", "Lean"] = ["lean", "rust"] := by
    decide +kernel
  have hrefs : (ofText "[[Rust]], #lean, [[ rust ]]").refs = ["rust", "lean"] := by decide +kernel
  show (key ≠ "" ∧ _) ↔ key ∈ _
  rw [← mem_referenceKeys_iff, hkeys, hrefs]
  exact List.Perm.mem_iff (.swap _ _ _)

/-! ## Links -/

/-- A link loses its brackets, but keeps the blanks inside them. -/
theorem referenceKey_link (n : PageName) :
    referenceKey (String.ofList (Mention.link n).written) = String.ofList (lower n.chars) := by
  have hopen : '[' ∉ n.chars ++ [']', ']'] := by
    have hname := n.notMem_of_mark (c := '[') (.inl rfl)
    simpa using hname
  have hclose : ']' ∉ n.chars := n.notMem_of_mark (.inr (.inl rfl))
  have htrim : trim (Mention.link n).written = (Mention.link n).written :=
    Mention.trim_writtenAll [.link n]
  have hwritten : (Mention.link n).written = '[' :: '[' :: (n.chars ++ [']', ']']) := rfl
  rw [referenceKey, String.toList_ofList, htrim, hwritten, stripStart_twice hopen,
    stripEnd_twice hclose]

/-- A property with a link refers to the page of the link, without blanks around its name. -/
theorem refs_link (n : PageName) :
    (ofText (String.ofList (Mention.link n).written)).refs = [n.key] :=
  Mention.refs_ofText [.link n]

/-- **A filter for a link finds the link exactly if no blanks stand around the name in it.** The key
of the filter is the name in lower case, with such blanks; the reference of the property is the name
in lower case without them. -/
theorem reference_includes_link_iff (q : Query) (p : String) (n : PageName) :
    let link := String.ofList (Mention.link n).written
    referenceKey link = String.ofList (lower n.chars) ∧ (ofText link).refs = [n.key] ∧
    ∃ f : Filter, (q.property p).reference "includes" [link] = .ok ((q.property p).add f) ∧
      ∀ page : Page, Filter.propertyOf? page p = some (ofText link) →
        (f.accepts page = true ↔ trim n.chars = n.chars) := by
  intro link
  have hop : ReferenceOperator.ofText "includes" = .ok .includes := by decide +kernel
  refine ⟨referenceKey_link n, refs_link n, _, reference_property q p hop [link],
    fun page hvalue => ?_⟩
  have hne : referenceKey link ≠ "" := by
    rw [referenceKey_link, Ne, String.ofList_eq_empty_iff, lower_eq_nil_iff]
    intro hnil
    exact absurd n.not_blank (by rw [hnil]; decide)
  have hfound : Filter.testReferences .includes [referenceKey link] (ofText link) = true ↔
      referenceKey link = n.key := by
    simp [Filter.testReferences, link, refs_link]
  rw [accepts_reference hvalue, referenceKeys_singleton hne, hfound, referenceKey_link,
    PageName.key, String.ofList_inj, lower_eq_lower_trim_iff]

/-- The link `[[Rust]]` is found. -/
theorem reference_includes_link_rust :
    ∃ f, (pages.property "tags").reference "includes" ["[[Rust]]"] =
        .ok ((pages.property "tags").add f) ∧
      ∀ page : Page, page.properties = Properties.ofContent "Tags:: [[Rust]]" →
        f.accepts page = true := by
  let rust : PageName := ⟨"Rust".toList, by decide, by decide⟩
  obtain ⟨-, -, f, hf, haccepts⟩ := reference_includes_link_iff pages "tags" rust
  refine ⟨f, hf, fun page hpage => (haccepts page ?_).mpr (by decide)⟩
  rw [Filter.propertyOf?, hpage]
  decide +kernel

/-- The link `[[ Rust ]]` is not found: the filter looks for the key with the blanks. -/
theorem not_reference_includes_link :
    ¬ ∀ (p : String) (n : PageName) (f : Filter) (page : Page),
      (pages.property p).reference "includes" [String.ofList (Mention.link n).written] =
        .ok ((pages.property p).add f) →
      Filter.propertyOf? page p = some (ofText (String.ofList (Mention.link n).written)) →
      f.accepts page = true := by
  intro h
  let rust : PageName := ⟨" Rust ".toList, by decide, by decide⟩
  let page : Page := ⟨1, "", "a", "A", none, .ofContent "Tags:: [[ Rust ]]"⟩
  let f : Filter := .reference (propertySymbol "tags") .includes [" rust "]
  have hf : (pages.property "tags").reference "includes"
      [String.ofList (Mention.link rust).written] = .ok ((pages.property "tags").add f) := by
    have hkeys : referenceKeys [String.ofList (Mention.link rust).written] = [" rust "] := by
      decide +kernel
    have hop : ReferenceOperator.ofText "includes" = .ok .includes := by decide +kernel
    rw [reference_property pages "tags" hop, hkeys]
  have hfound := h "tags" rust f page hf (by decide +kernel)
  exact absurd hfound (by decide +kernel)

end Query

end Stencil
