import Stencil.Proofs.Dictionary
import Stencil.Proofs.Text.Case
import Stencil.View.Block

/-!
# What snapshots show of properties

A snapshot has every property under its name and under its normal name, and the properties are
entered in the order of their names. Under one name the last property is shown that has it or
normalizes to it. So a property is not shown under its own name if another one sorts behind it and
normalizes to this name, as a capital letter does that sorts behind its small one.

* `Properties.IsLast`: the last property under a name. `get?_spread`: it is the one that is entered.
* `le_normalName`: a name in ASCII never normalizes to one that sorts before it.
* `ShowsProperties`: what is shown under which name. `snapshots_show`: the views of pages and blocks
  do so.
* `not_shown_under_own_name`: a property that is hidden by another one.
-/

namespace Stencil

/-! ## The last property under a name -/

/-- Whether a property answers to a name: it has it or normalizes to it. -/
def AnswersTo (name : String) (entry : String × PropertyValue) : Prop :=
  entry.1 = name ∨ normalName entry.1 = name

/-- Whether a property is the last one that answers to a name. -/
def Properties.IsLast (p : Properties) (name : String) (entry : String × PropertyValue) : Prop :=
  ∃ before after, p.entries = before ++ entry :: after ∧ AnswersTo name entry ∧
    ∀ e ∈ after, ¬ AnswersTo name e

namespace Properties

variable {α : Type} {p : Properties} {name : String} {entry : String × PropertyValue}

theorem exists_last {β : Type} {P : β → Prop} : ∀ {xs : List β}, (∃ x ∈ xs, P x) →
    ∃ before x after, xs = before ++ x :: after ∧ P x ∧ ∀ y ∈ after, ¬ P y
  | [], h => by
    obtain ⟨x, hx, -⟩ := h
    cases hx
  | x :: xs, h => by
    by_cases hrest : ∃ y ∈ xs, P y
    · obtain ⟨before, y, after, rfl, hy, hlast⟩ := exists_last hrest
      exact ⟨x :: before, y, after, rfl, hy, hlast⟩
    · obtain ⟨y, hy, hPy⟩ := h
      have hlast : ∀ y ∈ xs, ¬ P y := fun y hy hPy => hrest ⟨y, hy, hPy⟩
      obtain rfl | hy := List.mem_cons.mp hy
      · exact ⟨[], y, xs, rfl, hPy, hlast⟩
      · exact absurd hPy (hlast y hy)

theorem exists_isLast (h : ∃ entry ∈ p.entries, AnswersTo name entry) :
    ∃ entry, p.IsLast name entry := by
  obtain ⟨before, entry, after, hentries, hname, hlast⟩ := exists_last h
  exact ⟨entry, before, after, hentries, hname, hlast⟩

theorem get?_addBoth (d : Dictionary α) (key : String) (a : α) (name : String) :
    (addBoth d key a).get? name =
      if key = name ∨ normalName key = name then some a else d.get? name := by
  unfold addBoth
  dsimp only
  split
  · next hsame => simp only [Dictionary.get?_insert, hsame, or_self]
  · rw [Dictionary.get?_insert, Dictionary.get?_insert]
    by_cases hnormal : normalName key = name
    · rw [if_pos hnormal, if_pos (.inr hnormal)]
    · simp only [hnormal, if_false, or_false]

/-- Properties that do not answer to a name leave what is entered under it. -/
theorem get?_foldl_addBoth (f : PropertyValue → α) {entries : List (String × PropertyValue)}
    (h : ∀ entry ∈ entries, ¬ AnswersTo name entry) (d : Dictionary α) :
    (entries.foldl (fun d (key, value) => addBoth d key (f value)) d).get? name = d.get? name := by
  induction entries generalizing d with
  | nil => rfl
  | cons entry entries ih =>
    obtain ⟨hentry, hentries⟩ := List.forall_mem_cons.mp h
    rw [List.foldl_cons, ih hentries, get?_addBoth]
    exact if_neg hentry

/-- **The last property under a name is the one that is entered.** -/
theorem get?_spread (f : PropertyValue → α) (h : p.IsLast name entry) :
    (p.spread f).get? name = some (f entry.2) := by
  obtain ⟨before, after, hentries, hname, hlast⟩ := h
  rw [spread, hentries, List.foldl_append, List.foldl_cons, get?_foldl_addBoth f hlast,
    get?_addBoth]
  exact if_pos hname

/-- Behind a property in order its name does not come again. -/
theorem isLast_self {key : String} {value : PropertyValue} (hp : p.Ordered)
    (hentry : (key, value) ∈ p.entries)
    (h : ∀ other ∈ p.entries, key < other.1 → normalName other.1 ≠ key) :
    p.IsLast key (key, value) := by
  obtain ⟨before, after, hentries⟩ := List.append_of_mem hentry
  refine ⟨before, after, hentries, .inl rfl, fun other hother => ?_⟩
  have hlt : key < other.1 := by
    have hkeys : (p.entries.map (·.1)).Pairwise (· < ·) := hp
    rw [hentries, List.map_append, List.map_cons, List.pairwise_append, List.pairwise_cons] at hkeys
    exact hkeys.2.1.1 other.1 (List.mem_map_of_mem hother)
  have hmem : other ∈ p.entries := by
    rw [hentries]
    exact List.mem_append_right _ (List.mem_cons_of_mem _ hother)
  rintro (hown | hnormal)
  · exact absurd hown hlt.ne'
  · exact h other hmem hlt hnormal

end Properties

/-! ## Names in ASCII -/

/-- A name in ASCII that a property line can have. -/
def IsPlainName (name : String) : Prop :=
  ∀ c ∈ name.toList, c.toNat < 128 ∧ isPropertyChar c = true

instance (name : String) : Decidable (IsPlainName name) :=
  List.decidableBAll _ _

theorem not_map_lt {f : Char → Char} {cs : List Char} (h : ∀ c ∈ cs, ¬ f c < c) :
    ¬ cs.map f < cs := by
  induction cs with
  | nil => exact List.not_lt_nil _
  | cons c cs ih =>
    obtain ⟨hc, hcs⟩ := List.forall_mem_cons.mp h
    rw [List.map_cons, List.cons_lt_cons_iff]
    rintro (hlt | ⟨-, hlt⟩)
    · exact hc hlt
    · exact ih hcs hlt

/-- A name in ASCII never normalizes to one that sorts before it: small letters sort behind capital
ones, and the underscore behind the hyphen. -/
theorem le_normalName {name : String} (h : IsPlainName name) : name ≤ normalName name := by
  have hblank : ∀ c ∈ name.toList, Text.isBlank c = false := by
    intro c hc
    refine Bool.eq_false_iff.mpr fun hblank => ?_
    have hno : isPropertyChar c = false := Text.of_isBlank
      (P := fun c => isPropertyChar c = false) hblank (by decide +kernel)
    rw [(h c hc).2] at hno
    cases hno
  have hnormal : (normalName name).toList =
      name.toList.map fun c => foldSeparator c.toLower := by
    rw [normalName, String.toList_ofList, Text.trim_of_no_blank hblank,
      Text.lower_of_ascii fun c hc => (h c hc).1, List.map_map]
    rfl
  have hchars : ∀ c ∈ name.toList, ¬ foldSeparator c.toLower < c := fun c hc =>
    Text.of_ascii (P := fun c => ¬ foldSeparator c.toLower < c) (h c hc).1 (by decide +kernel)
  refine not_lt.mp fun hlt => ?_
  rw [String.lt_iff_toList_lt, hnormal] at hlt
  exact not_map_lt hchars hlt

/-! ## Snapshots -/

/-- What is shown of properties under which name. -/
structure ShowsProperties (p : Properties) (texts : Dictionary String)
    (references : Dictionary (List String)) : Prop where
  /-- Under a name the last property is shown that answers to it. -/
  last : ∀ name entry, p.IsLast name entry →
    texts.get? name = some entry.2.text ∧ references.get? name = some entry.2.refs
  /-- So a property is shown under its own name exactly if the last one there has its value. -/
  own_iff : ∀ key value, (key, value) ∈ p.entries →
    (texts.get? key = some value.text ∧ references.get? key = some value.refs ↔
      ∀ entry, p.IsLast key entry → entry.2 = value)
  /-- It is if nothing that sorts behind it normalizes to this name. -/
  own : ∀ key value, (key, value) ∈ p.entries →
    (∀ other ∈ p.entries, key < other.1 → normalName other.1 ≠ key) →
    texts.get? key = some value.text ∧ references.get? key = some value.refs
  /-- With names in ASCII all properties are shown under their own names. -/
  own_of_plain : (∀ name ∈ p.keys, IsPlainName name) → ∀ key value, (key, value) ∈ p.entries →
    texts.get? key = some value.text ∧ references.get? key = some value.refs
  /-- A normal name that no property has shows a property that normalizes to it. -/
  normal : ∀ name, name ∉ p.keys → (∃ entry ∈ p.entries, normalName entry.1 = name) →
    ∃ entry ∈ p.entries, normalName entry.1 = name ∧
      texts.get? name = some entry.2.text ∧ references.get? name = some entry.2.refs

namespace Properties

variable {p : Properties}

theorem texts_references_of_isLast {name : String} {entry : String × PropertyValue}
    (h : p.IsLast name entry) :
    p.texts.get? name = some entry.2.text ∧ p.references.get? name = some entry.2.refs :=
  ⟨get?_spread (·.text) h, get?_spread (·.refs) h⟩

theorem shows (hp : p.Ordered) : ShowsProperties p p.texts p.references := by
  have hown : ∀ key value, (key, value) ∈ p.entries →
      (∀ other ∈ p.entries, key < other.1 → normalName other.1 ≠ key) →
      p.texts.get? key = some value.text ∧ p.references.get? key = some value.refs :=
    fun key value hentry h => texts_references_of_isLast (isLast_self hp hentry h)
  constructor
  case last => exact fun name entry => texts_references_of_isLast
  case own_iff =>
    intro key value hentry
    constructor
    · rintro ⟨htext, hrefs⟩ ⟨key', text', refs'⟩ hlast
      obtain ⟨htext', hrefs'⟩ := texts_references_of_isLast hlast
      obtain ⟨text, refs⟩ := value
      obtain rfl := Option.some.inj (htext.symm.trans htext')
      obtain rfl := Option.some.inj (hrefs.symm.trans hrefs')
      rfl
    · intro hlast
      obtain ⟨entry, hentry⟩ := exists_isLast ⟨(key, value), hentry, .inl rfl⟩
      rw [← hlast entry hentry]
      exact texts_references_of_isLast hentry
  case own => exact hown
  case own_of_plain =>
    intro hplain key value hentry
    refine hown key value hentry fun other hother hlt heq => ?_
    have hle := le_normalName (hplain other.1 (List.mem_map_of_mem hother))
    exact absurd (heq ▸ hle) (not_le.mpr hlt)
  case normal =>
    rintro name hname ⟨entry, hentry, hnormal⟩
    obtain ⟨last, hlast⟩ := exists_isLast ⟨entry, hentry, .inr hnormal⟩
    have hshown := texts_references_of_isLast hlast
    obtain ⟨before, after, hentries, hanswers, -⟩ := hlast
    have hmem : last ∈ p.entries := by
      rw [hentries]
      exact List.mem_append_right _ List.mem_cons_self
    have hnormal' : normalName last.1 = name :=
      Or.resolve_left hanswers fun heq => hname (heq ▸ List.mem_map_of_mem hmem)
    exact ⟨last, hmem, hnormal', hshown⟩

end Properties

/-- **What the views of pages and blocks show of properties**: under each name the last one that has
it or normalizes to it, hence a property under its own name unless one with another value sorts
behind it and normalizes to this name; names in ASCII never do. -/
theorem snapshots_show {p : Properties} (hp : p.Ordered) :
    ShowsProperties p p.texts p.references ∧
    (∀ page : Page, page.properties = p →
      ShowsProperties p (PageView.ofPage page).texts (PageView.ofPage page).references) ∧
    ∀ (level : Nat) (b : Block), b.properties = p →
      ShowsProperties p (BlockView.ofBlockAt level b).texts
        (BlockView.ofBlockAt level b).references := by
  have h : ShowsProperties p p.texts p.references := Properties.shows hp
  refine ⟨h, ?_, ?_⟩
  · rintro page rfl
    exact h
  · intro level b hb
    cases b
    subst hb
    exact h

/-- A hyphen in a name, and its normal name. -/
theorem snapshots_show_hyphen :
    (Properties.ofContent "Due-Date:: soon").texts.get? "Due-Date" = some "soon" ∧
      (Properties.ofContent "Due-Date:: soon").texts.get? "due_date" = some "soon" := by
  have hp : (Properties.ofContent "Due-Date:: soon").Ordered := Dictionary.ordered_ofList _
  have hshows := (snapshots_show hp).1
  have hentry : ("Due-Date", PropertyValue.ofText "soon") ∈
      (Properties.ofContent "Due-Date:: soon").entries := by decide +kernel
  have hplain : ∀ name ∈ (Properties.ofContent "Due-Date:: soon").keys, IsPlainName name := by
    decide +kernel
  refine ⟨(hshows.own_of_plain hplain _ _ hentry).1, ?_⟩
  obtain ⟨entry, hentry, -, htext, -⟩ := hshows.normal "due_date" (by decide +kernel)
    ⟨_, hentry, by decide +kernel⟩
  have hall : ∀ entry ∈ (Properties.ofContent "Due-Date:: soon").entries,
      entry.2.text = "soon" := by decide +kernel
  rw [htext, hall entry hentry]

/-- A capital letter that sorts behind its small one takes the place of a property with the small
letter. -/
theorem not_shown_under_own_name : ¬ ∀ p : Properties, p.Ordered → ∀ key value,
    (key, value) ∈ p.entries → p.texts.get? key = some value.text := by
  intro h
  have hp : (Properties.ofContent "ÿ:: 1\nŸ:: 2").Ordered := Dictionary.ordered_ofList _
  have hentry : ("ÿ", PropertyValue.ofText "1") ∈
      (Properties.ofContent "ÿ:: 1\nŸ:: 2").entries := by decide +kernel
  have hshown : (Properties.ofContent "ÿ:: 1\nŸ:: 2").texts.get? "ÿ" = some "2" := by
    decide +kernel
  exact absurd (hshown.symm.trans (h _ hp _ _ hentry)) (by decide +kernel)

end Stencil
