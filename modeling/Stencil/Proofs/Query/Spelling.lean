import Mathlib.Logic.Relation
import Stencil.Proofs.Query.Built
import Stencil.Proofs.Text.Lowered

/-!
# The spellings of a property name

Queries keep the name of a property with hyphens, look-ups compare names with underscores. The one
is the other with another separator, so both tell the same names apart, and a filter finds the
property that was asked for under any spelling: in any case, with hyphens, underscores or blanks,
and with blanks around it.

* `propertySymbol_eq_iff`: two names have one symbol exactly if they have one normal name.
* `normalName_propertySymbol`: the symbol of a property has the normal name of the property.
* `Filter.DecidesBy`: a filter decides by the value of one property only.
* `Query.selects_under_all_spellings`: what selecting a property does under any spelling.
-/

namespace Stencil

open Text

variable {a b : String}

/-! ## Symbols and normal names -/

/-- An underscore or space becomes a hyphen. -/
def hyphenated (c : Char) : Char := if c = '_' || c = ' ' then '-' else c

@[simp]
theorem foldSeparator_hyphenated (c : Char) : foldSeparator (hyphenated c) = foldSeparator c := by
  unfold foldSeparator hyphenated
  by_cases hunderscore : c = '_'
  · simp [hunderscore]
  · by_cases hspace : c = ' ' <;> simp [hunderscore, hspace]

@[simp]
theorem hyphenated_foldSeparator (c : Char) : hyphenated (foldSeparator c) = hyphenated c := by
  unfold foldSeparator hyphenated
  by_cases hhyphen : c = '-'
  · simp [hhyphen]
  · by_cases hspace : c = ' ' <;> simp [hhyphen, hspace]

/-- What both spellings are made of: the name without blanks around it and in lower case. -/
def bareName (name : String) : List Char := lower (trim name.toList)

theorem propertySymbol_eq (name : String) :
    propertySymbol name = String.ofList ((bareName name).map hyphenated) := rfl

theorem normalName_eq (name : String) :
    normalName name = String.ofList ((bareName name).map foldSeparator) := rfl

/-- The normal name is the symbol with underscores. -/
theorem normalName_eq_map_symbol (name : String) :
    normalName name = String.ofList ((propertySymbol name).toList.map foldSeparator) := by
  simp [propertySymbol_eq, normalName_eq, Function.comp_def]

/-- The symbol is the normal name with hyphens. -/
theorem propertySymbol_eq_map_normalName (name : String) :
    propertySymbol name = String.ofList ((normalName name).toList.map hyphenated) := by
  simp [propertySymbol_eq, normalName_eq, Function.comp_def]

/-- **Symbols and normal names tell the same names apart.** -/
theorem propertySymbol_eq_iff :
    propertySymbol a = propertySymbol b ↔ normalName a = normalName b := by
  constructor
  · intro h
    rw [normalName_eq_map_symbol, h, ← normalName_eq_map_symbol]
  · intro h
    rw [propertySymbol_eq_map_normalName, h, ← propertySymbol_eq_map_normalName]

/-- A symbol is trimmed and in lower case already. -/
theorem bareName_propertySymbol (name : String) :
    bareName (propertySymbol name) = (bareName name).map hyphenated := by
  have hlower : ∀ c ∈ (bareName name).map hyphenated, IsLowerCase c := by
    intro d hd
    obtain ⟨c, hc, rfl⟩ := List.mem_map.mp hd
    unfold hyphenated
    split
    · decide
    · exact isLowerCase_of_mem_lower hc
  have hblank : ∀ c, isBlank c = false → isBlank (hyphenated c) = false := by
    intro c hc
    unfold hyphenated
    split
    · decide
    · exact hc
  obtain ⟨hhead, hlast⟩ := trim_eq_self_iff.mp (trim_lower_of_trim (trim_trim name.toList))
  have htrim : trim ((bareName name).map hyphenated) = (bareName name).map hyphenated := by
    refine trim_of_head_getLast (fun d hd => ?_) fun d hd => ?_
    · rw [List.head?_map] at hd
      obtain ⟨c, hc, rfl⟩ := Option.map_eq_some_iff.mp hd
      exact hblank c (hhead c hc)
    · rw [List.getLast?_map] at hd
      obtain ⟨c, hc, rfl⟩ := Option.map_eq_some_iff.mp hd
      exact hblank c (hlast c hc)
  rw [propertySymbol_eq, bareName, String.toList_ofList, htrim, lower_of_isLowerCase hlower]

/-- **The symbol of a property has its normal name.** -/
theorem normalName_propertySymbol (name : String) :
    normalName (propertySymbol name) = normalName name := by
  rw [normalName_eq, bareName_propertySymbol, normalName_eq_map_symbol, propertySymbol_eq,
    String.toList_ofList]

/-! ## Look-ups -/

namespace Filter

variable {f : Filter}

theorem propertyOf?_propertySymbol (p : Page) (name : String) :
    propertyOf? p (propertySymbol name) = propertyOf? p name := by
  unfold propertyOf?
  rw [normalName_propertySymbol]

theorem isSome_propertyOf?_iff {p : Page} {name : String} :
    (propertyOf? p name).isSome = true ↔
      ∃ entry ∈ p.properties.entries, normalName entry.1 = normalName name := by
  simp [propertyOf?, List.find?_isSome]

/-- A filter decides by the value of one property, the first with a normal name, and by nothing else
of a page. -/
def DecidesBy (f : Filter) (name : String) : Prop :=
  ∃ test : PropertyValue → Bool, ∀ p : Page, f.accepts p =
    ((p.properties.entries.find? fun entry => normalName entry.1 == name).map (·.2)).any test

theorem decidesBy_of_key? {key : String} (h : f.key? = some key) :
    f.DecidesBy (normalName key) := by
  cases f with
  | text field test =>
    cases field with
    | name | title => cases h
    | property key =>
      cases h
      exact ⟨fun v => test.accepts v.text, fun p => rfl⟩
  | property key =>
    cases h
    refine ⟨fun _ => true, fun p => ?_⟩
    show (propertyOf? p key).isSome = (propertyOf? p key).any fun _ => true
    cases propertyOf? p key <;> rfl
  | empty key =>
    cases h
    exact ⟨fun v => v.text.isEmpty, fun p => rfl⟩
  | nonEmpty key =>
    cases h
    exact ⟨fun v => !v.text.isEmpty, fun p => rfl⟩
  | integer key op value =>
    cases h
    refine ⟨fun v => (Decimal.readLong? (trim v.text.toList)).any fun n => op.test n value,
      fun p => ?_⟩
    show ((propertyOf? p key).bind fun v => Decimal.readLong? (trim v.text.toList)).any _ =
      (propertyOf? p key).any _
    cases propertyOf? p key <;> rfl
  | reference key op names =>
    cases h
    exact ⟨testReferences op names, fun p => rfl⟩

end Filter

/-! ## Selections -/

namespace Query

variable {q r : Query}

theorem bound_property (q : Query) (name : String) :
    propertySymbol name ∈ (q.property name).bound := by
  rw [property]
  dsimp only
  split
  · next hbound => exact List.contains_iff_mem.mp hbound
  · exact List.mem_append_right _ (List.mem_singleton_self _)

theorem focus_property (q : Query) (name : String) :
    (q.property name).focus = some (propertySymbol name) := by
  rw [property]
  dsimp only
  split <;> rfl

theorem property_of_bound {name : String} (h : propertySymbol name ∈ q.bound) :
    q.property name = { q with focus := some (propertySymbol name) } :=
  if_pos (List.contains_iff_mem.mpr h)

theorem property_of_not_bound {name : String} (h : propertySymbol name ∉ q.bound) :
    q.property name = ⟨q.filters ++ [.property (propertySymbol name)],
      q.bound ++ [propertySymbol name], some (propertySymbol name)⟩ :=
  if_neg fun hmem => h (List.contains_iff_mem.mp hmem)

/-- No call takes a selection back. -/
theorem Change.bound_subset (h : Change q r) : q.bound ⊆ r.bound := by
  cases h with
  | refocus | narrow => exact List.Subset.refl _
  | select => exact List.subset_append_left _ _

theorem bound_subset_of_calls [PatternEngine] (h : Relation.ReflTransGen Call q r) :
    q.bound ⊆ r.bound := by
  induction h with
  | refl => exact List.Subset.refl _
  | tail _ hcall ih => exact List.Subset.trans ih hcall.change.bound_subset

/-- A call that does not select a property adds a filter on the one in focus or on none. -/
theorem Change.added_key {key : String} (h : Change q r) (hfocus : q.focus = some key) :
    ∃ added, r.filters = q.filters ++ added ∧
      ∀ f ∈ added, f.selects = false → ∀ key' ∈ f.key?, key' = key := by
  cases h with
  | refocus => exact ⟨[], (List.append_nil _).symm, nofun⟩
  | select =>
    refine ⟨[_], rfl, fun f hf hselects => ?_⟩
    rw [List.mem_singleton.mp hf] at hselects
    cases hselects
  | narrow hselects hkey =>
    refine ⟨[_], rfl, fun f hf _ key' hkey' => ?_⟩
    rw [List.mem_singleton.mp hf] at hkey'
    exact Option.some.inj ((hkey key' hkey').symm.trans hfocus)

/-- **A property is selected under all spellings of its name.** Two names have one symbol exactly if
they have one normal name. After a property has been selected, however many calls later, another
spelling of it only moves the focus and adds no filter. The filter that the selection adds lets
exactly the pages pass that have a property with the normal name. Every filter on a value that is
added while the property is in focus decides by that same property. -/
theorem selects_under_all_spellings [PatternEngine] (a : String) :
    (∀ b, propertySymbol a = propertySymbol b ↔ normalName a = normalName b) ∧
    (∀ (q r : Query) (b : String), Relation.ReflTransGen Call (q.property a) r →
      normalName b = normalName a →
      (r.property b).filters = r.filters ∧ (r.property b).focus = some (propertySymbol a)) ∧
    (∀ q : Query, propertySymbol a ∉ q.bound →
      ∃ f : Filter, (q.property a).filters = q.filters ++ [f] ∧ f.DecidesBy (normalName a) ∧
        ∀ p : Page, f.accepts p = true ↔
          ∃ entry ∈ p.properties.entries, normalName entry.1 = normalName a) ∧
    ∀ q r : Query, q.focus = some (propertySymbol a) → Call q r →
      ∃ added, r.filters = q.filters ++ added ∧
        ∀ f ∈ added, f.selects = false → f.key?.isSome = true → f.DecidesBy (normalName a) := by
  refine ⟨fun b => propertySymbol_eq_iff, fun q r b hcalls hb => ?_, fun q hbound => ?_,
    fun q r hfocus hcall => ?_⟩
  · have hsymbol : propertySymbol b = propertySymbol a := propertySymbol_eq_iff.mpr hb
    have hmem : propertySymbol b ∈ r.bound :=
      hsymbol ▸ bound_subset_of_calls hcalls (bound_property q a)
    rw [property_of_bound hmem, hsymbol]
    exact ⟨rfl, rfl⟩
  · refine ⟨.property (propertySymbol a), by rw [property_of_not_bound hbound], ?_, fun p => ?_⟩
    · have hdecides := Filter.decidesBy_of_key? (f := .property (propertySymbol a)) rfl
      rwa [normalName_propertySymbol] at hdecides
    · show (Filter.propertyOf? p (propertySymbol a)).isSome = true ↔ _
      rw [Filter.propertyOf?_propertySymbol, Filter.isSome_propertyOf?_iff]
  · obtain ⟨added, hfilters, hkeys⟩ := hcall.change.added_key hfocus
    refine ⟨added, hfilters, fun f hf hselects hsome => ?_⟩
    obtain ⟨key, hkey⟩ := Option.isSome_iff_exists.mp hsome
    have hdecides := Filter.decidesBy_of_key? hkey
    rwa [hkeys f hf hselects key hkey, normalName_propertySymbol] at hdecides

/-- The property `Due-Date`, a filter on its value, and the property under another spelling. -/
theorem selects_due_date :
    ∃ r, (pages.property "Due-Date").nonEmptyValue = .ok r ∧
      (r.property " due_date ").filters = r.filters ∧
      ∃ f, r.filters = [.property "due-date", f] ∧ f.DecidesBy "due_date" := by
  let q := pages.property "Due-Date"
  have hfocus : q.focus = some (propertySymbol "Due-Date") := rfl
  have hvalue : q.nonEmptyValue = .ok (q.add (.nonEmpty (propertySymbol "Due-Date"))) := by
    rw [nonEmptyValue, focused, hfocus]
    rfl
  have hsymbol : propertySymbol "Due-Date" = "due-date" := by decide +kernel
  have hname : normalName "Due-Date" = "due_date" := by decide +kernel
  have hcall := Call.nonEmptyValue hvalue
  obtain ⟨-, hspelling, -, hdecides⟩ := selects_under_all_spellings "Due-Date"
  obtain ⟨added, hadded, hall⟩ := hdecides q _ hfocus hcall
  have hfilter : Filter.nonEmpty (propertySymbol "Due-Date") ∈ added := by
    rw [← List.append_cancel_left hadded]
    exact List.mem_singleton_self _
  refine ⟨_, hvalue, (hspelling pages _ " due_date " (.single hcall) (by decide +kernel)).1, _,
    by rw [← hsymbol]; rfl, ?_⟩
  have hdecided := hall _ hfilter rfl rfl
  rwa [hname] at hdecided

end Query

end Stencil
