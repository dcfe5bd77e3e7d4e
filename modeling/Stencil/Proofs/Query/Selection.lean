import Mathlib.Data.List.Nodup
import Stencil.Graph.Document
import Stencil.Proofs.Pattern.Escaped
import Stencil.Proofs.Query.Built
import Stencil.Proofs.Text.Search

/-!
# Selected properties and selected pages

What a chain of calls makes of the filters of a query, and of the pages that pass them.

* `Query.Change.filters_eq`: a call adds one filter at the end or none.
* `Query.Built.selected_eq`: the filters that select properties select the bound ones, each once.
* `Query.Built.follows`: a filter on a value stands after the filter that selects its property.
* `Query.run_sublist`: a query with more filters finds some of the pages, in the same order.
* `Query.selects_namespaces`: which pages lie below a namespace, and which directly below it. The
  pattern that a namespace is searched for by decides like a comparison of the names as texts,
  whatever characters the namespace contains and whatever lawful engine searches
  (`Query.exists_inNamespace`, `Query.exists_directlyInNamespace`).
-/

namespace Stencil

/-- The property that a filter selects. -/
def Filter.selected? : Filter → Option String
  | .property key => some key
  | _ => none

theorem Filter.selected?_eq_none {f : Filter} (h : f.selects = false) : f.selected? = none := by
  cases f with
  | property key => exact nomatch h
  | _ => rfl

namespace Query

variable {q r : Query}

/-- A call adds one filter at the end or none. -/
theorem Change.filters_eq (h : Change q r) :
    ∃ added : List Filter, added.length ≤ 1 ∧ r.filters = q.filters ++ added := by
  cases h with
  | refocus => exact ⟨[], Nat.zero_le 1, (List.append_nil _).symm⟩
  | @select key => exact ⟨[.property key], Nat.le_refl 1, rfl⟩
  | @narrow f => exact ⟨[f], Nat.le_refl 1, rfl⟩

/-! ## Selected properties -/

/-- The bound properties are those that the filters select, in the order of their selection, and
none is selected twice. -/
theorem Built.selected_eq [PatternEngine] (h : Built q) :
    q.filters.filterMap Filter.selected? = q.bound ∧ q.bound.Nodup := by
  induction h with
  | pages => exact ⟨rfl, List.nodup_nil⟩
  | call _ hcall ih =>
    obtain ⟨heq, hnodup⟩ := ih
    cases hcall.change with
    | refocus => exact ⟨heq, hnodup⟩
    | select hkey =>
      refine ⟨by rw [List.filterMap_append, heq]; rfl, ?_⟩
      exact (List.nodup_append_comm.mpr (List.nodup_cons.mpr ⟨hkey, hnodup⟩))
    | narrow hselects =>
      refine ⟨?_, hnodup⟩
      rw [add, List.filterMap_append, heq,
        List.filterMap_cons_none (Filter.selected?_eq_none hselects), List.filterMap_nil,
        List.append_nil]

/-- A filter on a value stands after the filter that selects its property. -/
theorem Built.follows [PatternEngine] (h : Built q) {i : Nat} {f : Filter} {key : String}
    (hf : q.filters[i]? = some f) (hselects : f.selects = false) (hkey : f.key? = some key) :
    ∃ j < i, q.filters[j]? = some (Filter.property key) := by
  induction h with
  | pages => exact nomatch hf
  | @call q r hbuilt hcall ih =>
    have hbindings := hbuilt.bindings
    obtain ⟨added, -, hfilters⟩ := hcall.change.filters_eq
    rw [hfilters] at hf ⊢
    have hearlier : ∀ j, q.filters[j]? = some (Filter.property key) →
        (q.filters ++ added)[j]? = some (Filter.property key) := fun j hj =>
      (List.getElem?_append_left (List.getElem?_eq_some_iff.mp hj).1).trans hj
    rcases Nat.lt_or_ge i q.filters.length with hi | hi
    · rw [List.getElem?_append_left hi] at hf
      obtain ⟨j, hj, hproperty⟩ := ih hf
      exact ⟨j, hj, hearlier j hproperty⟩
    -- The filter is the one that the last call added.
    have hmem : f ∈ added := by
      rw [List.getElem?_append_right hi] at hf
      exact List.mem_of_getElem? hf
    cases hcall.change with
    | refocus =>
      rw [List.self_eq_append_right.mp hfilters] at hmem
      exact nomatch hmem
    | select =>
      rw [← List.append_cancel_left hfilters, List.mem_singleton] at hmem
      exact nomatch hmem ▸ hselects
    | narrow _ hfocus =>
      rw [← List.append_cancel_left hfilters, List.mem_singleton] at hmem
      have hselected := hbindings.selected key (hbindings.focused key (hfocus key (hmem ▸ hkey)))
      obtain ⟨j, hj⟩ := List.mem_iff_getElem?.mp hselected
      exact ⟨j, Nat.lt_of_lt_of_le (List.getElem?_eq_some_iff.mp hj).1 hi, hearlier j hj⟩

/-- How the filters of a query, its selected properties and its focus belong together, filter by
filter. -/
structure WellBound (q : Query) : Prop where
  /-- The selected properties are those with a filter that selects them. -/
  bound : ∀ key, key ∈ q.bound ↔ Filter.property key ∈ q.filters
  /-- Each has one such filter. -/
  once : ∀ key ∈ q.bound, (q.filters.filterMap Filter.selected?).count key = 1
  /-- The property in focus is selected. -/
  focus : ∀ key, q.focus = some key → key ∈ q.bound
  /-- A filter on the value of a property stands after the filter that selects it. -/
  after : ∀ (i : Nat) (f : Filter) (key : String), q.filters[i]? = some f → f.selects = false →
    f.key? = some key → ∃ j < i, q.filters[j]? = some (Filter.property key)

theorem Built.wellBound [PatternEngine] (h : Built q) : WellBound q where
  bound key := ⟨h.bindings.selected key, fun hf => h.bindings.concerned _ hf key rfl⟩
  once key hkey := by
    obtain ⟨heq, hnodup⟩ := h.selected_eq
    rw [heq]
    exact List.count_eq_one_of_mem hnodup hkey
  focus := h.bindings.focused
  after _ _ _ := h.follows

/-! ## Selected pages -/

theorem run_ofList (q : Query) (pages : List Page) :
    q.run (.ofList pages) = .ok (pages.filter q.accepts) := rfl

/-- With more filters fewer pages pass. -/
theorem filter_accepts_sublist {added : List Filter} (h : r.filters = q.filters ++ added)
    (pages : List Page) : (pages.filter r.accepts).Sublist (pages.filter q.accepts) := by
  have heq : r.accepts = fun p => (added.all fun f => f.accepts p) && q.accepts p := by
    funext p
    rw [accepts, h, List.all_append, Bool.and_comm, accepts]
  rw [heq, ← List.filter_filter]
  exact List.filter_sublist

/-- **Chains of calls bind properties well and only narrow the selection.** In a query that was
built, the bound properties are those that have a filter, which is one for each; the focus is one of
them, and no filter on a value comes before its property. A call that succeeds adds one filter at
the end or none, so of the pages of any graph the longer query finds some, in the same order. -/
theorem Built.wellBound_and_narrows [PatternEngine] (h : Built q) :
    WellBound q ∧ ∀ r, Call q r →
      (∃ added : List Filter, added.length ≤ 1 ∧ r.filters = q.filters ++ added) ∧
      ∀ g : Graph, ∃ found fewer, q.run (.ofList (g.map (·.page))) = .ok found ∧
        r.run (.ofList (g.map (·.page))) = .ok fewer ∧ fewer.Sublist found := by
  refine ⟨h.wellBound, fun r hcall => ?_⟩
  obtain ⟨added, hlength, hfilters⟩ := hcall.change.filters_eq
  exact ⟨⟨added, hlength, hfilters⟩, fun g => ⟨_, _, run_ofList q _, run_ofList r _,
    filter_accepts_sublist hfilters _⟩⟩

/-- A property that is selected again under another spelling gets no second filter. -/
theorem wellBound_reselected :
    ∃ q, ((pages.property "status").property "priority").property "Status" = q ∧ q.Built ∧
      q.bound = ["status", "priority"] ∧ q.focus = some "status" ∧ q.WellBound ∧
      ∃ r, q.emptyValue = .ok r ∧
        ∃ added : List Filter, added.length ≤ 1 ∧ r.filters = q.filters ++ added := by
  let q := ((pages.property "status").property "priority").property "Status"
  have hbuilt : q.Built :=
    .call (.call (.call .pages (.property "status")) (.property "priority")) (.property "Status")
  obtain ⟨hwell, hcalls⟩ := hbuilt.wellBound_and_narrows
  have hfocus : q.focus = some "status" := by decide +kernel
  have hempty : q.emptyValue = .ok (q.add (.empty "status")) := by
    rw [emptyValue, focused, hfocus]
    rfl
  exact ⟨q, rfl, hbuilt, by decide +kernel, hfocus, hwell, _, hempty,
    (hcalls _ (.emptyValue hempty)).1⟩

/-! ## Pages below a namespace -/

section Namespaces

variable {p : Page}

/-- The key of a namespace has no blanks around it and no slashes behind it, and is in lower
case. -/
theorem namespacePath_eq (name : String) :
    namespacePath name = Text.lower ((Text.trim name.toList).rdropWhile (· = '/')) := by
  rw [namespacePath, Text.stripEnd_singleton]

theorem accepts_add_iff {q : Query} {f : Filter} :
    (q.add f).accepts p = true ↔ q.accepts p = true ∧ f.accepts p = true := by
  rw [accepts, add, List.all_append, Bool.and_eq_true, List.all_cons, List.all_nil, Bool.and_true,
    accepts]

/-- A filter by a pattern searches the names of pages for it. -/
theorem exists_searchName [PatternEngine] (q : Query) {pattern : List Char}
    {search : List Char → Bool} (h : PatternEngine.compile pattern = .ok search) :
    ∃ f : Filter, q.searchName pattern = .ok (q.add f) ∧
      ∀ p : Page, f.accepts p = search p.name.toList := by
  refine ⟨.text .name ⟨⟨.regex, false⟩, String.ofList pattern, some search⟩, ?_, fun p => ?_⟩
  · rw [searchName, TextCondition.make, String.toList_ofList, h]
    rfl
  · rw [Filter.accepts, TextCondition.accepts, TextCondition.holds, Option.any_some, Bool.bne_false]

/-- Below a namespace are the pages whose names start with its key and a slash. -/
theorem exists_inNamespace [PatternEngine] [LawfulPatternEngine] (q : Query) (name : String) :
    ∃ below : Filter, q.inNamespace name = .ok (q.add below) ∧
      ∀ p : Page, below.accepts p = true ↔ namespacePath name ++ ['/'] <+: p.name.toList := by
  obtain ⟨search, hcompile, hfound⟩ :=
    LawfulPatternEngine.compile_start (namespacePath name ++ ['/'])
  obtain ⟨below, hadd, haccepts⟩ := q.exists_searchName hcompile
  refine ⟨below, ?_, fun p => ?_⟩
  · rw [inNamespace, ← hadd, LawfulPatternEngine.escape_append, LawfulPatternEngine.escape_slash]
    rfl
  · rw [haccepts, hfound]

/-- Directly below a namespace the slash is followed by one more part, which contains no slash. -/
theorem exists_directlyInNamespace [PatternEngine] [LawfulPatternEngine] (q : Query)
    (name : String) :
    ∃ inside : Filter, q.directlyInNamespace name = .ok (q.add inside) ∧
      ∀ p : Page, inside.accepts p = true ↔
        ∃ rest, p.name.toList = namespacePath name ++ '/' :: rest ∧ rest ≠ [] ∧ '/' ∉ rest := by
  obtain ⟨search, hcompile, hfound⟩ :=
    LawfulPatternEngine.compile_toEnd (namespacePath name ++ ['/'])
  obtain ⟨inside, hadd, haccepts⟩ := q.exists_searchName hcompile
  refine ⟨inside, ?_, fun p => ?_⟩
  · rw [directlyInNamespace, ← hadd, LawfulPatternEngine.escape_append,
      LawfulPatternEngine.escape_slash]
    simp only [List.cons_append, List.append_assoc, List.nil_append]
  · rw [haccepts, hfound]
    simp only [List.append_assoc, List.cons_append, List.nil_append]

/-- **Filters on namespaces select by the start of names.** Below a namespace are the pages whose
names start with its key and a slash; directly below it are those with one more part behind that,
which contains no slash. -/
theorem selects_namespaces (q : Query) (name : String) :
    let key := Text.lower ((Text.trim name.toList).rdropWhile (· = '/'))
    ∃ below inside : Filter,
      q.inNamespace name = .ok (q.add below) ∧ q.directlyInNamespace name = .ok (q.add inside) ∧
      (∀ p : Page, below.accepts p = true ↔ key ++ ['/'] <+: p.name.toList) ∧
      (∀ p : Page, inside.accepts p = true ↔
        ∃ rest, p.name.toList = key ++ '/' :: rest ∧ rest ≠ [] ∧ '/' ∉ rest) ∧
      ∀ pages : List Page,
        (pages.filter (q.add inside).accepts).Sublist (pages.filter (q.add below).accepts) := by
  intro key
  have hkey : namespacePath name = key := namespacePath_eq name
  obtain ⟨below, hbelow, hbelowIff⟩ := q.exists_inNamespace name
  obtain ⟨inside, hinside, hinsideIff⟩ := q.exists_directlyInNamespace name
  rw [hkey] at hbelowIff hinsideIff
  refine ⟨below, inside, hbelow, hinside, hbelowIff, hinsideIff, fun pages => ?_⟩
  refine List.monotone_filter_right pages fun p hp => ?_
  obtain ⟨hq, hin⟩ := accepts_add_iff.mp hp
  obtain ⟨rest, hrest, -, -⟩ := (hinsideIff p).mp hin
  have hstart : key ++ ['/'] <+: p.name.toList :=
    ⟨rest, (hrest.trans (List.append_cons key '/' rest)).symm⟩
  exact accepts_add_iff.mpr ⟨hq, (hbelowIff p).mpr hstart⟩

end Namespaces

end Query

end Stencil
