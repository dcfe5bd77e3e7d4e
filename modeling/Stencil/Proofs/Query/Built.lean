import Stencil.Proofs.Result
import Stencil.Query.Basic

/-!
# The queries that can be built

A query is built by a chain of calls that begins with all pages.

* `Query.Call` is a call that succeeds, `Query.Built` a query at the end of a chain of them.
* `Query.Change` says all that a call can do to a query; `Query.Call.change` proves it.
* `Query.Built.bindings`: the selected properties are those with a filter that selects them, and
  filters on values concern selected properties only.
-/

namespace Stencil

/-- The property that a filter concerns. -/
def Filter.key? : Filter → Option String
  | .text (.property key) _ => some key
  | .text _ _ => none
  | .property key | .empty key | .nonEmpty key | .integer key _ _ | .reference key _ _ => some key

/-- Whether a filter selects a property. -/
def Filter.selects : Filter → Bool
  | .property _ => true
  | _ => false

namespace Query

variable {q r : Query}

/-- A call on a query that succeeds. -/
inductive Call [PatternEngine] (q : Query) : Query → Prop where
  | title {r : Query} (operator text : String) : q.title operator text = .ok r → Call q r
  | inNamespace {r : Query} (name : String) : q.inNamespace name = .ok r → Call q r
  | directlyInNamespace {r : Query} (name : String) :
    q.directlyInNamespace name = .ok r → Call q r
  | property (name : String) : Call q (q.property name)
  | emptyValue {r : Query} : q.emptyValue = .ok r → Call q r
  | nonEmptyValue {r : Query} : q.nonEmptyValue = .ok r → Call q r
  | integer {r : Query} (operator value : String) : q.integer operator value = .ok r → Call q r
  | value {r : Query} (operator text : String) : q.value operator text = .ok r → Call q r
  | reference {r : Query} (operator : String) (names : List String) :
    q.reference operator names = .ok r → Call q r

/-- A query at the end of a chain of calls. -/
inductive Built [PatternEngine] : Query → Prop where
  | pages : Built pages
  | call {q r : Query} : Built q → Call q r → Built r

/-- All that a call can do. -/
inductive Change (q : Query) : Query → Prop where
  /-- A property that is selected already gets into focus. -/
  | refocus {key : String} : key ∈ q.bound → Change q { q with focus := some key }
  /-- A property is selected. -/
  | select {key : String} : key ∉ q.bound →
    Change q ⟨q.filters ++ [.property key], q.bound ++ [key], some key⟩
  /-- A filter is added that concerns no property or the one in focus. -/
  | narrow {f : Filter} : f.selects = false → (∀ key, f.key? = some key → q.focus = some key) →
    Change q (q.add f)

theorem focused_eq_ok {filter key : String} (h : q.focused filter = .ok key) :
    q.focus = some key := by
  rw [focused] at h
  split at h
  · next heq => rw [heq, Except.ok.inj h]
  · exact nomatch h

/-- A filter on the value of the property in focus. -/
theorem Change.narrow_focused {filter key : String} {f : Filter}
    (hfocus : q.focused filter = .ok key) (hselects : f.selects = false)
    (hkey : f.key? = some key) : Change q (q.add f) := by
  refine .narrow hselects fun key' hkey' => ?_
  rw [focused_eq_ok hfocus, ← hkey, hkey']

theorem searchName_change [PatternEngine] {pattern : List Char}
    (h : q.searchName pattern = .ok r) : Change q r := by
  obtain ⟨test, -, h⟩ := bind_eq_ok_iff.mp h
  exact Except.ok.inj h ▸ .narrow rfl nofun

theorem Call.change [PatternEngine] (h : Call q r) : Change q r := by
  cases h with
  | title operator text h =>
    obtain ⟨op, -, h⟩ := bind_eq_ok_iff.mp h
    obtain ⟨test, -, h⟩ := bind_eq_ok_iff.mp h
    exact Except.ok.inj h ▸ .narrow rfl nofun
  | inNamespace name h | directlyInNamespace name h => exact searchName_change h
  | property name =>
    rw [Query.property]
    dsimp only
    split
    · next hbound => exact .refocus (List.contains_iff_mem.mp hbound)
    · next hbound => exact .select fun hmem => hbound (List.contains_iff_mem.mpr hmem)
  | emptyValue h | nonEmptyValue h =>
    obtain ⟨key, hfocus, h⟩ := bind_eq_ok_iff.mp h
    exact Except.ok.inj h ▸ .narrow_focused hfocus rfl rfl
  | integer operator value h =>
    obtain ⟨key, hfocus, h⟩ := bind_eq_ok_iff.mp h
    obtain ⟨op, -, h⟩ := bind_eq_ok_iff.mp h
    split at h
    · exact Except.ok.inj h ▸ .narrow_focused hfocus rfl rfl
    · exact nomatch h
  | value operator text h =>
    obtain ⟨key, hfocus, h⟩ := bind_eq_ok_iff.mp h
    obtain ⟨op, -, h⟩ := bind_eq_ok_iff.mp h
    obtain ⟨test, -, h⟩ := bind_eq_ok_iff.mp h
    exact Except.ok.inj h ▸ .narrow_focused hfocus rfl rfl
  | reference operator names h =>
    obtain ⟨key, hfocus, h⟩ := bind_eq_ok_iff.mp h
    obtain ⟨op, -, h⟩ := bind_eq_ok_iff.mp h
    exact Except.ok.inj h ▸ .narrow_focused hfocus rfl rfl

/-- How the filters of a query, its selected properties and its focus belong together. -/
structure Bindings (q : Query) : Prop where
  /-- Every selected property has a filter that selects it. -/
  selected : ∀ key ∈ q.bound, Filter.property key ∈ q.filters
  /-- Filters concern selected properties only. -/
  concerned : ∀ f ∈ q.filters, ∀ key, f.key? = some key → key ∈ q.bound
  /-- The property in focus is selected. -/
  focused : ∀ key, q.focus = some key → key ∈ q.bound

theorem Bindings.change (h : Bindings q) (hchange : Change q r) : Bindings r := by
  cases hchange with
  | refocus hkey => exact ⟨h.selected, h.concerned, fun key' heq => Option.some.inj heq ▸ hkey⟩
  | select hkey =>
    refine ⟨fun key' hmem => ?_, fun f hf key' hconcerned => ?_, fun key' heq => ?_⟩
    · rcases List.mem_append.mp hmem with hmem | hmem
      · exact List.mem_append_left _ (h.selected key' hmem)
      · rw [List.mem_singleton.mp hmem]
        exact List.mem_append_right _ (List.mem_singleton_self _)
    · rcases List.mem_append.mp hf with hf | hf
      · exact List.mem_append_left _ (h.concerned f hf key' hconcerned)
      · rw [List.mem_singleton.mp hf] at hconcerned
        exact List.mem_append_right _ (List.mem_singleton.mpr (Option.some.inj hconcerned).symm)
    · exact List.mem_append_right _ (List.mem_singleton.mpr (Option.some.inj heq).symm)
  | narrow hselects hkey =>
    refine ⟨fun key' hmem => List.mem_append_left _ (h.selected key' hmem),
      fun f hf key' hconcerned => ?_, h.focused⟩
    rcases List.mem_append.mp hf with hf | hf
    · exact h.concerned f hf key' hconcerned
    · rw [List.mem_singleton.mp hf] at hconcerned
      exact h.focused key' (hkey key' hconcerned)

theorem Built.bindings [PatternEngine] (h : Built q) : Bindings q := by
  induction h with
  | pages => exact ⟨nofun, nofun, nofun⟩
  | call _ hcall ih => exact ih.change hcall.change

end Query

end Stencil
