import Stencil.Proofs.Query.Built
import Stencil.Proofs.Query.Reader

/-!
# The symbols of filters

The forms of a filter are made of a few fixed symbols, variables that are numbered by the index of
the filter, integers, and what is made from the name of the property that the filter concerns.

* `Filter.forall_symbols`: what holds of all of these holds of all symbols of a filter.
-/

namespace Stencil

namespace Form

theorem symbolsAll_map_literal (texts : List String) : symbolsAll (texts.map .literal) = [] := by
  induction texts with
  | nil => rfl
  | cons text texts ih => rw [List.map_cons, symbolsAll, ih, symbols, List.append_nil]

theorem mem_symbolsAll {name : String} {fs : List Form} :
    name ∈ symbolsAll fs ↔ ∃ f ∈ fs, name ∈ f.symbols := by
  induction fs with
  | nil => simp [symbolsAll]
  | cons f fs ih => simp [symbolsAll, ih]

@[simp]
theorem symbolsAll_append (fs gs : List Form) :
    symbolsAll (fs ++ gs) = symbolsAll fs ++ symbolsAll gs := by
  induction fs with
  | nil => rfl
  | cons f fs ih => rw [List.cons_append, symbolsAll, symbolsAll, ih, List.append_assoc]

end Form

namespace Filter

/-- The symbols that filters are written with whatever they are about. -/
def fixedSymbols : List String :=
  ["?p", "?name", "?title", "?props", "?texts", ":block/properties",
    ":block/properties-text-values", "get", "not", "=", "not=", ">", ">=", "<", "<=",
    "clojure.string/starts-with?", "clojure.string/ends-with?", "clojure.string/includes?",
    "re-pattern", "re-find", "parse-long", "clojure.set/intersection", "not-empty"]

/-- What the variables begin with that are numbered by the index of a filter. -/
def ownKinds : List String := ["?re-", "?int-", "?refs-"]

section Symbols

variable {P : String → Prop} (hfixed : ∀ name ∈ fixedSymbols, P name)
include hfixed

theorem forall_symbols_plainForms (test : TextCondition) (index : Nat) {subject : String}
    (hown : P ("?re-" ++ index.repr)) (hsubject : P subject) :
    ∀ name ∈ Form.symbolsAll (test.plainForms index subject), P name := by
  obtain ⟨⟨relation, negated⟩, text, pattern⟩ := test
  cases relation <;>
    simp only [TextCondition.plainForms, Form.bind, Form.test, Form.symbolsAll, Form.symbols,
      List.append_nil, List.nil_append, List.cons_append, List.forall_mem_cons,
      Nat.toString_eq_repr]
  case equals | startsWith | endsWith | includes =>
    exact ⟨hfixed _ (by decide), hsubject, nofun⟩
  case regex =>
    exact ⟨hfixed _ (by decide), hown, hfixed _ (by decide), hown, hsubject, nofun⟩

/-- What holds of the fixed symbols, of the variables with the index of a filter, of all integers
and of what is made from the name of its property holds of all symbols of the filter. -/
theorem forall_symbols (f : Filter) (index : Nat)
    (hown : ∀ kind ∈ ownKinds, P (kind ++ index.repr)) (hinteger : ∀ n : Int, P n.repr)
    (hkey : ∀ key, f.key? = some key →
      P (":" ++ key) ∧ P (rawVariable key) ∧ P (textVariable key)) :
    ∀ name ∈ Form.symbolsAll (f.forms index), P name := by
  cases f with
  | text field test =>
    have hfield : P field.variableName := by
      cases field with
      | name | title => exact hfixed _ (by decide)
      | property key => exact (hkey key rfl).2.2
    have hplain := forall_symbols_plainForms hfixed test index (hown _ (by decide)) hfield
    rw [forms, TextCondition.forms]
    split
    · simp only [Form.symbolsAll, Form.symbols, List.append_nil, List.singleton_append,
        List.forall_mem_cons]
      exact ⟨hfixed _ (by decide), hplain⟩
    · exact hplain
  | property key =>
    obtain ⟨hkeyword, hraw, htext⟩ := hkey key rfl
    simp only [forms, Form.fact, Form.bind, List.map_cons, List.map_nil, Form.symbolsAll,
      Form.symbols, List.append_nil, List.nil_append, List.cons_append, List.forall_mem_cons]
    exact ⟨hfixed _ (by decide), hfixed _ (by decide), hfixed _ (by decide), hfixed _ (by decide),
      hfixed _ (by decide), hkeyword, hraw, hfixed _ (by decide), hfixed _ (by decide),
      hfixed _ (by decide), hfixed _ (by decide), hfixed _ (by decide), hkeyword, htext, nofun⟩
  | empty key | nonEmpty key =>
    simp only [forms, Form.test, Form.symbolsAll, Form.symbols, List.append_nil,
      List.singleton_append, List.forall_mem_cons]
    exact ⟨hfixed _ (by decide), (hkey key rfl).2.2, nofun⟩
  | integer key op value =>
    have hop : P op.name := by cases op <;> exact hfixed _ (by decide)
    simp only [forms, Form.bind, Form.test, Form.symbolsAll, Form.symbols, List.append_nil,
      List.nil_append, List.cons_append, List.forall_mem_cons, Nat.toString_eq_repr]
    exact ⟨hfixed _ (by decide), (hkey key rfl).2.2, hown _ (by decide), hop, hown _ (by decide),
      hinteger value, nofun⟩
  | reference key op names =>
    obtain ⟨-, hraw, -⟩ := hkey key rfl
    cases op <;>
      simp only [forms, Form.bind, Form.test, Form.symbolsAll, Form.symbols, List.append_nil,
        List.nil_append, List.cons_append, List.forall_mem_cons,
        Form.symbolsAll_map_literal, Nat.toString_eq_repr]
    case includes =>
      exact ⟨hfixed _ (by decide), hraw, hown _ (by decide), hfixed _ (by decide),
        hown _ (by decide), nofun⟩
    case includesOnly => exact ⟨hfixed _ (by decide), hraw, nofun⟩

end Symbols

end Filter

end Stencil
