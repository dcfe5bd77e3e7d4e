import Stencil.Proofs.Decimal.Numeral
import Stencil.Proofs.Query.ReadBack
import Stencil.Proofs.Query.Selection
import Stencil.Proofs.Query.Symbols
import Stencil.Proofs.Text.Trim

/-!
# Which filters bind a variable

Filters share the page and its fields, and bind variables of their own: those numbered by their
index, and the raw and text variables of the property that they select. The text variable of a
property is the raw variable of the one whose name has `-text` behind it.

* `Binds`: a text of forms binds a variable, which stands directly in one of its vectors.
* `Filter.own`: the variables that a filter does not share; `Filter.own_index` says when two filters
  have one of them in common.
* `Query.ofText?_text`: the text of a query reads as its form when the names of its properties are
  parts of symbols.
* `Query.CaptureFree`: every variable that is not shared is bound by one filter only.
-/

namespace Stencil

/-! ## Bound variables -/

namespace Form

/-- Whether a symbol is a variable. -/
def isVariable (name : String) : Bool := name.toList.head? = some '?'

/-- The variable that a form is. -/
def asVariable? : Form → Option String
  | .symbol name => if isVariable name then some name else none
  | _ => none

mutual

/-- The variables that a form binds: those that stand directly in a vector. What stands in a call
is only used, but the clauses in a negation bind as others do. -/
def binds : Form → List String
  | .vector forms => forms.filterMap asVariable? ++ bindsAll forms
  | .call forms => bindsAll forms
  | .symbol _ | .literal _ | .set _ => []

/-- The variables that forms bind. -/
def bindsAll : List Form → List String
  | [] => []
  | f :: fs => binds f ++ bindsAll fs

end

theorem mem_bindsAll {v : String} {fs : List Form} : v ∈ bindsAll fs ↔ ∃ f ∈ fs, v ∈ f.binds := by
  induction fs with
  | nil => simp [bindsAll]
  | cons f fs ih => simp [bindsAll, ih]

@[simp]
theorem bindsAll_append (fs gs : List Form) : bindsAll (fs ++ gs) = bindsAll fs ++ bindsAll gs := by
  induction fs with
  | nil => rfl
  | cons f fs ih => rw [List.cons_append, bindsAll, bindsAll, ih, List.append_assoc]

theorem isVariable_append {name : String} (h : isVariable name = true) (rest : String) :
    isVariable (name ++ rest) = true := by
  rw [isVariable, decide_eq_true_eq] at h ⊢
  rw [String.toList_append, List.head?_append, h, Option.some_or]

theorem binds_bind (call : List Form) {name : String} (h : isVariable name = true) :
    (bind call name).binds = name :: bindsAll call := by
  simp [bind, binds, bindsAll, List.filterMap_cons, asVariable?, h]

theorem binds_test (call : List Form) : (test call).binds = bindsAll call := by
  simp [test, binds, bindsAll, asVariable?]

theorem binds_fact (names : List String) : (fact names).binds = names.filter isVariable := by
  induction names with
  | nil => rfl
  | cons name names ih =>
    rw [fact, binds] at ih ⊢
    rw [List.map_cons, bindsAll, binds, List.nil_append]
    cases hname : isVariable name with
    | true =>
      have hsome : asVariable? (.symbol name) = some name := if_pos hname
      rw [List.filterMap_cons_some hsome, List.filter_cons_of_pos hname, List.cons_append, ih]
    | false =>
      have hnone : asVariable? (.symbol name) = none := by rw [asVariable?, hname]; rfl
      rw [List.filterMap_cons_none hnone, List.filter_cons_of_neg (ne_true_of_eq_false hname), ih]

end Form

/-- Whether a text of forms binds a variable. -/
def Binds (text v : String) : Prop :=
  ∃ forms, Form.ofText? text = some forms ∧ v ∈ Form.bindsAll forms

/-- The variables that filters share. -/
def sharedVariables : List String := ["?p", "?name", "?title", "?props", "?texts"]

namespace Filter

/-- The variables that a filter binds and does not share. -/
def own (index : Nat) : Filter → List String
  | .text _ test => if test.operator.relation = .regex then ["?re-" ++ index.repr] else []
  | .property key => [rawVariable key, textVariable key]
  | .integer _ _ _ => ["?int-" ++ index.repr]
  | .reference _ .includes _ => ["?refs-" ++ index.repr]
  | .reference _ .includesOnly _ | .empty _ | .nonEmpty _ => []

/-- The clauses of a filter are no variables themselves. -/
theorem asVariable?_forms (f : Filter) (index : Nat) :
    ∀ form ∈ f.forms index, form.asVariable? = none := by
  have hnil : (f.forms index).filterMap Form.asVariable? = [] := by
    cases f with
    | text field test =>
      obtain ⟨⟨relation, negated⟩, text, pattern⟩ := test
      cases negated <;> cases relation <;> rfl
    | property | empty | nonEmpty | integer => rfl
    | reference key op names => cases op <;> rfl
  exact List.filterMap_eq_nil_iff.mp hnil

theorem bindsAll_plainForms (test : TextCondition) (index : Nat) (subject : String) :
    Form.bindsAll (test.plainForms index subject) =
      if test.operator.relation = .regex then ["?re-" ++ index.repr] else [] := by
  have hown : Form.isVariable ("?re-" ++ index.repr) = true :=
    Form.isVariable_append (by decide) index.repr
  obtain ⟨⟨relation, negated⟩, text, pattern⟩ := test
  cases relation <;>
    simp only [TextCondition.plainForms, Form.bindsAll, Form.binds_test, Form.binds,
      Nat.toString_eq_repr, Form.binds_bind _ hown] <;> rfl

/-- A filter binds its own variables and shared ones. -/
theorem mem_bindsAll_forms (f : Filter) (index : Nat) {v : String} (hv : v ∉ sharedVariables) :
    v ∈ Form.bindsAll (f.forms index) ↔ v ∈ f.own index := by
  cases f with
  | text field test =>
    rw [forms, TextCondition.forms, own]
    split
    · simp only [Form.bindsAll, Form.binds, bindsAll_plainForms, List.nil_append, List.append_nil]
    · rw [bindsAll_plainForms]
  | property key =>
    have hraw : Form.isVariable (rawVariable key) = true := Form.isVariable_append (by decide) key
    have htext : Form.isVariable (textVariable key) = true := Form.isVariable_append hraw "-text"
    have hfacts :
        ["?p", ":block/properties", "?props"].filter Form.isVariable = ["?p", "?props"] ∧
      ["?p", ":block/properties-text-values", "?texts"].filter Form.isVariable =
        ["?p", "?texts"] := by decide
    simp only [sharedVariables, List.mem_cons, List.not_mem_nil, or_false, not_or] at hv
    simp [forms, own, Form.bindsAll, Form.binds, Form.binds_fact, Form.binds_bind _ hraw,
      Form.binds_bind _ htext, hfacts, hv]
  | empty | nonEmpty => simp [forms, own, Form.bindsAll, Form.binds, Form.binds_test]
  | integer key op value =>
    have hown : Form.isVariable ("?int-" ++ index.repr) = true :=
      Form.isVariable_append (by decide) index.repr
    simp [forms, own, Form.bindsAll, Form.binds, Form.binds_test, Form.binds_bind _ hown]
  | reference key op names =>
    have hown : Form.isVariable ("?refs-" ++ index.repr) = true :=
      Form.isVariable_append (by decide) index.repr
    cases op <;>
      simp [forms, own, Form.bindsAll, Form.binds, Form.binds_test, Form.binds_bind _ hown]

theorem mem_own_property {key v : String} :
    v ∈ [rawVariable key, textVariable key] ↔ v = rawVariable key ∨ v = textVariable key := by
  rw [List.mem_cons, List.mem_singleton]

/-- The variables of a filter are numbered by its index or made from the property that it
selects. -/
theorem own_cases {f : Filter} {index : Nat} {v : String} (h : v ∈ f.own index) :
    (∃ kind ∈ ownKinds, v = kind ++ index.repr) ∨
      ∃ key, f = .property key ∧ (v = rawVariable key ∨ v = textVariable key) := by
  cases f with
  | text field test =>
    rw [own] at h
    split at h
    · exact .inl ⟨"?re-", by decide, List.mem_singleton.mp h⟩
    · exact nomatch h
  | property key => exact .inr ⟨key, rfl, mem_own_property.mp h⟩
  | empty | nonEmpty => exact nomatch h
  | integer key op value => exact .inl ⟨"?int-", by decide, List.mem_singleton.mp h⟩
  | reference key op names =>
    cases op with
    | includes => exact .inl ⟨"?refs-", by decide, List.mem_singleton.mp h⟩
    | includesOnly => exact nomatch h

end Filter

/-! ## Variables in common -/

section Names

variable {key key' : String}

theorem rawVariable_inj : rawVariable key = rawVariable key' ↔ key = key' :=
  String.append_right_inj "?prop-"

theorem textVariable_inj : textVariable key = textVariable key' ↔ key = key' := by
  rw [textVariable, textVariable, String.append_left_inj, String.append_right_inj]

theorem textVariable_eq (key : String) : textVariable key = rawVariable (key ++ "-text") :=
  String.append_assoc

/-- The raw variable of one property is the text variable of another exactly when its name is that
of the other with `-text` behind it. -/
theorem rawVariable_eq_textVariable_iff :
    rawVariable key = textVariable key' ↔ key = key' ++ "-text" := by
  rw [textVariable_eq, rawVariable_inj]

theorem ne_append_text (key : String) : key ≠ key ++ "-text" := fun h => by
  have hlength := congrArg String.length h
  have htext : "-text".length = 5 := rfl
  rw [String.length_append] at hlength
  omega

/-- Of two beginnings of one text, one begins with the other. -/
theorem prefix_of_append_eq {s s' t t' : String} (h : s ++ t = s' ++ t') :
    s.toList <+: s'.toList ∨ s'.toList <+: s.toList := by
  have hchars := congrArg String.toList h
  rw [String.toList_append, String.toList_append] at hchars
  exact List.prefix_or_prefix_of_prefix ⟨_, rfl⟩ ⟨_, hchars.symm⟩

/-- No numbered variable is made from a property. -/
theorem own_ne_property {kind : String} (hkind : kind ∈ Filter.ownKinds) (rest rest' : String) :
    kind ++ rest ≠ "?prop-" ++ rest' := by
  have hapart : ∀ kind ∈ Filter.ownKinds,
      ¬ kind.toList <+: "?prop-".toList ∧ ¬ "?prop-".toList <+: kind.toList := by decide
  exact fun h => (prefix_of_append_eq h).elim (hapart kind hkind).1 (hapart kind hkind).2

theorem own_not_mem_property {kind : String} (hkind : kind ∈ Filter.ownKinds) (index : Nat)
    (key : String) : kind ++ index.repr ∉ [rawVariable key, textVariable key] := by
  rw [textVariable_eq, List.mem_cons, List.mem_singleton]
  exact not_or.mpr ⟨own_ne_property hkind _ key, own_ne_property hkind _ (key ++ "-text")⟩

/-- A numbered variable tells its index. -/
theorem own_index {kind kind' : String} (hkind : kind ∈ Filter.ownKinds)
    (hkind' : kind' ∈ Filter.ownKinds) {i j : Nat} (h : kind ++ i.repr = kind' ++ j.repr) :
    i = j := by
  have hapart : ∀ kind ∈ Filter.ownKinds, ∀ kind' ∈ Filter.ownKinds,
      kind.toList <+: kind'.toList → kind = kind' := by decide
  have heq : kind = kind' := by
    rcases prefix_of_append_eq h with hpre | hpre
    · exact hapart kind hkind kind' hkind' hpre
    · exact (hapart kind' hkind' kind hkind hpre).symm
  rw [heq, String.append_right_inj] at h
  exact Nat.repr_inj.mp h

/-- Filters with a variable in common have the same index, or they select properties of which one is
the other or the other with `-text` behind it. -/
theorem own_common {f g : Filter} {i j : Nat} {v : String} (hf : v ∈ f.own i) (hg : v ∈ g.own j) :
    i = j ∨ ∃ key key', f = .property key ∧ g = .property key' ∧
      (key = key' ∨ key = key' ++ "-text" ∨ key' = key ++ "-text") := by
  rcases Filter.own_cases hf with ⟨kind, hkind, hv⟩ | ⟨key, hkey, hv⟩ <;>
    rcases Filter.own_cases hg with ⟨kind', hkind', hv'⟩ | ⟨key', hkey', hv'⟩
  · exact .inl (own_index hkind hkind' (hv.symm.trans hv'))
  · exact (own_not_mem_property hkind i key' (hv ▸ Filter.mem_own_property.mpr hv')).elim
  · exact (own_not_mem_property hkind' j key (hv' ▸ Filter.mem_own_property.mpr hv)).elim
  · refine .inr ⟨key, key', hkey, hkey', ?_⟩
    rcases hv with hv | hv <;> rcases hv' with hv' | hv' <;> have heq := hv.symm.trans hv'
    · exact .inl (rawVariable_inj.mp heq)
    · exact .inr (.inl (rawVariable_eq_textVariable_iff.mp heq))
    · exact .inr (.inr (rawVariable_eq_textVariable_iff.mp heq.symm))
    · exact .inl (textVariable_inj.mp heq)

/-- No variable that is made from a property is shared. -/
theorem not_mem_sharedVariables (rest : String) : "?prop-" ++ rest ∉ sharedVariables := by
  have hshared : ∀ name ∈ sharedVariables, ¬ "?prop-".toList <+: name.toList := by decide
  exact fun hmem => hshared _ hmem ⟨rest.toList, (String.toList_append).symm⟩

end Names

/-! ## The text of a query -/

/-- A text that reads as one form or several binds what they bind. -/
theorem binds_iff {text v : String} {forms : List Form} (h : Form.ofText? text = some forms) :
    Binds text v ↔ v ∈ Form.bindsAll forms := by
  constructor
  · rintro ⟨forms', hforms', hv⟩
    rw [h] at hforms'
    exact Option.some.inj hforms' ▸ hv
  · exact fun hv => ⟨forms, h, hv⟩

/-- Whether a name can stand in a symbol. -/
def IsSymbolPart (name : String) : Prop := name.toList.all Form.isSymbolChar = true

instance (name : String) : Decidable (IsSymbolPart name) := instDecidableEqBool _ _

theorem Filter.isSymbol_symbols (f : Filter) (index : Nat)
    (h : ∀ key, f.key? = some key → IsSymbolPart key) :
    ∀ name ∈ Form.symbolsAll (f.forms index), Form.isSymbol name = true := by
  have hfixed : ∀ name ∈ fixedSymbols, Form.isSymbol name = true := by decide
  have hkinds : ∀ kind ∈ ownKinds, Form.isSymbol kind = true := by decide
  refine f.forall_symbols hfixed index
    (fun kind hkind => Form.isSymbol_append (hkinds kind hkind) (Form.all_isSymbolChar_repr index))
    Form.isSymbol_integer fun key hkey => ?_
  have hstem : Form.isSymbol "?prop-" = true := by decide
  have hcolon : Form.isSymbol ":" = true := by decide
  have hraw : Form.isSymbol (rawVariable key) = true := Form.isSymbol_append hstem (h key hkey)
  exact ⟨Form.isSymbol_append hcolon (h key hkey), hraw, Form.isSymbol_append hraw (by decide)⟩

theorem Filter.ofText?_clause (f : Filter) (index : Nat)
    (h : ∀ key, f.key? = some key → IsSymbolPart key) :
    Form.ofText? (f.clause index) = some (f.forms index) :=
  Form.ofText?_textAll (f.isSymbol_symbols index h)

namespace Query

variable {q : Query}

theorem mem_formsFrom {form : Form} {index : Nat} {fs : List Filter} :
    form ∈ formsFrom index fs ↔
      ∃ (i : Nat) (f : Filter), fs[i]? = some f ∧ form ∈ f.forms (index + i) := by
  induction fs generalizing index with
  | nil => exact ⟨nofun, fun ⟨_, _, h, _⟩ => nomatch h⟩
  | cons f fs ih =>
    rw [formsFrom, List.mem_append, ih]
    constructor
    · rintro (hform | ⟨i, g, hg, hform⟩)
      · exact ⟨0, f, rfl, hform⟩
      · exact ⟨i + 1, g, hg, by rwa [Nat.add_comm i, ← Nat.add_assoc]⟩
    · rintro ⟨i, g, hg, hform⟩
      cases i with
      | zero => exact .inl (Option.some.inj hg ▸ hform)
      | succ i => exact .inr ⟨i, g, hg, by rwa [Nat.add_assoc, Nat.add_comm 1]⟩

/-- The symbols in front of the clauses of a query. -/
def preambleSymbols : List String :=
  [":find", "pull", "?p", "*", ":where", "?p", ":block/name", "?name", "?p", ":block/original-name",
    "?title"]

/-- A query whose properties have names that can stand in symbols is what its text reads as. -/
theorem ofText?_text (h : ∀ f ∈ q.filters, ∀ key, f.key? = some key → IsSymbolPart key) :
    Form.ofText? q.text = some [q.form] := by
  have hpreamble : ∀ name ∈ preambleSymbols, Form.isSymbol name = true := by decide
  have hsymbols : Form.symbolsAll [q.form] =
      preambleSymbols ++ Form.symbolsAll (formsFrom 0 q.filters) := by
    rw [form, Form.symbolsAll, Form.symbols, Form.symbolsAll_append]
    exact List.append_nil _
  have hall : ∀ name ∈ Form.symbolsAll [q.form], Form.isSymbol name = true := fun name hname => by
    rw [hsymbols] at hname
    rcases List.mem_append.mp hname with hname | hname
    · exact hpreamble name hname
    · obtain ⟨clause, hclause, hname⟩ := Form.mem_symbolsAll.mp hname
      obtain ⟨i, f, hf, hclause⟩ := mem_formsFrom.mp hclause
      exact f.isSymbol_symbols _ (h f (List.mem_of_getElem? hf)) name
        (Form.mem_symbolsAll.mpr ⟨clause, hclause, hname⟩)
  have htext : q.text = Form.textAll [q.form] := by rw [Form.textAll, text]
  rw [htext, Form.ofText?_textAll hall]

/-- A query binds shared variables and what its filters bind as their own. -/
theorem mem_binds_form {v : String} (hv : v ∉ sharedVariables) :
    v ∈ q.form.binds ↔ ∃ (i : Nat) (f : Filter), q.filters[i]? = some f ∧ v ∈ f.own i := by
  have hdirect : (formsFrom 0 q.filters).filterMap Form.asVariable? = [] := by
    refine List.filterMap_eq_nil_iff.mpr fun clause hclause => ?_
    obtain ⟨i, f, -, hclause⟩ := mem_formsFrom.mp hclause
    exact f.asVariable?_forms _ clause hclause
  have hbinds : q.form.binds =
      ["?p", "?name", "?p", "?title"] ++ Form.bindsAll (formsFrom 0 q.filters) := by
    rw [form, Form.binds, List.filterMap_append, hdirect, Form.bindsAll_append]
    rfl
  have hpreamble : ∀ name ∈ ["?p", "?name", "?p", "?title"], name ∈ sharedVariables := by decide
  rw [hbinds, List.mem_append, Form.mem_bindsAll]
  constructor
  · rintro (hmem | ⟨clause, hclause, hmem⟩)
    · exact absurd (hpreamble v hmem) hv
    · obtain ⟨i, f, hf, hclause⟩ := mem_formsFrom.mp hclause
      rw [Nat.zero_add] at hclause
      have hmem := (f.mem_bindsAll_forms i hv).mp (Form.mem_bindsAll.mpr ⟨clause, hclause, hmem⟩)
      exact ⟨i, f, hf, hmem⟩
  · rintro ⟨i, f, hf, hmem⟩
    obtain ⟨clause, hclause, hmem⟩ := Form.mem_bindsAll.mp ((f.mem_bindsAll_forms i hv).mpr hmem)
    exact .inr ⟨clause, mem_formsFrom.mpr ⟨i, f, hf, by rwa [Nat.zero_add]⟩, hmem⟩

/-! ## Capture -/

/-- No variable is captured: one that filters do not share and that the text binds is bound by the
clause of one filter only. -/
def CaptureFree (q : Query) : Prop :=
  ∀ v, Binds q.text v → v ∉ sharedVariables →
    ∃! index, ∃ f : Filter, q.filters[index]? = some f ∧ Binds (f.clause index) v

/-- No property is selected whose name is that of another with `-text` behind it. -/
def NoTextNames (q : Query) : Prop := ∀ key ∈ q.bound, key ++ "-text" ∉ q.bound

instance (q : Query) : Decidable q.NoTextNames := List.decidableBAll _ _

/-- The raw and text variables of the selected properties. -/
def propertyVariables (q : Query) : List String :=
  q.bound.flatMap fun key => [rawVariable key, textVariable key]

theorem Built.isSymbolPart [PatternEngine] (h : q.Built)
    (hkeys : ∀ key ∈ q.bound, IsSymbolPart key) :
    ∀ f ∈ q.filters, ∀ key, f.key? = some key → IsSymbolPart key :=
  fun f hf key hkey => hkeys key (h.bindings.concerned f hf key hkey)

/-- A property is selected by one filter. -/
theorem Built.index_unique [PatternEngine] (h : q.Built) {key : String} {i j : Nat}
    (hi : q.filters[i]? = some (.property key)) (hj : q.filters[j]? = some (.property key)) :
    i = j := by
  obtain ⟨heq, hnodup⟩ := h.selected_eq
  rw [← heq, List.Nodup, List.pairwise_filterMap, List.pairwise_iff_getElem] at hnodup
  obtain ⟨hilt, hi⟩ := List.getElem?_eq_some_iff.mp hi
  obtain ⟨hjlt, hj⟩ := List.getElem?_eq_some_iff.mp hj
  have hselected : ∀ {f : Filter}, f = .property key → f.selected? = some key := fun h => h ▸ rfl
  rcases Nat.lt_trichotomy i j with hlt | heq | hlt
  · exact absurd rfl (hnodup i j hilt hjlt hlt key (hselected hi) key (hselected hj))
  · exact heq
  · exact absurd rfl (hnodup j i hjlt hilt hlt key (hselected hj) key (hselected hi))

/-- The variables of selected properties are pairwise distinct exactly if no name is that of another
with `-text` behind it. -/
theorem Built.nodup_propertyVariables_iff [PatternEngine] (h : q.Built) :
    q.propertyVariables.Nodup ↔ q.NoTextNames := by
  rw [propertyVariables, List.nodup_flatMap]
  constructor
  · rintro ⟨-, hpairs⟩ key hkey htext
    have : Std.Symm (Function.onFun List.Disjoint fun key => [rawVariable key, textVariable key]) :=
      ⟨fun _ _ => List.Disjoint.symm⟩
    have hdisjoint := hpairs.forall hkey htext (ne_append_text key)
    exact hdisjoint (List.mem_cons_of_mem _ (List.mem_singleton_self _))
      (textVariable_eq key ▸ List.mem_cons_self)
  · intro hnames
    refine ⟨fun key _ => ?_, h.selected_eq.2.pairwise_of_forall_ne ?_⟩
    · have hne : rawVariable key ≠ textVariable key :=
        fun heq => ne_append_text key (rawVariable_eq_textVariable_iff.mp heq)
      simp [hne]
    · -- Both lists are the variables of filters that select a property, at whatever index.
      intro key hkey key' hkey' hne v hv hv'
      rcases own_common (f := .property key) (g := .property key') (i := 0) (j := 1) hv hv' with
        hindex | ⟨_, _, ⟨⟩, ⟨⟩, heq | heq | heq⟩
      · exact nomatch hindex
      · exact hne heq
      · exact hnames key' hkey' (heq ▸ hkey)
      · exact hnames key hkey (heq ▸ hkey')

section Readable

variable (hsymbols : ∀ f ∈ q.filters, ∀ key, f.key? = some key → IsSymbolPart key)
include hsymbols

theorem binds_text_iff {v : String} (hv : v ∉ sharedVariables) :
    Binds q.text v ↔ ∃ (i : Nat) (f : Filter), q.filters[i]? = some f ∧ v ∈ f.own i := by
  rw [binds_iff (ofText?_text hsymbols), Form.mem_bindsAll, ← mem_binds_form hv]
  simp

theorem binds_clause_iff {v : String} (hv : v ∉ sharedVariables) {i : Nat} {f : Filter}
    (hf : q.filters[i]? = some f) : Binds (f.clause i) v ↔ v ∈ f.own i := by
  have hkey := hsymbols f (List.mem_of_getElem? hf)
  rw [binds_iff (f.ofText?_clause i hkey), f.mem_bindsAll_forms i hv]

/-- Variables are captured exactly if some name is that of another with `-text` behind it. -/
theorem Built.captureFree_iff_noTextNames [PatternEngine] (h : q.Built) :
    q.CaptureFree ↔ q.NoTextNames := by
  constructor
  · -- The text variable of the one property is the raw variable of the other.
    intro hfree key hkey htext
    obtain ⟨i, hi⟩ := List.mem_iff_getElem?.mp (h.bindings.selected key hkey)
    obtain ⟨j, hj⟩ := List.mem_iff_getElem?.mp (h.bindings.selected _ htext)
    have hshared : textVariable key ∉ sharedVariables :=
      textVariable_eq key ▸ not_mem_sharedVariables _
    have howni : textVariable key ∈ Filter.own i (.property key) :=
      List.mem_cons_of_mem _ (List.mem_singleton_self _)
    have hownj : textVariable key ∈ Filter.own j (.property (key ++ "-text")) :=
      textVariable_eq key ▸ List.mem_cons_self
    obtain ⟨index, -, honly⟩ :=
      hfree _ ((binds_text_iff hsymbols hshared).mpr ⟨i, _, hi, howni⟩) hshared
    have hindex : i = j :=
      (honly i ⟨_, hi, (binds_clause_iff hsymbols hshared hi).mpr howni⟩).trans
        (honly j ⟨_, hj, (binds_clause_iff hsymbols hshared hj).mpr hownj⟩).symm
    rw [hindex, hj] at hi
    exact ne_append_text key (Filter.property.inj (Option.some.inj hi)).symm
  · intro hnames v hv hshared
    obtain ⟨i, f, hf, hown⟩ := (binds_text_iff hsymbols hshared).mp hv
    refine ⟨i, ⟨f, hf, (binds_clause_iff hsymbols hshared hf).mpr hown⟩, ?_⟩
    rintro j ⟨g, hg, hbinds⟩
    rcases own_common ((binds_clause_iff hsymbols hshared hg).mp hbinds) hown with
      hindex | ⟨key, key', rfl, rfl, heq⟩
    · exact hindex
    have hkey := h.bindings.concerned _ (List.mem_of_getElem? hg) key rfl
    have hkey' := h.bindings.concerned _ (List.mem_of_getElem? hf) key' rfl
    rcases heq with heq | heq | heq
    · exact h.index_unique hg (heq ▸ hf)
    · exact absurd (heq ▸ hkey) (hnames key' hkey')
    · exact absurd (heq ▸ hkey') (hnames key hkey)

end Readable

/-- **Variables are captured only through `-text`.** In a query that was built, no variable that is
numbered by a filter is one that is made from a selected property, and these are pairwise distinct
exactly if no selected property has the name of another with `-text` behind it. If the names can
stand in symbols, the text reads as the form of the query, and that is also when each variable that
filters do not share is bound by one of them. -/
theorem Built.captureFree_iff [PatternEngine] (h : q.Built) :
    (∀ kind ∈ Filter.ownKinds, ∀ index : Nat, kind ++ index.repr ∉ q.propertyVariables) ∧
      (q.propertyVariables.Nodup ↔ q.NoTextNames) ∧
      ((∀ key ∈ q.bound, IsSymbolPart key) →
        Form.ofText? q.text = some [q.form] ∧ (q.CaptureFree ↔ q.NoTextNames)) := by
  refine ⟨fun kind hkind index hmem => ?_, h.nodup_propertyVariables_iff, fun hkeys => ?_⟩
  · obtain ⟨key, -, hmem⟩ := List.mem_flatMap.mp hmem
    exact own_not_mem_property hkind index key hmem
  · have hsymbols := h.isSymbolPart hkeys
    exact ⟨ofText?_text hsymbols, h.captureFree_iff_noTextNames hsymbols⟩

/-- Two properties, and a filter that has a variable of its own. -/
theorem captureFree_integer :
    ∃ q, ((pages.property "status").property "text rank").integer ">" "3" = .ok q ∧ q.Built ∧
      q.propertyVariables = ["?prop-status", "?prop-status-text", "?prop-text-rank",
        "?prop-text-rank-text"] ∧
      (∀ key ∈ q.bound, IsSymbolPart key) ∧ q.NoTextNames ∧ q.CaptureFree := by
  let p := (pages.property "status").property "text rank"
  let q := p.add (.integer "text-rank" .greater 3)
  have hfocus : p.focus = some "text-rank" := by decide +kernel
  have hop : IntegerOperator.ofText ">" = .ok .greater := by decide +kernel
  have hvalue : Decimal.readLong? (Text.trim "3".toList) = some 3 := by decide +kernel
  have hinteger : p.integer ">" "3" = .ok q := by
    rw [integer, focused, hfocus, hop, hvalue]
    rfl
  have hbuilt : q.Built :=
    .call (.call (.call .pages (.property "status")) (.property "text rank"))
      (.integer _ _ hinteger)
  have hkeys : ∀ key ∈ q.bound, IsSymbolPart key := by decide +kernel
  have hnames : q.NoTextNames := by decide +kernel
  obtain ⟨-, -, hfree⟩ := hbuilt.captureFree_iff
  exact ⟨q, hinteger, hbuilt, by decide +kernel, hkeys, hnames, (hfree hkeys).2.mpr hnames⟩

/-- The text variable of one property is the raw variable of the next. -/
theorem not_captureFree_property :
    ((pages.property "a").property "a-text").Built ∧
      ¬ ((pages.property "a").property "a-text").CaptureFree := by
  have hbuilt : ((pages.property "a").property "a-text").Built :=
    .call (.call .pages (.property "a")) (.property "a-text")
  have hkeys : ∀ key ∈ ((pages.property "a").property "a-text").bound, IsSymbolPart key := by
    decide +kernel
  have hnames : ¬ ((pages.property "a").property "a-text").NoTextNames := by decide +kernel
  exact ⟨hbuilt, fun hfree =>
    hnames ((hbuilt.captureFree_iff_noTextNames (hbuilt.isSymbolPart hkeys)).mp hfree)⟩

end Query

end Stencil
