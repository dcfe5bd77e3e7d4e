import Stencil.Proofs.Decimal.Numeral
import Stencil.Proofs.Query.Symbols

/-!
# Which queries have a well-formed text

Texts, patterns and names of references are quoted in the text of a query, but the name of a
property is spliced in as it is. A query is therefore as well formed as the names of its properties
are.

* `Query.WellFormed`: the text of a query and each of its clauses is balanced, and its literals are
  the texts that the filters hold.
* `Query.text_eq`: the text is the preamble, the clauses and a bracket.
* `Filter.reads_clause`: a clause is balanced when the name of its property is.
* `reads_key_of_reads_clause`: the clause that selects a property is balanced only then.
-/

namespace Stencil

/-! ## Symbols -/

theorem reads_repr (n : Nat) : Reads n.repr [] := by
  refine reads_of_other fun c hc => ?_
  rw [Nat.toList_repr] at hc
  exact Sign.ofChar_digit (Decimal.isDigit_of_mem_toDigits hc)

theorem reads_integer (n : Int) : Reads n.repr [] := by
  cases n with
  | ofNat n => exact reads_repr n
  | negSucc n => exact (show Reads "-" [] by decide).append (reads_repr (n + 1))

section Variables

variable {key : String}

theorem reads_keyword (h : Reads key []) : Reads (":" ++ key) [] :=
  (show Reads ":" [] by decide).append h

theorem reads_rawVariable (h : Reads key []) : Reads (rawVariable key) [] :=
  (show Reads "?prop-" [] by decide).append h

theorem reads_textVariable (h : Reads key []) : Reads (textVariable key) [] :=
  (reads_rawVariable h).append (show Reads "-text" [] by decide)

end Variables

namespace Form

theorem literalsAll_map_literal (texts : List String) :
    literalsAll (texts.map .literal) = texts := by
  induction texts with
  | nil => rfl
  | cons text texts ih => rw [List.map_cons, literalsAll, ih, literals, List.singleton_append]

end Form

/-! ## Clauses -/

theorem TextCondition.literalsAll_plainForms (test : TextCondition) (index : Nat)
    (subject : String) : Form.literalsAll (test.plainForms index subject) = [test.text] := by
  obtain ⟨⟨relation, negated⟩, text, pattern⟩ := test
  cases relation <;> rfl

namespace Filter

/-- The texts that a filter holds, in the order in which they are written. -/
def literals : Filter → List String
  | .text _ test => [test.text]
  | .empty _ | .nonEmpty _ => [""]
  | .reference _ _ names => names
  | .property _ | .integer _ _ _ => []

theorem literalsAll_forms (f : Filter) (index : Nat) :
    Form.literalsAll (f.forms index) = f.literals := by
  cases f with
  | text field test =>
    rw [forms, TextCondition.forms]
    split
    · simp only [Form.literalsAll, Form.literals, test.literalsAll_plainForms, literals,
        List.nil_append, List.append_nil]
    · exact test.literalsAll_plainForms index field.variableName
  | property | empty | nonEmpty | integer => rfl
  | reference key op names =>
    cases op <;>
      simp only [forms, Form.bind, Form.test, Form.literalsAll, Form.literals, List.nil_append,
        List.append_nil, Form.literalsAll_map_literal, literals]

theorem reads_symbols (f : Filter) (index : Nat) (h : ∀ key, f.key? = some key → Reads key []) :
    ∀ name ∈ Form.symbolsAll (f.forms index), Reads name [] := by
  have hfixed : ∀ name ∈ fixedSymbols, Reads name [] := by decide
  have hkinds : ∀ kind ∈ ownKinds, Reads kind [] := by decide
  exact f.forall_symbols hfixed index
    (fun kind hkind => (hkinds kind hkind).append (reads_repr index))
    reads_integer fun key hkey =>
      ⟨reads_keyword (h key hkey), reads_rawVariable (h key hkey), reads_textVariable (h key hkey)⟩

/-- A clause is balanced when the property that it concerns has a balanced name. -/
theorem reads_clause (f : Filter) (index : Nat) (h : ∀ key, f.key? = some key → Reads key []) :
    Reads (f.clause index) f.literals := by
  rw [← f.literalsAll_forms index]
  exact Form.readsAll _ (f.reads_symbols index h)

end Filter

namespace Reader

variable {cs rest : List Char} {taken put opened : List Bracket} {literals : List String}
  {r : Reader}

/-- A text that goes on with a closing bracket needs this bracket to be open. -/
theorem run_closes {c : Char} {bracket : Bracket} (hsign : Sign.ofChar c = .closes bracket)
    (h : run ⟨opened, literals, .outside⟩ (c :: rest) = some r) :
    ∃ beneath, opened = bracket :: beneath ∧
      run ⟨beneath, literals, .outside⟩ rest = some r := by
  obtain ⟨next, hstep, hrun⟩ := Option.bind_eq_some_iff.mp h
  cases step_of_eq hstep with
  | closes hcloses =>
    rw [hsign] at hcloses
    exact ⟨_, by rw [Sign.closes.inj hcloses], hrun⟩
  | quote h' | opens h' | other h' => exact nomatch hsign.symm.trans h'

/-- The name of a property in a call and behind it. -/
theorem HasEffect.run_twice (heffect : HasEffect cs taken put)
    (h : run ⟨opened, literals, .outside⟩ (cs ++ ')' :: (" ?prop-".toList ++ (cs ++ rest))) =
      some r) :
    ∃ beneath beneath', opened = taken ++ beneath ∧
      put ++ beneath = .round :: (taken ++ beneath') ∧
      run ⟨put ++ beneath', literals, .outside⟩ rest = some r := by
  rw [run_append] at h
  obtain ⟨first, hfirst, h⟩ := Option.bind_eq_some_iff.mp h
  obtain ⟨beneath, hopened, rfl⟩ := (heffect _ _ _).mp hfirst
  obtain ⟨left, hleft, h⟩ := run_closes (rfl : Sign.ofChar ')' = .closes .round) h
  rw [run_append, (show Reads " ?prop-" [] by decide).run, Option.bind_some, List.append_nil,
    run_append] at h
  obtain ⟨second, hsecond, h⟩ := Option.bind_eq_some_iff.mp h
  obtain ⟨beneath', rfl, rfl⟩ := (heffect _ _ _).mp hsecond
  exact ⟨beneath, beneath', hopened, hleft, h⟩

end Reader

/-- The clause that selects a property. -/
theorem toList_clause_property (key : String) (index : Nat) :
    ((Filter.property key).clause index).toList =
      "[?p :block/properties ?props] [(get ?props :".toList ++
        (key.toList ++ ')' :: (" ?prop-".toList ++ (key.toList ++ ']' ::
        (" [?p :block/properties-text-values ?texts] [(get ?texts :".toList ++
        (key.toList ++ ')' :: (" ?prop-".toList ++
        (key.toList ++ ("-text".toList ++ [']'])))))))) := by
  simp only [Filter.clause, Filter.forms, Form.bind, Form.fact, Form.textAll, Form.text,
    rawVariable, textVariable, List.map_cons, List.map_nil, String.toList_append,
    List.append_assoc]
  rfl

/-- What a name has to do to the brackets that are open around it in the clause of a property: it
would have to take a round bracket away, and later a square one. So it does nothing. -/
theorem effect_eq_nil {taken put b₁ b₂ w b₃ b₄ : List Bracket}
    (hopen₁ : [.round, .square] = taken ++ b₁) (hclose₁ : put ++ b₁ = .round :: (taken ++ b₂))
    (hclose₂ : put ++ b₂ = .square :: w) (hopen₃ : .round :: .square :: w = taken ++ b₃)
    (hclose₃ : put ++ b₃ = .round :: (taken ++ b₄)) (hclose₄ : put ++ b₄ = [.square]) :
    taken = [] ∧ put = [] := by
  have hlengths : taken.length ≤ 1 ∧ put.length = taken.length := by
    have l₁ := congrArg List.length hopen₁
    have l₂ := congrArg List.length hclose₁
    have l₃ := congrArg List.length hclose₂
    have l₄ := congrArg List.length hopen₃
    have l₅ := congrArg List.length hclose₃
    have l₆ := congrArg List.length hclose₄
    simp only [List.length_append, List.length_cons, List.length_nil] at l₁ l₂ l₃ l₄ l₅ l₆
    omega
  cases taken with
  | nil => exact ⟨rfl, List.length_eq_zero_iff.mp hlengths.2⟩
  | cons bracket taken =>
    obtain rfl := List.length_eq_zero_iff.mp (Nat.le_zero.mp (Nat.le_of_succ_le_succ hlengths.1))
    obtain ⟨bracket', rfl⟩ := List.length_eq_one_iff.mp hlengths.2
    obtain ⟨rfl, rfl⟩ := List.cons.inj hopen₁
    exact absurd hclose₁ (by simp)

/-- The clause that selects a property is balanced only when the name of the property is: the name
stands four times in it, and no brackets in it can match those around it each time. -/
theorem reads_key_of_reads_clause {key : String} {index : Nat}
    (h : Reads ((Filter.property key).clause index) []) : Reads key [] := by
  have hquote := (Reader.no_quote_of_run h rfl (Nat.le_refl _)).2
  rw [toList_clause_property] at hquote
  rw [Reads, toList_clause_property, Reader.run_append] at h
  have hkey : ∀ c ∈ key.toList, Sign.ofChar c ≠ .quote := fun c hc =>
    hquote c (List.mem_append_right _ (List.mem_append_left _ hc))
  have hstart : Reader.run ⟨[], [], .outside⟩
      "[?p :block/properties ?props] [(get ?props :".toList =
    some ⟨[.round, .square], [], .outside⟩ := by decide
  have hmiddle : Reader.run ⟨[], [], .outside⟩
      " [?p :block/properties-text-values ?texts] [(get ?texts :".toList =
    some ⟨[.round, .square], [], .outside⟩ := by decide
  rw [hstart, Option.bind_some] at h
  rcases Reader.exists_hasEffect hkey with hnone | ⟨taken, put, heffect⟩
  · rw [Reader.run_append, hnone] at h
    cases h
  -- What is open around each of the four names, and what the next bracket closes.
  obtain ⟨b₁, b₂, hopen₁, hclose₁, h⟩ := heffect.run_twice h
  obtain ⟨w, hclose₂, h⟩ := Reader.run_closes (rfl : Sign.ofChar ']' = .closes .square) h
  rw [Reader.run_append] at h
  have hframed := Reader.run_framed hmiddle w []
  simp only [Reader.framed, List.nil_append, List.cons_append] at hframed
  rw [hframed, Option.bind_some] at h
  obtain ⟨b₃, b₄, hopen₃, hclose₃, h⟩ := heffect.run_twice h
  rw [Reader.run_append, (show Reads "-text" [] by decide).run, Option.bind_some] at h
  obtain ⟨v, hclose₄, h⟩ := Reader.run_closes (rfl : Sign.ofChar ']' = .closes .square) h
  have hv : v = [] := congrArg Reader.opened (Option.some.inj h)
  obtain ⟨rfl, rfl⟩ := effect_eq_nil hopen₁ hclose₁ hclose₂ hopen₃ hclose₃ (hv ▸ hclose₄)
  exact (heffect [] [] _).mpr ⟨[], rfl, rfl⟩

/-! ## The whole text -/

theorem Form.textAll_append {fs gs : List Form} (hfs : fs ≠ []) (hgs : gs ≠ []) :
    textAll (fs ++ gs) = textAll fs ++ " " ++ textAll gs := by
  induction fs with
  | nil => exact absurd rfl hfs
  | cons f fs ih =>
    rw [List.cons_append, textAll_cons f (List.append_ne_nil_of_right_ne_nil fs hgs)]
    by_cases hrest : fs = []
    · rw [hrest, List.nil_append, textAll]
    · rw [ih hrest, textAll_cons f hrest]
      simp only [String.append_assoc]

theorem Filter.forms_ne_nil (f : Filter) (index : Nat) : f.forms index ≠ [] := by
  cases f with
  | text field test =>
    obtain ⟨⟨relation, negated⟩, text, pattern⟩ := test
    cases negated <;> cases relation <;> exact nofun
  | property | empty | nonEmpty | integer => exact nofun
  | reference key op names => cases op <;> exact nofun

namespace Query

/-- What the text of every query begins with. -/
def preamble : String :=
  "[:find (pull ?p [*]) :where [?p :block/name ?name] [?p :block/original-name ?title]"

/-- The clauses of filters that are numbered from an index on, each behind a blank. -/
def clausesFrom (index : Nat) : List Filter → String
  | [] => ""
  | f :: fs => " " ++ f.clause index ++ clausesFrom (index + 1) fs

theorem textAll_append_formsFrom {forms : List Form} (h : forms ≠ []) (index : Nat)
    (fs : List Filter) :
    Form.textAll (forms ++ formsFrom index fs) = Form.textAll forms ++ clausesFrom index fs := by
  induction fs generalizing forms index with
  | nil => rw [formsFrom, List.append_nil, clausesFrom, String.append_empty]
  | cons f fs ih =>
    rw [formsFrom, ← List.append_assoc, ih (List.append_ne_nil_of_left_ne_nil h _),
      Form.textAll_append h (f.forms_ne_nil index), clausesFrom, Filter.clause]
    simp only [String.append_assoc]

theorem text_eq (q : Query) : q.text = preamble ++ clausesFrom 0 q.filters ++ "]" := by
  rw [text, form, Form.text, textAll_append_formsFrom (List.cons_ne_nil _ _), ← String.append_assoc]
  rfl

variable {q : Query}

theorem reads_clausesFrom {fs : List Filter}
    (h : ∀ f ∈ fs, ∀ key, f.key? = some key → Reads key []) (index : Nat) :
    Reads (clausesFrom index fs) (fs.flatMap Filter.literals) := by
  induction fs generalizing index with
  | nil => rfl
  | cons f fs ih =>
    rw [List.forall_mem_cons] at h
    exact (Form.reads_blank.append (f.reads_clause index h.1)).append (ih h.2 (index + 1))

theorem reads_text (h : ∀ f ∈ q.filters, ∀ key, f.key? = some key → Reads key []) :
    Reads q.text (q.filters.flatMap Filter.literals) := by
  rw [text_eq]
  exact (reads_clausesFrom h 0).between .square (by decide) (by decide)

/-- A query with a balanced text: each clause is balanced by itself, and the literals are exactly
the texts that the filters hold. -/
structure WellFormed (q : Query) : Prop where
  whole : Reads q.text (q.filters.flatMap Filter.literals)
  clause : ∀ (index : Nat) (f : Filter), q.filters[index]? = some f →
    Reads (f.clause index) f.literals

/-- The text of a query that was built is its preamble and a clause for each filter, and it is well
formed exactly when the names of all properties that were selected are. -/
theorem Built.wellFormed_iff [PatternEngine] (h : q.Built) :
    q.text = preamble ++ clausesFrom 0 q.filters ++ "]" ∧
      (q.WellFormed ↔ ∀ key ∈ q.bound, Reads key []) := by
  have hbindings := h.bindings
  refine ⟨text_eq q, fun hwell key hkey => ?_, fun hkeys => ?_⟩
  · obtain ⟨index, hindex⟩ := List.mem_iff_getElem?.mp (hbindings.selected key hkey)
    exact reads_key_of_reads_clause (hwell.clause index _ hindex)
  · have hconcerned : ∀ f ∈ q.filters, ∀ key, f.key? = some key → Reads key [] :=
      fun f hf key hkey => hkeys key (hbindings.concerned f hf key hkey)
    exact ⟨reads_text hconcerned, fun index f hf =>
      f.reads_clause index (hconcerned f (List.mem_of_getElem? hf))⟩

/-- A value with a quote and brackets in it stays in its literal. -/
theorem wellFormed_value : ∃ q, (pages.property "status").value "=" "a\"] [(b" = .ok q ∧
    q.Built ∧ (∀ key ∈ q.bound, Reads key []) ∧ q.WellFormed := by
  let q := (pages.property "status").add
    (.text (.property "status") ⟨⟨.equals, false⟩, "a\"] [(b", none⟩)
  have hvalue : (pages.property "status").value "=" "a\"] [(b" = .ok q := rfl
  have hbuilt : q.Built := .call (.call .pages (.property "status")) (.value _ _ hvalue)
  have hkeys : ∀ key ∈ q.bound, Reads key [] := by decide
  exact ⟨q, hvalue, hbuilt, hkeys, hbuilt.wellFormed_iff.2.mpr hkeys⟩

/-- The name of a property can close the clause that it stands in. -/
theorem not_wellFormed_property :
    (pages.property "a]").Built ∧ ¬ (pages.property "a]").WellFormed := by
  refine ⟨.call .pages (.property "a]"), fun hwell => ?_⟩
  have hkey : Reads "a]" [] := reads_key_of_reads_clause (hwell.clause 0 (.property "a]") rfl)
  exact absurd hkey (by decide)

end Query

end Stencil
