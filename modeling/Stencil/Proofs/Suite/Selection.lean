import Mathlib.Data.List.DropRight
import Stencil.CommandLine.Run
import Stencil.Proofs.Dictionary

/-!
# Which categories are selected

A request asks for a category if it names it or one above it, slashes around the request aside.

* `Unslashed`: what is left of a text without the slashes around it, which is how a request is read
  (`unslashed_requested`).
* `select_fst`: exactly the categories that some request asks for are selected, with their files.
  Categories are in order, as those that are discovered are (`ordered_ofFiles`).
* `select_concat_snd`: one more request is said to be not found if it adds nothing (`AddsNothing`).
* `select_exactly`: both together. That a request asks for no category at all is something else than
  that it adds nothing, as soon as an earlier request asks for the same
  (`select_snd_eq_missing_iff`).
-/

namespace Stencil.Category

/-! ## Requests -/

/-- Whether one text is what is left of another without the slashes around it. -/
structure Unslashed (cs ds : List Char) : Prop where
  slashes : ∃ before after, (∀ c ∈ before, c = '/') ∧ (∀ c ∈ after, c = '/') ∧
    cs = before ++ ds ++ after
  head : ds.head? ≠ some '/'
  last : ds.getLast? ≠ some '/'

theorem toList_requested (request : String) :
    (requested request).toList =
      (request.toList.dropWhile (· = '/')).rdropWhile (· = '/') := String.toList_ofList

theorem unslashed_requested (request : String) :
    Unslashed request.toList (requested request).toList := by
  rw [toList_requested]
  generalize hrest : request.toList.dropWhile (· = '/') = rest
  have hhead := List.head?_dropWhile_not (fun c : Char => decide (c = '/')) request.toList
  rw [hrest] at hhead
  refine ⟨⟨request.toList.takeWhile (· = '/'), rest.rtakeWhile (· = '/'), ?_, ?_, ?_⟩, ?_, ?_⟩
  · intro c hc
    have hslash := List.mem_takeWhile_imp hc
    exact of_decide_eq_true hslash
  · intro c hc
    have hslash := List.mem_rtakeWhile_imp hc
    exact of_decide_eq_true hslash
  · rw [List.append_assoc, List.rdropWhile_append_rtakeWhile, ← hrest,
      List.takeWhile_append_dropWhile]
  · intro hslash
    obtain ⟨after, hafter⟩ := List.rdropWhile_prefix (fun c : Char => decide (c = '/')) rest
    rw [← hafter, List.head?_append, hslash] at hhead
    exact Bool.noConfusion hhead
  · intro hslash
    have hne : rest.rdropWhile (fun c => decide (c = '/')) ≠ [] := fun hnil => by
      rw [hnil] at hslash
      exact nomatch hslash
    rw [List.getLast?_eq_some_getLast hne, Option.some.injEq] at hslash
    exact List.rdropWhile_last_not _ rest hne (decide_eq_true hslash)

/-- Whether a request asks for a category: it names the category, or one above it. -/
def Asks (request category : String) : Prop :=
  category = requested request ∨ (requested request).toList ++ ['/'] <+: category.toList

theorem isWithin_iff {request category : String} :
    isWithin (requested request) category = true ↔ Asks request category := by
  rw [isWithin, Bool.or_eq_true, decide_eq_true_iff, List.isPrefixOf_iff_prefix, Asks]

instance (request category : String) : Decidable (Asks request category) :=
  decidable_of_iff _ isWithin_iff

/-- Whether one of some requests asks for a category. -/
def isAsked (requests : List String) (category : String) : Bool :=
  requests.any fun request => Asks request category

theorem isAsked_iff {requests : List String} {category : String} :
    isAsked requests category = true ↔ ∃ request ∈ requests, Asks request category := by
  simp [isAsked]

theorem isAsked_concat (requests : List String) (request category : String) :
    isAsked (requests ++ [request]) category =
      (isAsked requests category || decide (Asks request category)) := by
  simp [isAsked]

/-! ## Selection -/

/-- The test files that are found are kept in the order of their categories. -/
theorem ordered_ofFiles (found : List TestFile) : (ofFiles found).Ordered :=
  List.foldlRecOn (motive := Dictionary.Ordered) (sorted found) addFile Dictionary.ordered_empty
    fun _ h _ _ => Dictionary.ordered_insert h _ _

variable {α : Type} {all : Dictionary α}

/-- Adding the categories that are asked for next to some of all categories. -/
theorem addWithin_filter (h : all.Ordered) (request : String) (p : String → Bool) :
    addWithin all (requested request) (all.filter p) =
      all.filter fun category => p category || decide (Asks request category) := by
  have hwithin : (all.entries.filter fun entry => isWithin (requested request) entry.1) =
      (all.filter fun category => decide (Asks request category)).entries :=
    List.filter_congr fun entry _ => by rw [Bool.eq_iff_iff, isWithin_iff, decide_eq_true_iff]
  have hordered := Dictionary.ordered_filter h fun category => decide (Asks request category)
  rw [addWithin, hwithin]
  refine Dictionary.eq_of_get? ?_ (Dictionary.ordered_filter h _) fun category => ?_
  · exact List.foldlRecOn (motive := Dictionary.Ordered) _ _ (Dictionary.ordered_filter h p)
      fun _ hd entry _ => Dictionary.ordered_insert hd entry.1 entry.2
  · rw [Dictionary.get?_foldl_insert _ _ hordered]
    show ((all.filter _).get? category).or _ = _
    rw [Dictionary.get?_filter, Dictionary.get?_filter, Dictionary.get?_filter]
    cases p category <;> by_cases hasks : Asks request category <;> simp [hasks]

/-- Nothing is added exactly if all that is asked for is there. -/
theorem size_filter_or_eq_iff (p q : String → Bool) :
    (all.filter fun category => p category || q category).size = (all.filter p).size ↔
      ∀ category ∈ all.keys, q category = true → p category = true := by
  obtain ⟨entries⟩ := all
  have hsublist : (entries.filter fun entry => p entry.1).Sublist
      (entries.filter fun entry => p entry.1 || q entry.1) :=
    List.monotone_filter_right _ fun entry hp => Bool.or_eq_true_iff.mpr (.inl hp)
  refine eq_comm.trans (hsublist.length_eq.trans ?_)
  rw [Dictionary.keys, List.forall_mem_map]
  constructor
  · intro heq entry hentry hq
    have hmem : entry ∈ entries.filter fun entry => p entry.1 || q entry.1 :=
      List.mem_filter.mpr ⟨hentry, Bool.or_eq_true_iff.mpr (.inr hq)⟩
    rw [← heq] at hmem
    exact (List.mem_filter.mp hmem).2
  · intro hall
    refine List.filter_congr fun entry hentry => ?_
    have hentry := hall entry hentry
    cases hp : p entry.1 <;> cases hq : q entry.1 <;> simp_all

theorem selectInto_append (before after : List String) (selected : Dictionary α) :
    selectInto all (before ++ after) selected =
      let (selected, idle) := selectInto all before selected
      let (final, idle') := selectInto all after selected
      (final, idle ++ idle') := by
  induction before generalizing selected with
  | nil => rfl
  | cons request before ih =>
    rw [List.cons_append, selectInto, ih, selectInto]
    dsimp only
    split <;> rfl

/-- Whether all that a request asks for is asked for by others. -/
def AddsNothing (all : Dictionary α) (requests : List String) (request : String) : Prop :=
  ∀ category ∈ all.keys, Asks request category → ∃ other ∈ requests, Asks other category

instance (requests : List String) (request : String) :
    Decidable (AddsNothing all requests request) :=
  inferInstanceAs (Decidable (∀ category ∈ all.keys, _))

/-- Exactly the categories that are asked for are selected. -/
theorem select_fst (h : all.Ordered) (requests : List String) :
    (select all requests).1 = all.filter (isAsked requests) := by
  induction requests using List.reverseRecOn with
  | nil => exact (congrArg Dictionary.mk (List.filter_eq_nil_iff.mpr (by simp [isAsked]))).symm
  | append_singleton requests request ih =>
    rw [select, selectInto_append]
    show addWithin all (requested request) (select all requests).1 = _
    rw [ih, addWithin_filter h]
    exact congrArg (all.filter ·) (funext fun category => (isAsked_concat ..).symm)

/-- One more request is said to be not found exactly if it adds nothing. -/
theorem select_concat_snd (h : all.Ordered) (requests : List String) (request : String) :
    (select all (requests ++ [request])).2 =
      (select all requests).2 ++
        if AddsNothing all requests request then [requested request] else [] := by
  rw [select, selectInto_append]
  show (select all requests).2 ++ (if (addWithin all (requested request)
    (select all requests).1).size = (select all requests).1.size then [requested request] else [])
      = _
  rw [select_fst h, addWithin_filter h]
  refine congrArg _ (if_congr ?_ rfl rfl)
  simp only [size_filter_or_eq_iff, AddsNothing, isAsked_iff, decide_eq_true_iff]

/-! ## Requests that are not found -/

/-- Whether a request asks for any category. -/
def Finds (all : Dictionary α) (request : String) : Prop :=
  ∃ category ∈ all.keys, Asks request category

instance (request : String) : Decidable (Finds all request) :=
  inferInstanceAs (Decidable (∃ category ∈ all.keys, _))

theorem addsNothing_of_not_finds {requests : List String} {request : String}
    (h : ¬ Finds all request) : AddsNothing all requests request :=
  fun category hcategory hasks => absurd ⟨category, hcategory, hasks⟩ h

/-- The requests that ask for no category, as they are read. -/
def missing (all : Dictionary α) (requests : List String) : List String :=
  (requests.filter fun request => ¬ Finds all request).map requested

theorem missing_concat (requests : List String) (request : String) :
    missing all (requests ++ [request]) =
      missing all requests ++ if Finds all request then [] else [requested request] := by
  rw [missing, missing, List.filter_append, List.map_append]
  by_cases hfinds : Finds all request <;> simp [hfinds]

/-- Whether every request that asks for any category adds one. -/
def AllAdd (all : Dictionary α) (requests : List String) : Prop :=
  ∀ before request after, requests = before ++ request :: after → Finds all request →
    ¬ AddsNothing all before request

theorem allAdd_concat_iff {requests : List String} {request : String} :
    AllAdd all (requests ++ [request]) ↔
      AllAdd all requests ∧ (Finds all request → ¬ AddsNothing all requests request) := by
  constructor
  · intro h
    refine ⟨fun before other after heq => ?_, h requests request [] rfl⟩
    exact h before other (after ++ [request]) (by rw [heq, List.append_assoc, List.cons_append])
  · rintro ⟨hbefore, hlast⟩ before other after heq
    rcases List.eq_nil_or_concat' after with rfl | ⟨after, last, rfl⟩
    · obtain ⟨rfl, hother⟩ := List.append_inj' heq rfl
      exact List.singleton_inj.mp hother ▸ hlast
    · rw [← List.cons_append, ← List.append_assoc] at heq
      exact hbefore before other after (List.append_inj' heq rfl).1

/-- Every request without a category is said to be not found, so that there are no more of these. -/
theorem length_missing_le (h : all.Ordered) (requests : List String) :
    (missing all requests).length ≤ (select all requests).2.length := by
  induction requests using List.reverseRecOn with
  | nil => exact Nat.le_refl 0
  | append_singleton requests request ih =>
    rw [missing_concat, select_concat_snd h, List.length_append, List.length_append]
    refine Nat.add_le_add ih ?_
    split
    · exact Nat.zero_le _
    · next hfinds => rw [if_pos (addsNothing_of_not_finds hfinds)]

theorem select_snd_eq_missing_iff (h : all.Ordered) (requests : List String) :
    (select all requests).2 = missing all requests ↔ AllAdd all requests := by
  induction requests using List.reverseRecOn with
  | nil => exact ⟨fun _ before request after heq => by simp at heq, fun _ => rfl⟩
  | append_singleton requests request ih =>
    rw [allAdd_concat_iff, ← ih, missing_concat, select_concat_snd h]
    have hle := length_missing_le h requests
    by_cases hfinds : Finds all request
    · by_cases hadds : AddsNothing all requests request
      · -- One more is said to be not found than there are.
        rw [if_pos hfinds, if_pos hadds, List.append_nil]
        refine ⟨fun heq => ?_, fun hboth => absurd hadds (hboth.2 hfinds)⟩
        have hlength := congrArg List.length heq
        rw [List.length_append, List.length_singleton] at hlength
        omega
      · rw [if_pos hfinds, if_neg hadds, List.append_nil, List.append_nil]
        exact ⟨fun heq => ⟨heq, fun _ => hadds⟩, And.left⟩
    · rw [if_neg hfinds, if_pos (addsNothing_of_not_finds hfinds), List.append_cancel_right_eq]
      exact ⟨fun heq => ⟨heq, fun hpos => absurd hpos hfinds⟩, And.left⟩

/-- **Exactly the categories that are asked for are selected**, each once with its own files. One
more request is said to be not found exactly if the others ask for all that it asks for. So it is
those without a category that are said to be not found exactly if every other request asks for a
category for which no earlier one does. -/
theorem select_exactly (h : all.Ordered) (requests : List String) :
    (∀ request : String, Unslashed request.toList (requested request).toList) ∧
    (select all requests).1.Ordered ∧
    (∀ category files, (category, files) ∈ (select all requests).1.entries ↔
      (category, files) ∈ all.entries ∧ ∃ request ∈ requests, Asks request category) ∧
    (∀ request, (select all (requests ++ [request])).2 = (select all requests).2 ++
      if AddsNothing all requests request then [requested request] else []) ∧
    ((select all requests).2 = missing all requests ↔ AllAdd all requests) := by
  refine ⟨unslashed_requested, ?_, fun category files => ?_, select_concat_snd h requests,
    select_snd_eq_missing_iff h requests⟩
  · rw [select_fst h]
    exact Dictionary.ordered_filter h _
  · rw [select_fst h, ← isAsked_iff]
    exact List.mem_filter

/-- A request for a category below one that was asked for before. -/
theorem select_exactly_nested :
    let all : Dictionary Nat := .ofList [("a", 1), ("a/b", 2), ("c", 3)]
    all.Ordered ∧ ("a/b", 2) ∈ (select all ["/a/", "d"]).1.entries ∧
      (select all (["/a/", "d"] ++ ["a/b"])).2 = (select all ["/a/", "d"]).2 ++ ["a/b"] := by
  intro all
  have hordered : all.Ordered := Dictionary.ordered_ofList _
  obtain ⟨-, -, hselected, hmore, -⟩ := select_exactly hordered ["/a/", "d"]
  refine ⟨hordered, (hselected _ _).mpr ⟨by decide +kernel, by decide +kernel⟩, ?_⟩
  rw [hmore, if_pos (by decide +kernel)]
  decide +kernel

/-- A category that is asked for twice is there, and yet it is said to be not found. -/
theorem chosen_repeated_request :
    let all : Categories := .ofList [("a", [⟨"cases/a/x.test.md", ["a", "x.test.md"]⟩])]
    Finds all "a" ∧ chosen all ["a", "a"] =
      (all, ["warning: category 'a' not found (available: a)"]) := by
  decide +kernel

end Stencil.Category
