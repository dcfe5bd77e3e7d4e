import Stencil.Entity.Namespace
import Stencil.Proofs.Text.Line

/-!
# The parts of a page name

A page name with slashes is the path of its parts. The pages above it are named by paths of fewer
parts, so that each of them has the first parts of the name for its own.

* `IsPart` is what can stand between two slashes: `isPart_of_mem_partsOf` says so of the parts of a
  name, and `partsOf_join` that such parts are found again once they are joined.
* `getElem?_ancestorsOf`, `getLast?_ancestorsOf` and `ancestorsOf_take` are the laws of the pages
  above.
* `IsPathOf` says what a namespace tells of its name, and `isPathOf_of_ofName?` that the one found
  for a name tells it.
* `namespaces_decompose`: every name with a slash in it has a namespace, and so has every page above
  it but the outermost.
-/

namespace Stencil.Namespace

open Text

/-! ## Parts -/

section Parts

variable {name part : List Char} {parts : List (List Char)}

/-- Whether a text can stand between two slashes: it has no slash in it and no blank at its ends. -/
structure IsPart (part : List Char) : Prop where
  slash_notMem : '/' ∉ part
  trim_eq : trim part = part

theorem isPart_of_mem_partsOf (h : part ∈ partsOf name) : IsPart part := by
  obtain ⟨piece, hpiece, rfl⟩ := List.mem_map.mp h
  obtain ⟨before, after, heq, -, -⟩ := exists_eq_trim piece
  refine ⟨fun hslash => ?_, trim_trim piece⟩
  have hmem : '/' ∈ piece := by
    rw [heq]
    simp [hslash]
  simpa using of_mem_splitWhere hpiece hmem

/-- Parts are found again once they are joined. -/
theorem partsOf_join (hne : parts ≠ []) (h : ∀ part ∈ parts, IsPart part) :
    partsOf (join parts) = parts := by
  have htrim : parts.map trim = parts.map id :=
    List.map_congr_left fun part hpart => (h part hpart).trim_eq
  rw [partsOf, join, splitWhere_joinWith hne fun part hpart => (h part hpart).slash_notMem, htrim,
    List.map_id]

theorem two_le_length_partsOf (h : '/' ∈ name) : 2 ≤ (partsOf name).length := by
  obtain ⟨before, after, rfl⟩ := List.append_of_mem h
  have hbefore := List.length_pos_of_ne_nil (splitWhere_ne_nil (· = '/') before)
  have hafter := List.length_pos_of_ne_nil (splitWhere_ne_nil (· = '/') after)
  rw [partsOf, splitWhere_append_cons (decide_eq_true rfl), List.length_map, List.length_append]
  omega

/-- Two parts have a slash between them. -/
theorem slash_mem_join (h : 2 ≤ parts.length) : '/' ∈ join parts := by
  match parts, h with
  | first :: second :: rest, _ => simp [join, joinWith]

/-- One part has no slash in it. -/
theorem slash_notMem_join_take (h : ∀ part ∈ parts, IsPart part) : '/' ∉ join (parts.take 1) := by
  cases parts with
  | nil => simp [join, joinWith]
  | cons first rest => simpa [join, joinWith] using (h first List.mem_cons_self).slash_notMem

/-! ## The pages above -/

theorem length_ancestorsOf (parts : List (List Char)) :
    (ancestorsOf parts).length = parts.length - 1 := by
  simp [ancestorsOf]

theorem getElem?_ancestorsOf {i : Nat} (h : i + 1 < parts.length) :
    (ancestorsOf parts)[i]? = some (join (parts.take (i + 1))) := by
  have hrange : i < parts.length - 1 := by omega
  simp [ancestorsOf, hrange]

theorem getLast?_ancestorsOf (h : 2 ≤ parts.length) :
    (ancestorsOf parts).getLast? = some (join parts.dropLast) := by
  have hlast : parts.length - 2 + 1 < parts.length := by omega
  rw [List.getLast?_eq_getElem?, length_ancestorsOf, Nat.sub_sub, getElem?_ancestorsOf hlast,
    List.dropLast_eq_take]
  congr 3
  omega

/-- The pages above a page on the way are the first ones of those above the name. -/
theorem ancestorsOf_take {k : Nat} (h : k ≤ parts.length) :
    ancestorsOf (parts.take k) = (ancestorsOf parts).take (k - 1) := by
  have hrange : min (k - 1) (parts.length - 1) = k - 1 := by omega
  rw [ancestorsOf, ancestorsOf, ← List.map_take, List.take_range, List.length_take_of_le h, hrange]
  refine List.map_congr_left fun i hi => ?_
  have hi := List.mem_range.mp hi
  rw [List.take_take, Nat.min_eq_left (by omega)]

theorem exists_getLast?_of_two_le (h : 2 ≤ parts.length) : ∃ last, parts.getLast? = some last :=
  ⟨_, List.getLast?_eq_some_getLast (List.ne_nil_of_length_pos (by omega))⟩

/-- The parts are joined to the name of the page directly above and the last part. -/
theorem join_dropLast {last : List Char} (h : 2 ≤ parts.length)
    (hlast : parts.getLast? = some last) : join parts.dropLast ++ ['/'] ++ last = join parts := by
  obtain ⟨before, rfl⟩ := List.getLast?_eq_some_iff.mp hlast
  have hbefore : before ≠ [] := by
    rintro rfl
    simp at h
  rw [List.dropLast_concat, join, join, joinWith_concat ['/'] hbefore]

end Parts

/-! ## Namespaces -/

/-- The namespace of some parts. -/
def ofParts (parts : List (List Char)) : Namespace where
  parts := parts.map String.ofList
  parent := String.ofList ((ancestorsOf parts).getLast?.getD [])
  leaf := String.ofList (parts.getLast?.getD [])
  ancestors := (ancestorsOf parts).map String.ofList

theorem ofName?_of_mem {name : String} (h : '/' ∈ name.toList) :
    ofName? name = some (ofParts (partsOf name.toList)) :=
  if_pos (List.contains_iff_mem.mpr h)

theorem ofName?_of_notMem {name : String} (h : '/' ∉ name.toList) : ofName? name = none :=
  if_neg fun hcontains => h (List.contains_iff_mem.mp hcontains)

/-- Joined parts have the namespace of these parts. -/
theorem ofName?_join {parts : List (List Char)} (hlength : 2 ≤ parts.length)
    (h : ∀ part ∈ parts, IsPart part) :
    ofName? (String.ofList (join parts)) = some (ofParts parts) := by
  have hne : parts ≠ [] := List.ne_nil_of_length_pos (by omega)
  rw [ofName?_of_mem (by simpa using slash_mem_join hlength), String.toList_ofList,
    partsOf_join hne h]

theorem ofList_join (parts : List (List Char)) :
    String.ofList (join parts) = "/".intercalate (parts.map String.ofList) := by
  apply String.toList_injective
  simp [join, joinWith_eq_intercalate, Function.comp_def]

/-- The pages above have the joins of the first parts for names. -/
theorem eq_join_of_getElem?_ancestors {parts : List (List Char)} {i : Nat} {ancestor : String}
    (h : (ofParts parts).ancestors[i]? = some ancestor) :
    i + 1 < parts.length ∧ String.ofList (join (parts.take (i + 1))) = ancestor := by
  have hlength := (List.getElem?_eq_some_iff.mp h).1
  rw [ofParts, List.length_map, length_ancestorsOf] at hlength
  have hi : i + 1 < parts.length := by omega
  simp only [ofParts, List.getElem?_map, getElem?_ancestorsOf hi, Option.map_some] at h
  exact ⟨hi, Option.some.inj h⟩

/-- What a namespace tells of its name. -/
structure IsPathOf (n : Namespace) (name : String) : Prop where
  /-- The parts are what stands between the slashes of the name, each trimmed. -/
  parts_eq : ∃ pieces : List String, "/".intercalate pieces = name ∧
    (∀ piece ∈ pieces, '/' ∉ piece.toList) ∧ n.parts = pieces.map trimmed
  slash_notMem : ∀ part ∈ n.parts, '/' ∉ part.toList
  /-- The pages above are named by the first part, by the first two, and so on. -/
  ancestors_eq : n.ancestors =
    (List.range' 1 (n.parts.length - 1)).map fun k => "/".intercalate (n.parts.take k)
  getLast?_ancestors : n.ancestors.getLast? = some n.parent
  parent_leaf : n.parent ++ "/" ++ n.leaf = "/".intercalate n.parts

theorem isPathOf_of_ofName? {name : String} {n : Namespace} (h : ofName? name = some n) :
    n.IsPathOf name := by
  have hslash : '/' ∈ name.toList := by
    by_contra hnone
    rw [ofName?_of_notMem hnone] at h
    cases h
  have hlength := two_le_length_partsOf hslash
  obtain ⟨last, hlast⟩ := exists_getLast?_of_two_le hlength
  rw [ofName?_of_mem hslash, Option.some.injEq] at h
  subst h
  constructor
  case parts_eq =>
    refine ⟨(splitWhere (· = '/') name.toList).map String.ofList, ?_, ?_, ?_⟩
    · rw [← ofList_join, join, joinWith_splitWhere, String.ofList_toList]
    · intro piece hpiece hmem
      obtain ⟨chars, hchars, rfl⟩ := List.mem_map.mp hpiece
      rw [String.toList_ofList] at hmem
      simpa using of_mem_splitWhere hchars hmem
    · simp [ofParts, partsOf, trimmed]
  case slash_notMem =>
    intro part hmem
    obtain ⟨chars, hchars, rfl⟩ := List.mem_map.mp hmem
    rw [String.toList_ofList]
    exact (isPart_of_mem_partsOf hchars).slash_notMem
  case ancestors_eq =>
    simp only [ofParts, ancestorsOf, List.map_map, List.length_map, List.range'_eq_map_range]
    refine List.map_congr_left fun i _ => ?_
    rw [Function.comp_apply, Function.comp_apply, ofList_join, List.map_take, Nat.add_comm]
  case getLast?_ancestors =>
    simp only [ofParts, List.getLast?_map, getLast?_ancestorsOf hlength, Option.map_some,
      Option.getD_some]
  case parent_leaf =>
    simp only [ofParts, getLast?_ancestorsOf hlength, hlast, Option.getD_some]
    rw [← ofList_join, ← join_dropLast hlength hlast, String.ofList_append, String.ofList_append]

/-- **A name with slashes is a path.** It has a namespace, which takes it apart at its slashes. Each
page above it has itself a namespace, of the first parts and with the first of the pages above; only
the outermost one has none. -/
theorem namespaces_decompose {name : String} (h : '/' ∈ name.toList) :
    ∃ n, ofName? name = some n ∧ n.IsPathOf name ∧
      (∀ outermost ∈ n.ancestors.head?, ofName? outermost = none) ∧
      ∀ k ancestor, 2 ≤ k → n.ancestors[k - 1]? = some ancestor →
        ∃ m, ofName? ancestor = some m ∧ m.IsPathOf ancestor ∧ m.parts = n.parts.take k ∧
          m.ancestors = n.ancestors.take (k - 1) := by
  have hname := ofName?_of_mem h
  have hparts : ∀ part ∈ partsOf name.toList, IsPart part := fun _ => isPart_of_mem_partsOf
  refine ⟨_, hname, isPathOf_of_ofName? hname, ?_, ?_⟩
  · intro outermost hfirst
    rw [List.head?_eq_getElem?] at hfirst
    obtain ⟨hlength, rfl⟩ := eq_join_of_getElem?_ancestors hfirst
    refine ofName?_of_notMem ?_
    rw [String.toList_ofList]
    exact slash_notMem_join_take hparts
  · -- The parts are trimmed already, so the page above is taken apart into just those of its name.
    intro k ancestor hk hancestor
    obtain ⟨hlength, rfl⟩ := eq_join_of_getElem?_ancestors hancestor
    rw [Nat.sub_add_cancel (by omega)] at hlength ⊢
    have htake : 2 ≤ ((partsOf name.toList).take k).length := by
      rwa [List.length_take_of_le hlength.le]
    have hpage := ofName?_join htake fun part hpart => hparts part (List.mem_of_mem_take hpart)
    refine ⟨_, hpage, isPathOf_of_ofName? hpage, List.map_take, ?_⟩
    simp only [ofParts, ancestorsOf_take hlength.le, List.map_take]

/-- A name with blanks around its slashes, and with two of them in a row. The page directly above it
ends in a slash, for its last part is empty. -/
theorem namespaces_decompose_doubled_slash :
    '/' ∈ " a / b//c ".toList ∧
      ofName? " a / b//c " = some ⟨["a", "b", "", "c"], "a/b/", "c", ["a", "a/b", "a/b/"]⟩ ∧
      ofName? "a" = none ∧
      ∃ m, ofName? "a/b/" = some m ∧ m.parts = ["a", "b", ""] ∧ m.ancestors = ["a", "a/b"] := by
  have hslash : '/' ∈ " a / b//c ".toList := by decide
  have hname : ofName? " a / b//c " =
      some ⟨["a", "b", "", "c"], "a/b/", "c", ["a", "a/b", "a/b/"]⟩ := by decide
  obtain ⟨n, hn, -, houtermost, habove⟩ := namespaces_decompose hslash
  obtain rfl := Option.some.inj (hname.symm.trans hn)
  obtain ⟨m, hm, -, hparts, hancestors⟩ := habove 3 "a/b/" (by decide) rfl
  exact ⟨hslash, hname, houtermost "a" rfl, m, hm, hparts, hancestors⟩

end Stencil.Namespace
