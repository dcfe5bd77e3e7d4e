import Mathlib.Data.List.Induction
import Mathlib.Data.List.Nodup
import Mathlib.Data.String.Basic
import Stencil.Dictionary

/-!
# Ordered dictionaries

* `Dictionary.Ordered`: every key is behind the smaller ones and there only once.
* `ordered_empty`, `ordered_insert`, `ordered_ofList`: no dictionary that is built is otherwise.
* `ofList_entries`: such a dictionary is made again from its entries.
* `eq_of_get?`: dictionaries in order are the same if all look-ups are.
* `get?_ofList`, `get?_filter` and `get?_erase`: what is found in a dictionary of a list, when
  entries are left out and when a key is erased.
* `get?_foldl_insert`: what is found when entries are inserted.
* `erase_ofList`: erasing a key is leaving its entries out.
-/

namespace Stencil.Dictionary

variable {α : Type} {d : Dictionary α}

/-- The keys are in strictly ascending order. -/
def Ordered (d : Dictionary α) : Prop := d.keys.Pairwise (· < ·)

theorem mem_keys_place {key k : String} {a : α} {entries : List (String × α)}
    (h : k ∈ (place key a entries).map (·.1)) : k = key ∨ k ∈ entries.map (·.1) := by
  induction entries with
  | nil => exact .inl (List.mem_singleton.mp h)
  | cons entry rest ih =>
    unfold place at h
    split at h
    · rcases List.mem_cons.mp h with h | h
      · exact .inl h
      · exact .inr (List.mem_cons_of_mem _ h)
    · split at h
      · exact List.mem_cons.mp h
      · rcases List.mem_cons.mp h with h | h
        · exact .inr (h ▸ List.mem_cons_self)
        · exact (ih h).imp_right (List.mem_cons_of_mem _)

theorem pairwise_place {key : String} {a : α} {entries : List (String × α)}
    (h : (entries.map (·.1)).Pairwise (· < ·)) :
    ((place key a entries).map (·.1)).Pairwise (· < ·) := by
  induction entries with
  | nil => exact List.pairwise_singleton _ _
  | cons entry rest ih =>
    obtain ⟨hfirst, hrest⟩ := List.pairwise_cons.mp h
    unfold place
    split
    · next heq => exact List.pairwise_cons.mpr ⟨heq ▸ hfirst, hrest⟩
    · next hne =>
      split
      · next hlt =>
        refine List.pairwise_cons.mpr ⟨fun k hk => ?_, h⟩
        rcases List.mem_cons.mp hk with rfl | hk
        · exact hlt
        · exact lt_trans hlt (hfirst k hk)
      · next hge =>
        refine List.pairwise_cons.mpr ⟨fun k hk => ?_, ih hrest⟩
        rcases mem_keys_place hk with rfl | hk
        · exact lt_of_le_of_ne (not_lt.mp hge) hne
        · exact hfirst k hk

theorem ordered_empty : (empty : Dictionary α).Ordered := List.Pairwise.nil

theorem ordered_insert (h : d.Ordered) (key : String) (a : α) : (d.insert key a).Ordered :=
  pairwise_place h

theorem ordered_ofList (entries : List (String × α)) : (ofList entries).Ordered :=
  List.foldlRecOn (motive := Ordered) entries _ ordered_empty
    fun _ h entry _ => ordered_insert h entry.1 entry.2

/-- A key behind all others goes to the end. -/
theorem place_of_lt {key : String} {a : α} {entries : List (String × α)}
    (h : ∀ k ∈ entries.map (·.1), k < key) : place key a entries = entries ++ [(key, a)] := by
  induction entries with
  | nil => rfl
  | cons entry rest ih =>
    have hlt : entry.1 < key := h _ List.mem_cons_self
    unfold place
    rw [if_neg hlt.ne, if_neg hlt.not_gt, ih fun k hk => h k (List.mem_cons_of_mem _ hk)]
    rfl

theorem foldl_insert_of_pairwise (rest before : List (String × α))
    (h : ((before ++ rest).map (·.1)).Pairwise (· < ·)) :
    rest.foldl (fun d entry => d.insert entry.1 entry.2) (⟨before⟩ : Dictionary α) =
      ⟨before ++ rest⟩ := by
  induction rest generalizing before with
  | nil => simp
  | cons entry rest ih =>
    have hlt : ∀ k ∈ before.map (·.1), k < entry.1 := by
      rw [List.map_append, List.pairwise_append] at h
      exact fun k hk => h.2.2 k hk entry.1 List.mem_cons_self
    rw [List.append_cons] at h
    rw [List.foldl_cons, insert, place_of_lt hlt, ih _ h, List.append_cons before entry rest]

/-- **A dictionary is made again from its entries.** -/
theorem ofList_entries (h : d.Ordered) : ofList d.entries = d :=
  foldl_insert_of_pairwise d.entries [] h

/-! ## Look-ups -/

variable {d' : Dictionary α} {key : String} {a : α}

theorem find?_eq_some_iff {entries : List (String × α)}
    (h : (entries.map (·.1)).Pairwise (· < ·)) :
    find? key entries = some a ↔ (key, a) ∈ entries := by
  induction entries with
  | nil => exact ⟨nofun, nofun⟩
  | cons entry rest ih =>
    obtain ⟨k, b⟩ := entry
    obtain ⟨hfirst, hrest⟩ := List.pairwise_cons.mp h
    rw [find?, List.mem_cons, Prod.mk.injEq]
    split
    · next hk =>
      have hbehind : (key, a) ∉ rest := fun hmem =>
        absurd hk (hfirst key (List.mem_map_of_mem hmem)).ne
      simp [hk, hbehind, eq_comm]
    · next hk =>
      rw [ih hrest]
      simp [Ne.symm hk]

theorem get?_eq_some_iff (h : d.Ordered) : d.get? key = some a ↔ (key, a) ∈ d.entries :=
  find?_eq_some_iff h

/-- **Dictionaries in order are told apart by their look-ups.** -/
theorem eq_of_get? (hd : d.Ordered) (hd' : d'.Ordered) (h : ∀ key, d.get? key = d'.get? key) :
    d = d' := by
  have hmem : ∀ entry, entry ∈ d.entries ↔ entry ∈ d'.entries := fun entry => by
    rw [← get?_eq_some_iff hd, ← get?_eq_some_iff hd', h]
  have hpairs : d.entries.Pairwise (·.1 < ·.1) := List.pairwise_map.mp hd
  have hpairs' : d'.entries.Pairwise (·.1 < ·.1) := List.pairwise_map.mp hd'
  have hperm : d.entries.Perm d'.entries :=
    (List.perm_ext_iff_of_nodup (hd.nodup.of_map _) (hd'.nodup.of_map _)).mpr hmem
  have hentries : d.entries = d'.entries :=
    hperm.eq_of_pairwise (fun _ _ _ _ hlt hgt => absurd hlt hgt.not_gt) hpairs hpairs'
  exact congrArg Dictionary.mk hentries

/-- The dictionary of the entries whose keys pass a test. -/
def filter (p : String → Bool) (d : Dictionary α) : Dictionary α :=
  ⟨d.entries.filter fun entry => p entry.1⟩

theorem ordered_filter (h : d.Ordered) (p : String → Bool) : (d.filter p).Ordered :=
  List.Pairwise.sublist (List.filter_sublist.map _) h

theorem get?_filter (p : String → Bool) (d : Dictionary α) (key : String) :
    (d.filter p).get? key = if p key then d.get? key else none := by
  obtain ⟨entries⟩ := d
  show find? key (entries.filter _) = if p key then find? key entries else none
  induction entries with
  | nil => simp [find?]
  | cons entry rest ih =>
    obtain ⟨k, b⟩ := entry
    rw [List.filter_cons]
    by_cases hk : k = key
    · subst hk
      split
      · rw [find?, find?, if_pos rfl, if_pos rfl]
      · next hp => rw [ih, if_neg hp]
    · rw [find?, if_neg hk]
      split
      · rw [find?, if_neg hk, ih]
      · exact ih

theorem erase_eq_filter (d : Dictionary α) (key : String) :
    d.erase key = d.filter fun other => decide (other ≠ key) := rfl

theorem ordered_erase (h : d.Ordered) (key : String) : (d.erase key).Ordered :=
  erase_eq_filter d key ▸ ordered_filter h _

theorem notMem_keys_erase (d : Dictionary α) (key : String) : key ∉ (d.erase key).keys := by
  intro h
  obtain ⟨entry, hentry, hkey⟩ := List.mem_map.mp h
  exact of_decide_eq_true (List.mem_filter.mp hentry).2 hkey

theorem get?_erase (d : Dictionary α) (key other : String) :
    (d.erase key).get? other = if key = other then none else d.get? other := by
  rw [erase_eq_filter, get?_filter]
  by_cases hkey : key = other
  · simp [hkey]
  · simp [hkey, Ne.symm hkey]

/-- Of entries with different keys that are inserted, the one with the key is found, or else what
was there before. -/
theorem get?_foldl_insert {entries : List (String × α)} (d : Dictionary α) (key : String)
    (h : (entries.map (·.1)).Pairwise (· < ·)) :
    (entries.foldl (fun d entry => d.insert entry.1 entry.2) d).get? key =
      (find? key entries).or (d.get? key) := by
  induction entries generalizing d with
  | nil => rfl
  | cons entry rest ih =>
    obtain ⟨k, a⟩ := entry
    obtain ⟨hfirst, hrest⟩ := List.pairwise_cons.mp h
    rw [List.foldl_cons, ih _ hrest, get?_insert, find?]
    split
    · next hk =>
      have hbehind : find? key rest = none := Option.eq_none_iff_forall_ne_some.mpr fun b hb =>
        absurd hk (hfirst key (List.mem_map_of_mem ((find?_eq_some_iff hrest).mp hb))).ne
      rw [hbehind]
      rfl
    · rfl

/-- Of the entries with a key the last one is found. -/
theorem get?_ofList (entries : List (String × α)) (key : String) :
    (ofList entries).get? key =
      ((entries.filter fun entry => entry.1 = key).getLast?).map (·.2) := by
  induction entries using List.reverseRecOn with
  | nil => rfl
  | append_singleton entries entry ih =>
    have hinsert : ofList (entries ++ [entry]) = (ofList entries).insert entry.1 entry.2 := by
      rw [ofList, List.foldl_append]
      rfl
    rw [hinsert, get?_insert, List.filter_append]
    split
    · next hkey =>
      rw [List.filter_cons_of_pos (by simpa using hkey), List.filter_nil, List.getLast?_concat]
      rfl
    · next hkey =>
      rw [List.filter_cons_of_neg (by simpa using hkey), List.filter_nil, List.append_nil, ih]

/-- **A key is erased by leaving its entries out.** -/
theorem erase_ofList (entries : List (String × α)) (key : String) :
    (ofList entries).erase key = ofList (entries.filter fun entry => entry.1 ≠ key) := by
  refine eq_of_get? (ordered_erase (ordered_ofList entries) key) (ordered_ofList _) fun other => ?_
  rw [get?_erase, get?_ofList, get?_ofList, List.filter_filter]
  by_cases hkey : key = other
  · subst hkey
    simp
  · rw [if_neg hkey]
    congr 2
    refine List.filter_congr fun entry _ => ?_
    by_cases hentry : entry.1 = other
    · simp [hentry, Ne.symm hkey]
    · simp [hentry]

end Stencil.Dictionary
