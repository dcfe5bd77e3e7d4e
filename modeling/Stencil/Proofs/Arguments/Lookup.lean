import Mathlib.Data.List.Basic
import Stencil.Proofs.Arguments
import Stencil.Proofs.Text.Search

/-!
# Looking arguments up

Names and positions are keys of one dictionary. A name has no dollar sign in it and a position
begins with one, so neither can take the place of the other; of several entries with a name the last
one counts.

* `IsNamePosition` and `IsPositionName` are the two forms of a key with a name and a position;
  `nameThenPosition?_eq_some_iff` and `positionThenName?_eq_some_iff`: both are read as such.
* `Gives`: the value that a list of entries gives to a key. `Faithful`: a dictionary holds these
  values and no others; `Faithful.add`: it does so with one more entry.
* `LooksUp` says what is found under any key. `lookup_exactly`: it is so for all arguments.
-/

namespace Stencil.Arguments

/-! ## Keys with a name and a position -/

/-- Whether a text is a run of digits, for a number that fits 64 bits. -/
structure IsPosition (digits : List Char) (n : Nat) : Prop where
  ne_nil : digits ≠ []
  isDigit : ∀ c ∈ digits, c.isDigit = true
  value : Decimal.digitsValue digits = n
  fits : n < 2 ^ 64

/-- Whether a key is a name, a dollar sign and a position. -/
def IsNamePosition (key name : String) (n : Nat) : Prop :=
  name ≠ "" ∧ ∃ digits, IsPosition digits n ∧ key.toList = name.toList ++ '$' :: digits

/-- Whether a key is a dollar sign, a position and a name that does not begin with a digit. -/
def IsPositionName (key : String) (n : Nat) (name : String) : Prop :=
  name ≠ "" ∧ (∀ c ∈ name.toList.head?, c.isDigit = false) ∧
    ∃ digits, IsPosition digits n ∧ key.toList = '$' :: (digits ++ name.toList)

variable {key name : String} {digits : List Char} {n : Nat}

theorem isEmpty_toList (h : name ≠ "") : name.toList.isEmpty = false :=
  List.isEmpty_eq_false_iff.mpr fun hnil => h (String.toList_eq_nil_iff.mp hnil)

theorem exists_cons_toList (h : name ≠ "") : ∃ c cs, name.toList = c :: cs :=
  List.exists_cons_of_ne_nil (List.isEmpty_eq_false_iff.mp (isEmpty_toList h))

theorem position?_eq_some_iff : position? digits = some n ↔ IsPosition digits n := by
  unfold position?
  constructor
  · intro h
    split at h
    · cases h
    · next hdigits =>
      rw [Bool.or_eq_true, not_or] at hdigits
      split at h
      · next hfits =>
        obtain rfl := Option.some.inj h
        refine ⟨fun hnil => hdigits.1 (List.isEmpty_iff.mpr hnil), ?_, rfl, hfits⟩
        simpa using hdigits.2
      · cases h
  · rintro ⟨hne, hall, rfl, hfits⟩
    have hdigits : (digits.isEmpty || !digits.all Char.isDigit) = false := by
      rw [Bool.or_eq_false_iff, Bool.not_eq_false']
      exact ⟨List.isEmpty_eq_false_iff.mpr hne, List.all_eq_true.mpr hall⟩
    rw [hdigits]
    exact if_pos hfits

theorem dollar_notMem (h : ∀ c ∈ digits, c.isDigit = true) : '$' ∉ digits := fun hmem =>
  absurd (h _ hmem) (by decide)

/-- A key is taken apart at its last dollar sign. -/
theorem nameThenPosition?_eq_some_iff :
    nameThenPosition? key.toList = some (name, n) ↔ IsNamePosition key name n := by
  unfold nameThenPosition?
  constructor
  · intro h
    split at h
    · cases h
    · next before digits hcut =>
      split at h
      · cases h
      · next hne =>
        obtain ⟨m, hm, heq⟩ := Option.map_eq_some_iff.mp h
        obtain ⟨rfl, rfl⟩ := Prod.mk.inj heq
        obtain ⟨hkey, -⟩ := Text.cutAtLast?_eq_some_iff.mp hcut
        refine ⟨fun hempty => hne ?_, digits, position?_eq_some_iff.mp hm, ?_⟩
        · exact List.isEmpty_iff.mpr (String.ofList_eq_empty_iff.mp hempty)
        · rw [String.toList_ofList, hkey]
  · rintro ⟨hname, digits, hdigits, hkey⟩
    have hcut : Text.cutAtLast? '$' key.toList = some (name.toList, digits) :=
      Text.cutAtLast?_eq_some_iff.mpr ⟨hkey, dollar_notMem hdigits.isDigit⟩
    simp only [hcut, isEmpty_toList hname, position?_eq_some_iff.mpr hdigits, Option.map_some,
      String.ofList_toList, Bool.false_eq_true, if_false]

/-- A key that begins with a dollar sign is taken apart behind the digits. -/
theorem positionThenName?_eq_some_iff :
    positionThenName? key.toList = some (n, name) ↔ IsPositionName key n name := by
  constructor
  · intro h
    unfold positionThenName? at h
    split at h
    · next rest hkey =>
      dsimp only at h
      split at h
      · cases h
      · next hne =>
        obtain ⟨m, hm, heq⟩ := Option.map_eq_some_iff.mp h
        obtain ⟨rfl, rfl⟩ := Prod.mk.inj heq
        refine ⟨fun hempty => hne ?_, fun c hc => ?_, _, position?_eq_some_iff.mp hm, ?_⟩
        · exact List.isEmpty_iff.mpr (String.ofList_eq_empty_iff.mp hempty)
        · have hhead := List.head?_dropWhile_not Char.isDigit rest
          rw [String.toList_ofList] at hc
          rw [Option.mem_def.mp hc] at hhead
          exact hhead
        · rw [String.toList_ofList, List.takeWhile_append_dropWhile, hkey]
    · cases h
  · rintro ⟨hname, hhead, digits, hdigits, hkey⟩
    obtain ⟨htake, hdrop⟩ := Decimal.scan_append hdigits.isDigit name.toList hhead
    rw [hkey, positionThenName?]
    simp only [htake, hdrop, isEmpty_toList hname, position?_eq_some_iff.mpr hdigits,
      Option.map_some, String.ofList_toList, Bool.false_eq_true, if_false]

/-! ## Positions -/

theorem toList_ordinalName (i : Nat) : (ordinalName i).toList = '$' :: Nat.toDigits 10 i := by
  simp [ordinalName]

theorem ordinalName_inj {i j : Nat} (h : ordinalName i = ordinalName j) : i = j := by
  have hdigits : Nat.toDigits 10 i = Nat.toDigits 10 j := by
    have hlist := congrArg String.toList h
    rw [toList_ordinalName, toList_ordinalName] at hlist
    exact List.tail_eq_of_cons_eq hlist
  rw [← Decimal.digitsValue_toDigits i, hdigits, Decimal.digitsValue_toDigits]

/-- A position alone has no name in front of it or behind it. -/
theorem not_isNamePosition_ordinalName (i : Nat) : ¬ IsNamePosition (ordinalName i) name n := by
  rintro ⟨hname, digits, -, hkey⟩
  obtain ⟨c, cs, hcs⟩ := exists_cons_toList hname
  rw [toList_ordinalName, hcs, List.cons_append] at hkey
  have hmem : '$' ∈ Nat.toDigits 10 i := by
    rw [List.tail_eq_of_cons_eq hkey]
    exact List.mem_append_right _ List.mem_cons_self
  exact dollar_notMem (fun c => Decimal.isDigit_of_mem_toDigits) hmem

theorem not_isPositionName_ordinalName (i : Nat) : ¬ IsPositionName (ordinalName i) n name := by
  rintro ⟨hname, hhead, digits, -, hkey⟩
  obtain ⟨c, cs, hcs⟩ := exists_cons_toList hname
  rw [toList_ordinalName, hcs] at hkey
  have hmem : c ∈ Nat.toDigits 10 i := by
    rw [List.tail_eq_of_cons_eq hkey]
    exact List.mem_append_right _ List.mem_cons_self
  have hdigit := hhead c (by rw [hcs]; rfl)
  rw [Decimal.isDigit_of_mem_toDigits hmem] at hdigit
  cases hdigit

/-! ## Direct entries -/

/-- Whether a list of entries gives a value to a key: the last entry with that name does, and the
entry at that position. -/
inductive Gives (entries : List (Option String × Argument)) : String → Argument → Prop
  | named {before after : List (Option String × Argument)} {name : String} {value : Argument}
      (h : entries = before ++ (some name, value) :: after)
      (hlast : ∀ entry ∈ after, entry.1 ≠ some name) : Gives entries name value
  | positional {i : Nat} {entry : Option String × Argument} (h : entries[i]? = some entry) :
      Gives entries (ordinalName (i + 1)) entry.2

variable {entries : List (Option String × Argument)} {entry : Option String × Argument}
  {value : Argument} {a : Arguments}

/-- Whether no name has a dollar sign in it. -/
def NoDollar (entries : List (Option String × Argument)) : Prop :=
  ∀ entry ∈ entries, ∀ name ∈ entry.1, '$' ∉ name.toList

theorem noDollar_map_readArgument (raw : List String) : NoDollar (raw.map readArgument) := by
  intro entry hentry name hname
  obtain ⟨text, -, rfl⟩ := List.mem_map.mp hentry
  obtain ⟨n, rfl⟩ := exists_argumentName_of_readArgument hname
  exact fun hmem => absurd (n.isArgumentChar _ hmem) (by decide)

/-- A name is no position. -/
theorem ne_ordinalName (h : '$' ∉ name.toList) (i : Nat) : name ≠ ordinalName i := fun heq =>
  h (by rw [heq, toList_ordinalName]; exact List.mem_cons_self)

/-- The value of the entry at a position, counted from one. -/
def entryAt? (entries : List (Option String × Argument)) : Nat → Option Argument
  | 0 => none
  | i + 1 => entries[i]?.map (·.2)

/-- A position has the value of its entry, and only that one. -/
theorem gives_ordinalName_iff (h : NoDollar entries) {i : Nat} :
    Gives entries (ordinalName i) value ↔ entryAt? entries i = some value := by
  constructor
  · intro hgives
    generalize hkey : ordinalName i = key at hgives
    cases hgives with
    | named heq =>
      have hname : '$' ∉ key.toList := h (some key, value) (by rw [heq]; simp) key rfl
      exact absurd hkey.symm (ne_ordinalName hname i)
    | positional hentry =>
      rw [ordinalName_inj hkey, entryAt?, hentry]
      rfl
  · intro hvalue
    cases i with
    | zero => cases hvalue
    | succ i =>
      obtain ⟨entry, hentry, rfl⟩ := Option.map_eq_some_iff.mp hvalue
      exact .positional hentry

/-- An entry of a longer list is the new one, or one of the others with the new one behind it. -/
theorem concat_eq_append_cons {before after : List (Option String × Argument)}
    {e : Option String × Argument} (h : entries ++ [entry] = before ++ e :: after) :
    (after = [] ∧ entry = e) ∨ ∃ rest, after = rest ++ [entry] ∧ entries = before ++ e :: rest := by
  obtain rfl | ⟨rest, last, rfl⟩ := List.eq_nil_or_concat' after
  · exact .inl ⟨rfl, (List.cons.inj (List.append_inj' h rfl).2).1⟩
  · rw [← List.cons_append, ← List.append_assoc] at h
    obtain ⟨hentries, hlast⟩ := List.append_inj' h rfl
    exact .inr ⟨rest, by rw [(List.cons.inj hlast).1], hentries⟩

theorem gives_concat_of_name (h : NoDollar (entries ++ [entry])) (hname : entry.1 = some key) :
    Gives (entries ++ [entry]) key value ↔ entry.2 = value := by
  have hdollar : '$' ∉ key.toList := h entry (by simp) key hname
  constructor
  · intro hgives
    generalize hkey : key = other at hgives
    cases hgives with
    | named heq hlast =>
      obtain ⟨-, rfl⟩ | ⟨rest, rfl, -⟩ := concat_eq_append_cons heq
      · rfl
      · exact absurd (hkey ▸ hname) (hlast entry (by simp))
    | positional => exact absurd hkey (ne_ordinalName hdollar _)
  · rintro rfl
    have hlast : entries ++ [entry] = entries ++ [(some key, entry.2)] := by rw [← hname]
    exact .named hlast nofun

theorem gives_concat_of_other (hposition : key ≠ ordinalName (entries.length + 1))
    (hname : entry.1 ≠ some key) :
    Gives (entries ++ [entry]) key value ↔ Gives entries key value := by
  constructor
  · intro hgives
    generalize hkey : key = other at hgives
    cases hgives with
    | named heq hlast =>
      obtain ⟨-, rfl⟩ | ⟨rest, rfl, hentries⟩ := concat_eq_append_cons heq
      · exact absurd (hkey ▸ rfl) hname
      · exact .named hentries fun e he => hlast e (List.mem_append_left _ he)
    | @positional i e he =>
      rw [List.getElem?_append] at he
      split at he
      · exact .positional he
      · next hlength =>
        have hi : i = entries.length := by
          have hlt := (List.getElem?_eq_some_iff.mp he).1
          rw [List.length_singleton] at hlt
          omega
        exact absurd (hi ▸ hkey) hposition
  · intro hgives
    cases hgives with
    | @named before after _ _ heq hlast =>
      have heq' : entries ++ [entry] = before ++ (some key, value) :: (after ++ [entry]) := by
        rw [heq, List.append_assoc, List.cons_append]
      refine .named heq' fun e he => ?_
      obtain he | he := List.mem_append.mp he
      · exact hlast e he
      · rwa [List.mem_singleton.mp he]
    | positional he =>
      exact .positional (by rw [List.getElem?_append_left (List.getElem?_eq_some_iff.mp he).1, he])

/-- One more entry takes its position and its name, and leaves all other keys. -/
theorem gives_concat_iff (h : NoDollar (entries ++ [entry])) :
    Gives (entries ++ [entry]) key value ↔
      if key = ordinalName (entries.length + 1) ∨ entry.1 = some key then entry.2 = value
      else Gives entries key value := by
  by_cases hposition : key = ordinalName (entries.length + 1)
  · rw [if_pos (.inl hposition), hposition, gives_ordinalName_iff h, entryAt?,
      List.getElem?_concat_length]
    exact Option.some_inj
  by_cases hname : entry.1 = some key
  · rw [if_pos (.inr hname), gives_concat_of_name h hname]
  · rw [if_neg (not_or.mpr ⟨hposition, hname⟩), gives_concat_of_other hposition hname]

theorem get?_add (a : Arguments) (entry : Option String × Argument) (key : String) :
    (a.add entry).keyed.get? key =
      if key = ordinalName (a.entries.length + 1) ∨ entry.1 = some key then some entry.2
      else a.keyed.get? key := by
  obtain ⟨name?, value⟩ := entry
  simp only [add, Dictionary.get?_insert]
  by_cases hposition : ordinalName (a.entries.length + 1) = key
  · rw [if_pos hposition, if_pos (.inl hposition.symm)]
  · rw [if_neg hposition]
    cases name? with
    | none => simp [Ne.symm hposition]
    | some name => simp [Ne.symm hposition, Dictionary.get?_insert]

/-- Whether a dictionary holds the values that the entries give, and no others. -/
structure Faithful (a : Arguments) : Prop where
  noDollar : NoDollar a.entries
  get?_iff : ∀ key value, a.keyed.get? key = some value ↔ Gives a.entries key value

theorem faithful_empty : Faithful empty where
  noDollar := nofun
  get?_iff key value := by
    refine ⟨nofun, fun h => ?_⟩
    cases h with
    | @named before _ _ _ heq =>
      exact absurd heq.symm (List.append_ne_nil_of_right_ne_nil before (List.cons_ne_nil _ _))
    | positional hentry => cases hentry

theorem Faithful.add (h : Faithful a) (hentry : ∀ name ∈ entry.1, '$' ∉ name.toList) :
    Faithful (a.add entry) := by
  have hdollar : NoDollar (a.entries ++ [entry]) := by
    intro e he
    obtain he | he := List.mem_append.mp he
    · exact h.noDollar e he
    · rwa [List.mem_singleton.mp he]
  refine ⟨hdollar, fun key value => ?_⟩
  show _ ↔ Gives (a.entries ++ [entry]) key value
  rw [get?_add, gives_concat_iff hdollar]
  split
  · exact Option.some_inj
  · exact h.get?_iff key value

/-- The arguments of every invocation are found as they were given. -/
theorem faithful_ofRaw (raw : List String) : Faithful (ofRaw raw) :=
  List.foldlRecOn (motive := Faithful) (raw.map readArgument) add faithful_empty
    fun _ h entry hentry => h.add (noDollar_map_readArgument raw entry hentry)

/-! ## Looking up -/

theorem Faithful.get?_ordinalName (h : Faithful a) (i : Nat) :
    a.keyed.get? (ordinalName i) = entryAt? a.entries i := by
  refine Option.ext fun value => ?_
  rw [h.get?_iff, gives_ordinalName_iff h.noDollar]

theorem lookup?_of_direct (h : a.keyed.get? key = some value) : a.lookup? key = some value := by
  rw [lookup?, h]

theorem nameThenPosition?_eq_none (h : ∀ name n, ¬ IsNamePosition key name n) :
    nameThenPosition? key.toList = none :=
  Option.eq_none_iff_forall_ne_some.mpr fun ⟨name, n⟩ hsome =>
    h name n (nameThenPosition?_eq_some_iff.mp hsome)

theorem lookup?_of_not_form (hdirect : a.keyed.get? key = none)
    (hname : ∀ name n, ¬ IsNamePosition key name n)
    (hposition : ∀ n name, ¬ IsPositionName key n name) : a.lookup? key = none := by
  have hnone : positionThenName? key.toList = none :=
    Option.eq_none_iff_forall_ne_some.mpr fun ⟨n, name⟩ hsome =>
      hposition n name (positionThenName?_eq_some_iff.mp hsome)
  simp only [lookup?, hdirect, nameThenPosition?_eq_none hname, hnone]

/-- A position alone is not taken apart. -/
theorem Faithful.lookup?_ordinalName (h : Faithful a) (i : Nat) :
    a.lookup? (ordinalName i) = entryAt? a.entries i := by
  rw [← h.get?_ordinalName i]
  cases hdirect : a.keyed.get? (ordinalName i) with
  | some value => exact lookup?_of_direct hdirect
  | none =>
    exact lookup?_of_not_form hdirect (fun _ _ => not_isNamePosition_ordinalName i)
      fun _ _ => not_isPositionName_ordinalName i

/-- What is found under any key. -/
structure LooksUp (a : Arguments) : Prop where
  /-- A position has the value of its entry; where there is none it is empty. -/
  ordinal_eq : ∀ i, a.ordinal i = (entryAt? a.entries i).getD (.text "")
  get_eq : ∀ i : Nat, a.get ("$" ++ toString i) = (entryAt? a.entries i).getD (.text "")
  /-- Of the entries with a name the last one counts. -/
  lookup?_name : ∀ before name value after, a.entries = before ++ (some name, value) :: after →
    (∀ entry ∈ after, entry.1 ≠ some name) → a.lookup? name = some value
  /-- No name is a position. -/
  name_ne : ∀ entry ∈ a.entries, ∀ name ∈ entry.1, ∀ i : Nat, name ≠ "$" ++ toString i
  /-- The direct entries are those of the names and the positions. -/
  get?_iff : ∀ key value, a.keyed.get? key = some value ↔ Gives a.entries key value
  lookup?_direct : ∀ key value, a.keyed.get? key = some value → a.lookup? key = some value
  /-- A name in front of a position is tried first. -/
  lookup?_namePosition : ∀ key name n, a.keyed.get? key = none → IsNamePosition key name n →
    a.lookup? key = (a.keyed.get? name).or (entryAt? a.entries n)
  /-- Otherwise a position in front of a name is. -/
  lookup?_positionName : ∀ key n name, a.keyed.get? key = none →
    (∀ name n, ¬ IsNamePosition key name n) → IsPositionName key n name →
    a.lookup? key = (entryAt? a.entries n).or (a.keyed.get? name)
  /-- Nothing is found under any other key. -/
  lookup?_other : ∀ key, a.keyed.get? key = none → (∀ name n, ¬ IsNamePosition key name n) →
    (∀ n name, ¬ IsPositionName key n name) → a.lookup? key = none

/-- **Arguments are found as their entries say**, by name, by position and by both. -/
theorem lookup_exactly (raw : List String) : LooksUp (ofRaw raw) := by
  have h := faithful_ofRaw raw
  generalize ofRaw raw = a at h
  constructor
  case ordinal_eq =>
    intro i
    rw [ordinal, get, h.lookup?_ordinalName]
    rfl
  case get_eq =>
    intro i
    rw [get, ← ordinalName, h.lookup?_ordinalName]
    rfl
  case lookup?_name =>
    intro before name value after hentries hlast
    exact lookup?_of_direct ((h.get?_iff name value).mpr (.named hentries hlast))
  case name_ne =>
    intro entry hentry name hname
    exact ne_ordinalName (h.noDollar entry hentry name hname)
  case get?_iff => exact h.get?_iff
  case lookup?_direct =>
    intro key value
    exact lookup?_of_direct
  case lookup?_namePosition =>
    intro key name n hdirect hkey
    simp only [lookup?, hdirect, nameThenPosition?_eq_some_iff.mpr hkey, h.get?_ordinalName]
  case lookup?_positionName =>
    intro key n name hdirect hname hkey
    simp only [lookup?, hdirect, nameThenPosition?_eq_none hname,
      positionThenName?_eq_some_iff.mpr hkey, h.get?_ordinalName]
  case lookup?_other =>
    intro key hdirect hname hposition
    exact lookup?_of_not_form hdirect hname hposition

/-- A key with two positions is taken apart at the last dollar sign, and the first position stands
where a name would. -/
example : (ofRaw ["World", ":mood great"]).get "$1$2" = .text "World" ∧
    (ofRaw ["World", ":mood great"]).get "$1a$02" = .text "great" := by cbv

end Stencil.Arguments
