/-!
# Dictionaries

A dictionary keeps its entries in ascending order of their keys, which are compared by code point.

* `insert` adds or replaces an entry, `get?` looks one up.
* `get?_insert` says what a look-up finds after an insertion.
-/

namespace Stencil

/-- Entries in ascending order of their keys. -/
structure Dictionary (α : Type) where
  entries : List (String × α)
  deriving Repr, DecidableEq

namespace Dictionary

variable {α β : Type}

/-- The dictionary without entries. -/
def empty : Dictionary α := ⟨[]⟩

instance : Inhabited (Dictionary α) := ⟨empty⟩

/-- How many entries there are. -/
def size (d : Dictionary α) : Nat := d.entries.length

/-- The keys in order. -/
def keys (d : Dictionary α) : List String := d.entries.map (·.1)

/-- The values in the order of their keys. -/
def values (d : Dictionary α) : List α := d.entries.map (·.2)

/-- The value of the first entry with the key. -/
def find? (key : String) : List (String × α) → Option α
  | [] => none
  | (k, a) :: rest => if k = key then some a else find? key rest

/-- The value of a key. -/
def get? (d : Dictionary α) (key : String) : Option α := find? key d.entries

/-- Whether a key has a value. -/
def contains (d : Dictionary α) (key : String) : Bool := (d.get? key).isSome

/-- The entries with one put at its place. -/
def place (key : String) (a : α) : List (String × α) → List (String × α)
  | [] => [(key, a)]
  | (k, b) :: rest =>
    if k = key then (key, a) :: rest
    else if key < k then (key, a) :: (k, b) :: rest
    else (k, b) :: place key a rest

/-- Adds an entry, replacing the one with the same key. -/
def insert (d : Dictionary α) (key : String) (a : α) : Dictionary α := ⟨place key a d.entries⟩

/-- The entries without those of a key. -/
def erase (d : Dictionary α) (key : String) : Dictionary α :=
  ⟨d.entries.filter fun entry => entry.1 ≠ key⟩

/-- The dictionary of a list of entries. Of several with one key the last counts. -/
def ofList (entries : List (String × α)) : Dictionary α :=
  entries.foldl (fun d entry => d.insert entry.1 entry.2) empty

/-- The values changed by a function. -/
def map (f : α → β) (d : Dictionary α) : Dictionary β :=
  ⟨d.entries.map fun entry => (entry.1, f entry.2)⟩

theorem find?_place (key other : String) (a : α) (entries : List (String × α)) :
    find? other (place key a entries) = if key = other then some a else find? other entries := by
  induction entries with
  | nil => simp [place, find?]
  | cons entry rest ih =>
    obtain ⟨k, b⟩ := entry
    simp only [place]
    split
    · next h => subst h; by_cases hk : k = other <;> simp [find?, hk]
    · next h =>
      split
      · simp only [find?]
      · simp only [find?, ih]
        by_cases hk : k = other
        · subst hk
          simp [Ne.symm h]
        · simp [hk]

/-- After an insertion the key has the new value and every other key the old one. -/
theorem get?_insert (d : Dictionary α) (key other : String) (a : α) :
    (d.insert key a).get? other = if key = other then some a else d.get? other :=
  find?_place key other a d.entries

@[simp]
theorem get?_insert_self (d : Dictionary α) (key : String) (a : α) :
    (d.insert key a).get? key = some a := by simp [get?_insert]

@[simp]
theorem get?_empty (key : String) : (empty : Dictionary α).get? key = none := rfl

end Dictionary

end Stencil
