/-!
# Tables of keys and values

What a TOML document says.

* `Toml` is a value and `Toml.Table` a table of them.
* `Table.set?` gives a value to a path of keys, `Table.define?` and `Table.append?` enter the table
  that a header names. All of them fail where the same thing would be said twice.
-/

namespace Stencil

/-- How a table came about. -/
inductive Toml.Origin where
  /-- Written between braces. -/
  | inline
  /-- Named by a header. -/
  | header
  /-- On the way to a table that is named by a header. -/
  | above
  /-- On the way to a key with dots. -/
  | dotted
  deriving Repr, DecidableEq

/-- A value. -/
inductive Toml where
  | text (value : String)
  | boolean (value : Bool)
  /-- A number, a date or a time, as it is written. -/
  | scalar (source : String)
  | array (items : List Toml)
  | table (origin : Toml.Origin) (entries : List (String × Toml))
  /-- Tables under one header between double brackets. -/
  | tables (all : List (List (String × Toml)))

namespace Toml

/-- The entries of a table, in the order in which they were written. -/
abbrev Table := List (String × Toml)

/-- The value of a text. -/
def text? : Toml → Option String
  | .text value => some value
  | _ => none

/-- The value of a truth value. -/
def boolean? : Toml → Option Bool
  | .boolean value => some value
  | _ => none

/-- The values of an array of texts. -/
def texts? : Toml → Option (List String)
  | .array items => items.mapM text?
  | _ => none

namespace Table

/-- The value of a key. -/
def get? (key : String) : Table → Option Toml
  | [] => none
  | (k, value) :: entries => if k = key then some value else get? key entries

/-- What a reader makes of the value of a key, if there is one; fails where the reader does. -/
def read? {α : Type} (key : String) (read : Toml → Option α) (t : Table) : Option (Option α) :=
  match t.get? key with
  | some value => (read value).map some
  | none => some none

/-- Gives a new value to a key, at its place, or at the end if there is no such key. -/
def put (key : String) (value : Toml) : Table → Table
  | [] => [(key, value)]
  | (k, v) :: entries => if k = key then (k, value) :: entries else (k, v) :: put key value entries

/-- Adds a key that is not there yet. -/
def add? (key : String) (value : Toml) (t : Table) : Option Table :=
  match t.get? key with
  | some _ => none
  | none => some (t.put key value)

/-- Changes the table at the end of a path of keys with dots. The tables on the way are made where
they are missing; those that a header names are closed. -/
def alongKeys? (change : Table → Option Table) : List String → Table → Option Table
  | [], t => change t
  | key :: keys, t =>
    match t.get? key with
    | none => do
      let inner ← alongKeys? change keys []
      some (t.put key (.table .dotted inner))
    | some (.table origin inner) => do
      guard (origin = .dotted ∨ (origin = .above ∧ ¬ keys.isEmpty))
      let inner ← alongKeys? change keys inner
      some (t.put key (.table origin inner))
    | _ => none

/-- Gives a value to a path of keys. -/
def set? (path : List String) (value : Toml) (t : Table) : Option Table := do
  let key ← path.getLast?
  t.alongKeys? (add? key value) path.dropLast

/-- Changes the table at the end of the path of a header. The tables on the way are made where they
are missing; of several tables under one header the last one counts. -/
def alongHeader? (change : Table → Option Table) : List String → Table → Option Table
  | [], t => change t
  | key :: keys, t =>
    match t.get? key with
    | none => do
      let inner ← alongHeader? change keys []
      some (t.put key (.table .above inner))
    | some (.table origin inner) => do
      guard (origin ≠ .inline)
      let inner ← alongHeader? change keys inner
      some (t.put key (.table origin inner))
    | some (.tables all) => do
      let last ← all.getLast?
      let last ← alongHeader? change keys last
      some (t.put key (.tables (all.dropLast ++ [last])))
    | _ => none

/-- Fills the table that a header names. -/
def define? (path : List String) (body : Table → Option Table) (t : Table) : Option Table := do
  let key ← path.getLast?
  t.alongHeader? (fun outer =>
    match outer.get? key with
    | none => (body []).map fun inner => outer.put key (.table .header inner)
    | some (.table .above inner) =>
      (body inner).map fun inner => outer.put key (.table .header inner)
    | _ => none) path.dropLast

/-- Fills one more table under a header between double brackets. -/
def append? (path : List String) (body : Table → Option Table) (t : Table) : Option Table := do
  let key ← path.getLast?
  t.alongHeader? (fun outer =>
    match outer.get? key with
    | none => (body []).map fun inner => outer.put key (.tables [inner])
    | some (.tables all) => (body []).map fun inner => outer.put key (.tables (all ++ [inner]))
    | _ => none) path.dropLast

end Table

end Toml

end Stencil
