import Mathlib.Data.List.Forall2
import Stencil.Environment

/-!
# Scopes

What assignments do to the scopes of an environment.

* `Environment.Balanced`: what an environment and one after it have in common when scopes are opened
  and closed in pairs. Assignments are balanced (`put_balanced`, `putAll_balanced`).
* `put_under_of_bound`, `put_under_of_unbound`: with scopes opened further in, an assignment changes
  either these or what it would change without them.
* `get?_putAll`: assignments leave the values of all other names.
-/

namespace Stencil

theorem Dictionary.contains_insert {α : Type} (d : Dictionary α) (key other : String) (a : α) :
    (d.insert key a).contains other = (decide (key = other) || d.contains other) := by
  rw [contains, get?_insert]
  by_cases h : key = other
  · simp [h]
  · simp [h, contains]

/-- Whether two scopes bind the same names. -/
def Scope.SameNames (s s' : Scope) : Prop := ∀ name, s'.contains name = s.contains name

/-- Whether scopes bind the same names one by one. -/
abbrev Scope.AllSameNames (ss ss' : List Scope) : Prop := List.Forall₂ SameNames ss ss'

namespace Scope

theorem SameNames.refl (s : Scope) : SameNames s s := fun _ => rfl

theorem SameNames.trans {s s' s'' : Scope} (h : SameNames s s') (h' : SameNames s' s'') :
    SameNames s s'' := fun name => (h' name).trans (h name)

theorem sameNames_insert {s : Scope} {name : String} (h : s.contains name) (v : Value) :
    SameNames s (s.insert name v) := fun other => by
  rw [Dictionary.contains_insert]
  by_cases hother : name = other
  · rw [← hother, h, Bool.or_true]
  · rw [decide_eq_false hother, Bool.false_or]

theorem AllSameNames.refl (ss : List Scope) : AllSameNames ss ss :=
  List.forall₂_same.mpr fun s _ => .refl s

theorem AllSameNames.trans {ss ss' ss'' : List Scope} (h : AllSameNames ss ss')
    (h' : AllSameNames ss' ss'') : AllSameNames ss ss'' := by
  induction h generalizing ss'' with
  | nil => exact h'
  | cons hs _ ih =>
    cases h' with
    | cons hs' h' => exact .cons (hs.trans hs') (ih h')

/-- A name is bound by one of some scopes exactly if it is bound by one of others of the same
names. -/
theorem AllSameNames.any_eq {ss ss' : List Scope} (h : AllSameNames ss ss') (name : String) :
    ss'.any (·.contains name) = ss.any (·.contains name) := by
  induction h with
  | nil => rfl
  | cons hs _ ih => rw [List.any_cons, List.any_cons, ih, hs]

end Scope

namespace Environment

open Scope

variable {e e' e'' : Environment} {name : String} {v : Value} {ss ss' front rest : List Scope}

/-! ## Balanced changes -/

/-- Whether some scope binds a name. -/
def Binds (e : Environment) (name : String) : Prop := e.scopes.any (·.contains name) = true

/-- What stays the same in an environment while scopes are opened and closed in pairs: the reserved
names, the open scopes and their names, and the names of the render, to which some may come. -/
structure Balanced (e e' : Environment) : Prop where
  globals : e'.globals = e.globals
  inner : AllSameNames e.inner e'.inner
  base : ∀ name, e.base.contains name → e'.base.contains name

theorem Balanced.refl (e : Environment) : Balanced e e := ⟨rfl, .refl _, fun _ => id⟩

theorem Balanced.trans (h : Balanced e e') (h' : Balanced e' e'') : Balanced e e'' :=
  ⟨h'.globals.trans h.globals, h.inner.trans h'.inner,
    fun name hname => h'.base name (h.base name hname)⟩

theorem Balanced.binds (h : Balanced e e') (hname : e.Binds name) : e'.Binds name := by
  rw [Binds, scopes, List.any_append, List.any_cons, List.any_nil, Bool.or_false, Bool.or_eq_true]
    at hname ⊢
  exact hname.imp (h.inner.any_eq name).trans (h.base name)

/-! ## Assignments -/

theorem update?_sameNames (h : update? name v ss = some ss') : AllSameNames ss ss' := by
  induction ss generalizing ss' with
  | nil => exact nomatch h
  | cons s ss ih =>
    rw [update?] at h
    split at h
    · next hname =>
      exact Option.some.inj h ▸ .cons (sameNames_insert hname v) (AllSameNames.refl ss)
    · obtain ⟨ss', hss', rfl⟩ := Option.map_eq_some_iff.mp h
      exact .cons (.refl s) (ih hss')

/-- A name that scopes further in bind is changed there. -/
theorem update?_append_of_bound (h : front.any (·.contains name)) :
    ∃ front', AllSameNames front front' ∧
      update? name v (front ++ rest) = some (front' ++ rest) := by
  induction front with
  | nil => exact nomatch h
  | cons s front ih =>
    rw [List.cons_append, update?]
    split
    · next hname => exact ⟨_, .cons (sameNames_insert hname v) (AllSameNames.refl front), rfl⟩
    · next hname =>
      rw [List.any_cons, Bool.eq_false_iff.mpr hname, Bool.false_or] at h
      obtain ⟨front', hnames, heq⟩ := ih h
      exact ⟨s :: front', .cons (.refl s) hnames, by rw [heq]; rfl⟩

/-- A name that scopes further in do not bind is changed further out. -/
theorem update?_append_of_unbound (h : front.any (·.contains name) = false) :
    update? name v (front ++ rest) = (update? name v rest).map (front ++ ·) := by
  induction front with
  | nil => exact (congrFun Option.map_id _).symm
  | cons s front ih =>
    rw [List.any_cons, Bool.or_eq_false_iff] at h
    rw [List.cons_append, update?, if_neg (Bool.eq_false_iff.mp h.1), ih h.2, Option.map_map]
    rfl

/-- Changes the nearest binding of a name, or binds it for the whole render, reserved or not. -/
def put (e : Environment) (name : String) (v : Value) : Environment :=
  match update? name v e.inner with
  | some inner => { e with inner }
  | none => { e with base := e.base.insert name v }

/-- Binds a name in the innermost scope, reserved or not. -/
def putInner (e : Environment) (name : String) (v : Value) : Environment :=
  match e.inner with
  | [] => { e with base := e.base.insert name v }
  | scope :: rest => { e with inner := scope.insert name v :: rest }

theorem assign_eq (e : Environment) (name : String) (v : Value) :
    e.assign name v = if isReserved name then .error (.readOnly name) else .ok (e.put name v) := by
  unfold assign put
  split
  · rfl
  · cases update? name v e.inner <;> rfl

theorem declare_eq (e : Environment) (name : String) (v : Value) :
    e.declare name v =
      if isReserved name then .error (.readOnly name) else .ok (e.putInner name v) := by
  unfold declare putInner
  split
  · rfl
  · cases e.inner <;> rfl

theorem binds_putInner_iff {other : String} :
    (e.putInner name v).Binds other ↔ name = other ∨ e.Binds other := by
  unfold putInner Binds scopes
  cases e.inner with
  | nil => simp [Dictionary.contains_insert]
  | cons s rest => simp [Dictionary.contains_insert, or_assoc]

/-- The environment with scopes opened further in. -/
def under (e : Environment) (front : List Scope) : Environment :=
  { e with inner := front ++ e.inner }

theorem base_insert_balanced (e : Environment) (name : String) (v : Value) :
    Balanced e { e with base := e.base.insert name v } :=
  ⟨rfl, .refl _, fun other hother => by rw [Dictionary.contains_insert, hother, Bool.or_true]⟩

theorem put_balanced (e : Environment) (name : String) (v : Value) : Balanced e (e.put name v) := by
  unfold put
  split
  · next hupdate => exact ⟨rfl, update?_sameNames hupdate, fun _ => id⟩
  · exact base_insert_balanced e name v

theorem get?_update? {other : String} (hne : name ≠ other) (h : update? name v ss = some ss') :
    find? other (ss' ++ [e.base]) = find? other (ss ++ [e.base]) := by
  induction ss generalizing ss' with
  | nil => exact nomatch h
  | cons s ss ih =>
    rw [update?] at h
    split at h
    · cases h
      rw [List.cons_append, List.cons_append, find?, find?, Dictionary.get?_insert, if_neg hne]
    · obtain ⟨ss', hss', rfl⟩ := Option.map_eq_some_iff.mp h
      rw [List.cons_append, List.cons_append, find?, find?, ih hss']

/-- An assignment leaves the values of other names. -/
theorem get?_put {other : String} (hne : name ≠ other) :
    (e.put name v).get? other = e.get? other := by
  have hfind : find? other (e.put name v).scopes = find? other e.scopes := by
    unfold put
    split
    · next hupdate => exact get?_update? hne hupdate
    · have hbase : ∀ ss,
          find? other (ss ++ [e.base.insert name v]) = find? other (ss ++ [e.base]) := by
        intro ss
        induction ss with
        | nil => rw [List.nil_append, find?, find?, Dictionary.get?_insert, if_neg hne]; rfl
        | cons s ss ih => rw [List.cons_append, List.cons_append, find?, find?, ih]
      exact hbase e.inner
  rw [get?, get?, hfind, (put_balanced e name v).globals]

theorem put_under_of_bound (h : front.any (·.contains name)) :
    ∃ front', AllSameNames front front' ∧ (e.under front).put name v = e.under front' := by
  obtain ⟨front', hnames, heq⟩ := update?_append_of_bound h
  refine ⟨front', hnames, ?_⟩
  rw [put, under, heq]
  rfl

theorem put_under_of_unbound (h : front.any (·.contains name) = false) :
    (e.under front).put name v = (e.put name v).under front := by
  rw [put, put, under, update?_append_of_unbound h]
  cases update? name v e.inner <;> rfl

/-- Assigns values to names in order. -/
def putAll (e : Environment) (entries : List (String × Value)) : Environment :=
  entries.foldl (fun e entry => e.put entry.1 entry.2) e

theorem putAll_cons (e : Environment) (name : String) (v : Value)
    (entries : List (String × Value)) :
    e.putAll ((name, v) :: entries) = (e.put name v).putAll entries := rfl

theorem putAll_append (e : Environment) (entries entries' : List (String × Value)) :
    e.putAll (entries ++ entries') = (e.putAll entries).putAll entries' := List.foldl_append

theorem get?_putAll {entries : List (String × Value)} {other : String}
    (h : ∀ v, (other, v) ∉ entries) : (e.putAll entries).get? other = e.get? other := by
  induction entries generalizing e with
  | nil => rfl
  | cons entry entries ih =>
    obtain ⟨name, v⟩ := entry
    have hne : name ≠ other := fun heq => h v (heq ▸ List.mem_cons_self)
    rw [putAll_cons, ih fun w hmem => h w (List.mem_cons_of_mem _ hmem), get?_put hne]

theorem putAll_balanced (e : Environment) (entries : List (String × Value)) :
    Balanced e (e.putAll entries) := by
  induction entries generalizing e with
  | nil => exact .refl e
  | cons entry entries ih => exact (put_balanced e entry.1 entry.2).trans (ih _)

end Environment

end Stencil
