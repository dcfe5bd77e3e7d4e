import Stencil.Serial.Json

/-!
# What JSON readers read

The readers of fields, numbers and lists in both directions: what is written is read back, and what
is read is as it should be.

* `Fits32`, `Fits64` and `FitsUnsigned64` are the numbers that can be read; `int64?_eq_some_iff` and
  its companions say so.
* `ReadsOnly P read`: a reader gives nothing without the property `P`. It goes through `required`,
  `defaulted`, `optional` and `list?`.
* `depth_lt_of_mem_array` and `depth_lt_of_mem_object`: a part is nested less deeply than the whole,
  which bounds the recursion of the readers of trees.
-/

namespace Stencil.Json

/-! ## Numbers -/

/-- A whole number of 32 bits with a sign. -/
def Fits32 (n : Int) : Prop := -0x80000000 ≤ n ∧ n ≤ 0x7FFFFFFF

/-- A whole number of 64 bits with a sign. -/
def Fits64 (n : Int) : Prop := -0x8000000000000000 ≤ n ∧ n ≤ 0x7FFFFFFFFFFFFFFF

/-- A whole number of 64 bits without a sign. -/
def FitsUnsigned64 (n : Nat) : Prop := n ≤ 0xFFFFFFFFFFFFFFFF

theorem integer?_eq_some_iff {low high n : Int} {j : Json} :
    integer? low high j = some n ↔ j = .integer n ∧ low ≤ n ∧ n ≤ high := by
  constructor
  · intro h
    unfold integer? at h
    split at h
    · next value =>
      split at h
      · next hbounds =>
        obtain rfl := Option.some.inj h
        exact ⟨rfl, hbounds⟩
      · exact nomatch h
    · exact nomatch h
  · rintro ⟨rfl, hbounds⟩
    exact if_pos hbounds

theorem int64?_eq_some_iff {n : Int} {j : Json} :
    int64? j = some n ↔ j = .integer n ∧ Fits64 n := integer?_eq_some_iff

theorem int32?_eq_some_iff {n : Int} {j : Json} :
    int32? j = some n ↔ j = .integer n ∧ Fits32 n := integer?_eq_some_iff

theorem nat64?_eq_some_iff {n : Nat} {j : Json} :
    nat64? j = some n ↔ j = .integer n ∧ FitsUnsigned64 n := by
  unfold nat64? FitsUnsigned64
  rw [Option.map_eq_some_iff]
  constructor
  · rintro ⟨m, hm, rfl⟩
    obtain ⟨rfl, hlow, hhigh⟩ := integer?_eq_some_iff.mp hm
    rw [Int.toNat_of_nonneg hlow]
    exact ⟨rfl, by omega⟩
  · rintro ⟨rfl, h⟩
    exact ⟨n, integer?_eq_some_iff.mpr ⟨rfl, by omega, by omega⟩, Int.toNat_natCast n⟩

/-! ## Members -/

section Members

variable {key k : String} {value : Json} {members others : List (String × Json)}

@[simp]
theorem member?_nil : member? key [] = none := rfl

@[simp]
theorem member?_cons :
    member? key ((k, value) :: members) = if k = key then some value else member? key members := rfl

@[simp]
theorem member?_append :
    member? key (members ++ others) = (member? key members).or (member? key others) := by
  induction members with
  | nil => rfl
  | cons m members ih =>
    rw [List.cons_append, member?_cons, member?_cons, ih]
    split <;> rfl

end Members

/-! ## Depth -/

theorem depth_le_depthItems {j : Json} {items : List Json} (h : j ∈ items) :
    j.depth ≤ depthItems items := by
  induction items with
  | nil => exact absurd h List.not_mem_nil
  | cons item items ih =>
    rw [depthItems]
    rcases List.mem_cons.mp h with rfl | h
    · exact Nat.le_max_left _ _
    · exact Nat.le_trans (ih h) (Nat.le_max_right _ _)

theorem depth_le_depthMembers {m : String × Json} {members : List (String × Json)}
    (h : m ∈ members) : m.2.depth ≤ depthMembers members := by
  induction members with
  | nil => exact absurd h List.not_mem_nil
  | cons member members ih =>
    rw [depthMembers]
    rcases List.mem_cons.mp h with rfl | h
    · exact Nat.le_max_left _ _
    · exact Nat.le_trans (ih h) (Nat.le_max_right _ _)

theorem depth_lt_of_mem_array {j : Json} {items : List Json} (h : j ∈ items) :
    j.depth < (Json.array items).depth := Nat.lt_succ_of_le (depth_le_depthItems h)

theorem depth_lt_of_mem_object {m : String × Json} {members : List (String × Json)}
    (h : m ∈ members) : m.2.depth < (Json.object members).depth :=
  Nat.lt_succ_of_le (depth_le_depthMembers h)

/-! ## What is written is read back -/

section Written

variable {α β γ : Type} {read : Json → Option α}

theorem mapM_write {f : γ → Option β} {write : α → γ} {g : α → β} {items : List α}
    (h : ∀ a ∈ items, f (write a) = some (g a)) :
    (items.map write).mapM f = some (items.map g) := by
  induction items with
  | nil => rfl
  | cons a items ih =>
    have hitems := ih fun b hb => h b (List.mem_cons_of_mem _ hb)
    rw [List.map_cons, List.mapM_cons, h a List.mem_cons_self, hitems]
    rfl

theorem list?_write {read : Json → Option β} {write : α → Json} {g : α → β} {items : List α}
    (h : ∀ a ∈ items, read (write a) = some (g a)) :
    list? read (.array (items.map write)) = some (items.map g) := mapM_write h

/-- A value that is not null is read as one that is there. -/
theorem optional_of_ne_null {j : Json} (h : j ≠ .null) :
    optional read (some j) = (read j).map some := by
  unfold optional
  split
  · next heq => exact nomatch heq
  · next heq => exact absurd (Option.some.inj heq) h
  · next heq => rw [Option.some.inj heq]

end Written

/-! ## What is read -/

/-- Whether everything that a reader reads has a property. -/
def ReadsOnly {α : Type} (P : α → Prop) (read : Json → Option α) : Prop :=
  ∀ j a, read j = some a → P a

section Read

variable {α : Type} {P : α → Prop} {read : Json → Option α} {field : Option Json}

theorem ReadsOnly.required (h : ReadsOnly P read) {a : α} (ha : required read field = some a) :
    P a := by
  cases field with
  | none => exact nomatch ha
  | some j => exact h j a ha

theorem ReadsOnly.defaulted {d a : α} (h : ReadsOnly P read) (ha : defaulted d read field = some a)
    (hd : P d) : P a := by
  cases field with
  | none => exact Option.some.inj ha ▸ hd
  | some j => exact h j a ha

theorem ReadsOnly.optional (h : ReadsOnly P read) {a? : Option α}
    (ha : optional read field = some a?) : ∀ a ∈ a?, P a := by
  unfold Json.optional at ha
  split at ha
  · exact Option.some.inj ha ▸ nofun
  · exact Option.some.inj ha ▸ nofun
  · next j _ =>
    obtain ⟨a, hread, rfl⟩ := Option.map_eq_some_iff.mp ha
    exact fun b hb => Option.some.inj hb ▸ h j a hread

theorem ReadsOnly.list? (h : ReadsOnly P read) :
    ReadsOnly (fun items => ∀ a ∈ items, P a) (list? read) := by
  intro j
  cases j with
  | array js =>
    show ∀ items, js.mapM read = some items → _
    induction js with
    | nil => exact fun items hitems => Option.some.inj hitems ▸ nofun
    | cons j js ih =>
      intro items hitems
      rw [List.mapM_cons] at hitems
      obtain ⟨a, ha, hitems⟩ := Option.bind_eq_some_iff.mp hitems
      obtain ⟨rest, hrest, hitems⟩ := Option.bind_eq_some_iff.mp hitems
      obtain rfl := Option.some.inj hitems
      exact List.forall_mem_cons.mpr ⟨h j a ha, ih rest hrest⟩
  | _ => exact nofun

end Read

end Stencil.Json
