import Stencil.Render.Pending

/-!
# Settling pending insertions

What `settle` does to a forest, level by level. Paths are recorded against the forest as it was
before any insertion, so every insertion moves the later ones; here that bookkeeping is reduced to
two moves.

* `Pending.under` puts an insertion below a node, `Pending.slide` moves it along its siblings.
* `settle_under_append`: insertions below one node change the children of that node alone, and leave
  the paths of the insertions elsewhere as they are.
* `settle_ofNode_append`: the nodes appended to a node stand directly after it, and what comes later
  among its siblings has moved by as many places.
* `Unsettled` is a forest with the insertions that complete it, wherever it stands among its
  siblings. It is built up node by node with `Unsettled.behind` and `Unsettled.cons`.
-/

namespace Stencil

namespace Pending

/-- The insertion seen from the forest in which its own forest is found at `path`. -/
def under (path : List Nat) (p : Pending) : Pending := { p with path := path ++ p.path }

/-- The insertion `k` places further along the siblings at the top. -/
def slide (k : Nat) (p : Pending) : Pending := { p with path := p.path.modifyHead (· + k) }

/-- The insertion that the node at `path` asks for, if it asks for one. -/
def ofNode (path : List Nat) (nodes : List Node) : List Pending :=
  if nodes.isEmpty then [] else [⟨path, nodes⟩]

@[simp]
theorem slide_path (k : Nat) (p : Pending) : (p.slide k).path = p.path.modifyHead (· + k) := rfl

theorem under_under (outer inner : List Nat) (p : Pending) :
    (p.under inner).under outer = p.under (outer ++ inner) := by
  simp only [under, List.append_assoc]

theorem slide_slide (j k : Nat) (p : Pending) : (p.slide j).slide k = p.slide (j + k) := by
  obtain ⟨path, nodes⟩ := p
  cases path <;> simp [slide, Nat.add_assoc]

theorem slide_zero (p : Pending) : p.slide 0 = p := by
  obtain ⟨path, nodes⟩ := p
  cases path <;> rfl

theorem slide_under (i k : Nat) (p : Pending) : (p.under [i]).slide k = p.under [i + k] := rfl

theorem map_under_ofNode (outer path : List Nat) (nodes : List Node) :
    (ofNode path nodes).map (under outer) = ofNode (outer ++ path) nodes := by
  unfold ofNode
  split <;> rfl

theorem map_slide_ofNode (i k : Nat) (nodes : List Node) :
    (ofNode [i] nodes).map (slide k) = ofNode [i + k] nodes := by
  unfold ofNode
  split <;> rfl

theorem path_ne_nil_of_mem_ofNode {path : List Nat} {nodes : List Node} {p : Pending}
    (hpath : path ≠ []) (hp : p ∈ ofNode path nodes) : p.path ≠ [] := by
  unfold ofNode at hp
  split at hp
  · exact absurd hp List.not_mem_nil
  · rw [List.mem_singleton.mp hp]
    exact hpath

end Pending

/-! ## Paths after an insertion -/

theorem shiftPath_eq_nil_iff {count : Nat} {target path : List Nat} :
    shiftPath count target path = [] ↔ path = [] := by
  fun_cases shiftPath count target path <;> simp_all

/-- Below one node, paths shift as they do in the forest of its children. -/
theorem shiftPath_cons_self {count i : Nat} {target : List Nat} (h : target ≠ [])
    (path : List Nat) :
    shiftPath count (i :: target) (i :: path) = i :: shiftPath count target path := by
  cases target with
  | nil => exact absurd rfl h
  | cons j target => simp only [shiftPath, if_true]

/-- An insertion below a node does not move what is not below it. -/
theorem shiftPath_of_head_ne {count i : Nat} {target path : List Nat} (h : target ≠ [])
    (hpath : path.head? ≠ some i) : shiftPath count (i :: target) path = path := by
  cases target with
  | nil => exact absurd rfl h
  | cons j target =>
    cases path with
    | nil => rfl
    | cons k path =>
      have hk : i ≠ k := fun e => hpath (by rw [e]; rfl)
      simp only [shiftPath, if_neg hk]

theorem Pending.after_path_ne_nil {p q : Pending} (h : q.path ≠ []) : (p.after q).path ≠ [] :=
  fun e => h (shiftPath_eq_nil_iff.mp e)

theorem Pending.after_under {i : Nat} {p : Pending} (h : p.path ≠ []) (q : Pending) :
    (p.under [i]).after (q.under [i]) = (p.after q).under [i] := by
  simp only [Pending.after, Pending.under, List.cons_append, List.nil_append,
    shiftPath_cons_self h]

theorem Pending.after_of_head_ne {i : Nat} {p q : Pending} (h : p.path ≠ [])
    (hq : q.path.head? ≠ some i) : (p.under [i]).after q = q := by
  obtain ⟨path, nodes⟩ := q
  simp only [Pending.after, Pending.under, List.cons_append, List.nil_append,
    shiftPath_of_head_ne h hq]

/-- An insertion after a node does not move what is below that node. -/
theorem Pending.after_ofNode_under (i : Nat) (nodes : List Node) (q : Pending) :
    Pending.after ⟨[i], nodes⟩ (q.under [i]) = q.under [i] := by
  simp [Pending.after, Pending.under, shiftPath]

/-- An insertion after a node moves what is behind it by the number of nodes. -/
theorem Pending.after_ofNode_slide (i : Nat) (nodes : List Node) (q : Pending) :
    Pending.after ⟨[i], nodes⟩ (q.slide (i + 1)) = q.slide (i + 1 + nodes.length) := by
  obtain ⟨path, _⟩ := q
  cases path with
  | nil => rfl
  | cons j path =>
    have hj : i < j + (i + 1) := by omega
    simp [Pending.after, Pending.slide, shiftPath, hj, Nat.add_assoc]

theorem Pending.head?_slide_ne {i k : Nat} (h : i < k) (p : Pending) :
    (p.slide k).path.head? ≠ some i := by
  obtain ⟨path, _⟩ := p
  cases path with
  | nil => exact nofun
  | cons j path =>
    simp only [slide_path, List.modifyHead_cons, List.head?_cons, ne_eq, Option.some.injEq]
    omega

/-! ## Insertions level by level -/

theorem insertAfter_cons {i : Nat} {path : List Nat} (h : path ≠ []) (nodes forest : List Node) :
    insertAfter nodes (i :: path) forest =
      forest.modify i fun n => { n with children := insertAfter nodes path n.children } := by
  cases path with
  | nil => exact absurd rfl h
  | cons j path => rfl

@[simp]
theorem settle_nil (forest : List Node) : settle [] forest = forest := by rw [settle]

theorem settle_cons (p : Pending) (ps : List Pending) (forest : List Node) :
    settle (p :: ps) forest = settle (ps.map p.after) (insertAfter p.nodes p.path forest) := by
  rw [settle]

/-- Insertions below the node at position `i` change its children alone. What is inserted elsewhere
afterwards has kept its place. -/
theorem settle_under_append (i : Nat) : ∀ (ps qs : List Pending) (forest : List Node),
    (∀ p ∈ ps, p.path ≠ []) → (∀ q ∈ qs, q.path.head? ≠ some i) →
      settle (ps.map (Pending.under [i]) ++ qs) forest =
        settle qs (forest.modify i fun n => { n with children := settle ps n.children })
  | [], qs, forest, _, _ => by
    have hid : (fun n : Node => { n with children := settle [] n.children }) = id := by
      funext n
      rw [settle_nil]
      cases n
      rfl
    rw [hid, List.modify_id, List.map_nil, List.nil_append]
  | p :: ps, qs, forest, hps, hqs => by
    have hp : p.path ≠ [] := hps p List.mem_cons_self
    have hbelow : (ps.map (Pending.under [i])).map (p.under [i]).after =
        (ps.map p.after).map (Pending.under [i]) := by
      simp only [List.map_map]
      exact List.map_congr_left fun q _ => Pending.after_under hp q
    have helse : qs.map (p.under [i]).after = qs := by
      rw [List.map_congr_left fun q hq => Pending.after_of_head_ne hp (hqs q hq), List.map_id']
    have hne : ∀ q ∈ ps.map p.after, q.path ≠ [] := by
      intro q hq
      obtain ⟨q, hmem, rfl⟩ := List.mem_map.mp hq
      exact Pending.after_path_ne_nil (hps q (List.mem_cons_of_mem p hmem))
    have hinsert : insertAfter p.nodes (p.under [i]).path forest =
        forest.modify i fun n => { n with children := insertAfter p.nodes p.path n.children } :=
      insertAfter_cons hp p.nodes forest
    rw [List.map_cons, List.cons_append, settle_cons, List.map_append, hbelow, helse]
    show settle _ (insertAfter p.nodes (p.under [i]).path forest) = _
    rw [hinsert, settle_under_append i (ps.map p.after) qs _ hne hqs, List.modify_modify_eq]
    congr 2
    funext n
    simp only [Function.comp, settle_cons]
termination_by ps => ps.length

/-- The nodes that a node asks for come to stand directly after it. -/
theorem settle_ofNode_append (before : List Node) (n : Node) (nodes behind : List Node)
    (qs : List Pending) :
    settle (Pending.ofNode [before.length] nodes ++ qs) (before ++ n :: behind) =
      settle (qs.map (Pending.after ⟨[before.length], nodes⟩))
        (before ++ n :: (nodes ++ behind)) := by
  unfold Pending.ofNode
  split
  · next hempty =>
    obtain rfl := List.isEmpty_iff.mp hempty
    have hid : ∀ q : Pending, Pending.after ⟨[before.length], []⟩ q = q := by
      rintro ⟨path, _⟩
      cases path with
      | nil => rfl
      | cons j path => simp [Pending.after, shiftPath]
    rw [List.map_congr_left fun q _ => hid q, List.map_id', List.nil_append, List.nil_append]
  · rw [List.cons_append, List.nil_append, settle_cons]
    congr 1
    simp only [insertAfter, insertAt, List.take_length_add_append, List.drop_length_add_append]
    simp

/-- Changing the node behind `before` changes nothing else. -/
theorem modify_append_cons (f : Node → Node) (before : List Node) (n : Node) (behind : List Node) :
    (before ++ n :: behind).modify before.length f = before ++ f n :: behind := by
  induction before with
  | nil => rfl
  | cons b before ih => rw [List.cons_append, List.length_cons, List.modify_succ_cons, ih]; rfl

/-! ## Forests that are not settled yet -/

/-- A forest that becomes `settled` once its pending insertions are made. Their paths are those of
the forest when it stands at the front of its siblings; it settles in the same way behind others. -/
structure Unsettled (settled : List Node) where
  nodes : List Node
  pending : List Pending
  path_ne_nil : ∀ p ∈ pending, p.path ≠ []
  settles : ∀ before : List Node,
    settle (pending.map (Pending.slide before.length)) (before ++ nodes) = before ++ settled

namespace Unsettled

/-- The forest without nodes. -/
def empty : Unsettled [] where
  nodes := []
  pending := []
  path_ne_nil := nofun
  settles before := settle_nil (before ++ [])

/-- A forest behind nodes that ask for nothing. -/
def behind (first : List Node) {settled : List Node} (u : Unsettled settled) :
    Unsettled (first ++ settled) where
  nodes := first ++ u.nodes
  pending := u.pending.map (Pending.slide first.length)
  path_ne_nil := by
    intro p hp
    obtain ⟨p, hmem, rfl⟩ := List.mem_map.mp hp
    rw [Pending.slide_path, ne_eq, List.modifyHead_eq_nil_iff]
    exact u.path_ne_nil p hmem
  settles before := by
    have hslide : (u.pending.map (Pending.slide first.length)).map (Pending.slide before.length) =
        u.pending.map (Pending.slide (before ++ first).length) := by
      rw [List.map_map, List.length_append, Nat.add_comm]
      exact List.map_congr_left fun p _ => Pending.slide_slide first.length before.length p
    rw [hslide, ← List.append_assoc, u.settles, List.append_assoc]

/-- A node whose children are not settled, the nodes that it asks for, and what follows. The node
comes first, then what is pending below it, then what is pending behind it. -/
def cons (n : Node) (below : Unsettled n.children) (appended : List Node) {settled : List Node}
    (rest : Unsettled settled) : Unsettled (n :: appended ++ settled) where
  nodes := { n with children := below.nodes } :: rest.nodes
  pending := Pending.ofNode [0] appended ++ (below.pending.map (Pending.under [0]) ++
    rest.pending.map (Pending.slide 1))
  path_ne_nil := by
    intro p hp
    rcases List.mem_append.mp hp with hp | hp
    · exact Pending.path_ne_nil_of_mem_ofNode (List.cons_ne_nil 0 []) hp
    rcases List.mem_append.mp hp with hp | hp
    · obtain ⟨p, -, rfl⟩ := List.mem_map.mp hp
      exact List.cons_ne_nil 0 p.path
    · obtain ⟨p, hmem, rfl⟩ := List.mem_map.mp hp
      rw [Pending.slide_path, ne_eq, List.modifyHead_eq_nil_iff]
      exact rest.path_ne_nil p hmem
  settles before := by
    have hbelow : settle below.pending below.nodes = n.children := by
      have h := below.settles []
      rwa [List.length_nil, List.nil_append, List.nil_append,
        List.map_congr_left fun p _ => Pending.slide_zero p, List.map_id'] at h
    have hrest := rest.settles (before ++ n :: appended)
    have hlen : (before ++ n :: appended).length = before.length + 1 + appended.length := by
      simp only [List.length_append, List.length_cons]
      omega
    rw [hlen, List.append_assoc, List.append_assoc, List.cons_append] at hrest
    -- Behind `before` the node stands at position `k`; what it asks for moves only what is behind.
    have hpaths (k : Nat) : (Pending.ofNode [0] appended ++
          (below.pending.map (Pending.under [0]) ++
            rest.pending.map (Pending.slide 1))).map (Pending.slide k) =
        Pending.ofNode [k] appended ++ (below.pending.map (Pending.under [k]) ++
          rest.pending.map (Pending.slide (k + 1))) := by
      simp only [List.map_append, List.map_map, Function.comp_def, Pending.map_slide_ofNode,
        Pending.slide_under, Pending.slide_slide, Nat.zero_add, Nat.add_comm 1]
    have hmoved (k : Nat) : (below.pending.map (Pending.under [k]) ++
          rest.pending.map (Pending.slide (k + 1))).map (Pending.after ⟨[k], appended⟩) =
        below.pending.map (Pending.under [k]) ++
          rest.pending.map (Pending.slide (k + 1 + appended.length)) := by
      simp only [List.map_append, List.map_map, Function.comp_def, Pending.after_ofNode_under,
        Pending.after_ofNode_slide]
    have hapart : ∀ q ∈ rest.pending.map (Pending.slide (before.length + 1 + appended.length)),
        q.path.head? ≠ some before.length := by
      intro q hq
      obtain ⟨q, -, rfl⟩ := List.mem_map.mp hq
      exact Pending.head?_slide_ne (by omega) q
    rw [hpaths, settle_ofNode_append, hmoved,
      settle_under_append before.length below.pending _ _ below.path_ne_nil hapart,
      modify_append_cons, hbelow]
    cases n
    exact hrest

end Unsettled

end Stencil
