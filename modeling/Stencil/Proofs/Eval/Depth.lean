import Mathlib.Logic.Relation
import Stencil.Proofs.Eval.Evaluation
import Stencil.Proofs.Eval.Shallow

/-!
# How deep evaluations go

An expression is evaluated at a depth, which is one more for each of its parts and has a limit.

* `Expr.height` is how high the tree of an expression is. A callee counts only where its object may
  be evaluated.
* `Enters.step`: what an evaluation starts is one deeper, and less high.
* `Reaches` is any number of such steps. It does not go deeper than one more than the limit
  (`Reaches.depth_le`), and depth and height together do not grow (`Reaches.depth_add_height`).
* `exists_reaches_of_tooDeep`: what fails for the depth reaches an evaluation that is too deep.
* `depth_limit_exact`: so it fails exactly if such an evaluation is reached, and never if the
  expression is not higher than the limit.
-/

namespace Stencil

open Script Stencil.Action

/-! ## The height of an expression -/

namespace Script

mutual

/-- The height of an expression: none for a leaf, and one more than the highest of its parts. The
callee of a call is not a part of it, but the object of a method call is. -/
def Expr.height : Expr → Nat
  | .number _ | .text _ | .flag _ | .null | .identifier _ _ => 0
  | .list items => Expr.heightAll items
  | .template parts => Part.heightAll parts
  | .member object _ _ => object.height + 1
  | .index object place _ => max (object.height + 1) (place.height + 1)
  | .call callee args _ => max callee.objectHeight (Expr.heightAll args)
  | .unary _ operand => operand.height + 1
  | .binary _ left right => max (left.height + 1) (right.height + 1)
  | .conditional condition yes no =>
    max (condition.height + 1) (max (yes.height + 1) (no.height + 1))

/-- What the object of a callee adds to the height of a call. -/
def Expr.objectHeight : Expr → Nat
  | .member object _ _ => object.height + 1
  | _ => 0

/-- What expressions add to the height of what they are part of. -/
def Expr.heightAll : List Expr → Nat
  | [] => 0
  | e :: es => max (e.height + 1) (Expr.heightAll es)

/-- What the parts of a template literal add to its height. -/
def Part.heightAll : List Part → Nat
  | [] => 0
  | .literal _ :: parts => Part.heightAll parts
  | .hole e :: parts => max (e.height + 1) (Part.heightAll parts)

end

theorem height_lt_heightAll {e : Expr} : ∀ {es : List Expr}, e ∈ es → e.height < Expr.heightAll es
  | e' :: es, h => by
    rw [Expr.heightAll]
    rcases List.mem_cons.mp h with rfl | h
    · omega
    · have := height_lt_heightAll h
      omega

theorem heightAll_holes : ∀ parts : List Part,
    Expr.heightAll (Part.holes parts) = Part.heightAll parts
  | [] => rfl
  | .literal _ :: parts => by
    rw [Part.holes, Part.heightAll, heightAll_holes parts]
  | .hole e :: parts => by
    rw [Part.holes, Part.heightAll, Expr.heightAll, heightAll_holes parts]

/-- What a call evaluates are its parts. -/
theorem heightAll_ofCall? {helpers : Helpers} {callee : Expr} {args all : List Expr}
    {target : Target} (h : Target.ofCall? helpers callee args = some (target, all)) :
    Expr.heightAll all ≤ max callee.objectHeight (Expr.heightAll args) := by
  unfold Target.ofCall? at h
  split at h
  · obtain ⟨-, rfl⟩ := Prod.mk.inj (Option.some.inj h)
    exact Nat.le_max_right _ _
  · split at h
    · obtain ⟨_, -, h⟩ := Option.map_eq_some_iff.mp h
      obtain ⟨-, rfl⟩ := Prod.mk.inj h
      rw [Expr.heightAll, Expr.objectHeight]
    · cases h

theorem heightAll_operands (helpers : Helpers) (e : Expr) :
    Expr.heightAll (e.operands helpers) ≤ e.height := by
  cases e with
  | call callee args own =>
    rw [Expr.operands, Expr.height]
    cases h : Target.ofCall? helpers callee args with
    | none => exact Nat.zero_le _
    | some found => exact heightAll_ofCall? h
  | template parts => rw [Expr.operands, Expr.height, heightAll_holes]
  | _ => simp [Expr.operands, Expr.height, Expr.heightAll]

theorem heightAll_selected (e : Expr) (vs : List Value) :
    Expr.heightAll (e.selected vs) ≤ e.height := by
  unfold Expr.selected
  split
  · split <;> simp [Expr.height, Expr.heightAll]
  · split <;> simp [Expr.height, Expr.heightAll]
  · exact Nat.zero_le _

end Script

/-! ## The evaluations that are reached -/

section Reaching

variable {site : Site} {env : Environment} {depth : Nat} {span : Span} {s s' : Effects}
  {failure : Failure} {v w : Evaluation}

theorem InOrder.mem {es : List Expr} (h : InOrder site env depth span es s w) :
    w.expr ∈ es ∧ w.depth = depth := by
  induction h with
  | here e es s => exact ⟨List.mem_cons_self, rfl⟩
  | later _ _ ih => exact ⟨List.mem_cons_of_mem _ ih.1, ih.2⟩

/-- What an evaluation starts is one deeper, and at least one less high. -/
theorem Enters.step (h : Enters site env v w) :
    w.depth = v.depth + 1 ∧ w.expr.height < v.expr.height := by
  obtain ⟨-, hw | ⟨vs, s, -, hw⟩⟩ := h
  · exact ⟨hw.mem.2, Nat.lt_of_lt_of_le (height_lt_heightAll hw.mem.1) (heightAll_operands _ _)⟩
  · exact ⟨hw.mem.2, Nat.lt_of_lt_of_le (height_lt_heightAll hw.mem.1) (heightAll_selected _ _)⟩

/-- Whether an evaluation is reached from another one. -/
abbrev Reaches (site : Site) (env : Environment) : Evaluation → Evaluation → Prop :=
  Relation.ReflTransGen (Enters site env)

theorem Reaches.depth_add_height (h : Reaches site env v w) :
    w.depth + w.expr.height ≤ v.depth + v.expr.height := by
  induction h with
  | refl => exact Nat.le_refl _
  | tail _ hstep ih =>
    obtain ⟨hdepth, hheight⟩ := hstep.step
    omega

/-- Nothing is evaluated within what is too deep. -/
theorem Reaches.depth_le (h : Reaches site env v w) (hv : v.depth ≤ maxDepth + 1) :
    w.depth ≤ maxDepth + 1 := by
  induction h with
  | refl => exact hv
  | tail _ hstep _ =>
    rw [hstep.step.1]
    exact Nat.succ_le_succ hstep.1

theorem Reaches.run_eq (h : Reaches site env v w)
    (hrun : w.run site env = (.error failure, s')) : v.run site env = (.error failure, s') := by
  induction h with
  | refl => exact hrun
  | tail _ hstep ih => exact ih (hstep.run_eq hrun)

theorem run_of_lt (h : maxDepth < v.depth) :
    v.run site env = (.error ⟨.tooDeep, v.span, site.file⟩, v.effects) := by
  rw [Evaluation.run, evaluate_of_lt _ h]
  rfl

/-- An evaluation that is not too deep itself fails for the depth only where one that it starts
does. -/
theorem exists_enters_of_tooDeep (hhelpers : site.helpers.Shallow site.settings)
    (hdepth : v.depth ≤ maxDepth) (hrun : v.run site env = (.error failure, s'))
    (herror : failure.error = .tooDeep) :
    ∃ w, Enters site env v w ∧ w.run site env = (.error failure, s') := by
  rcases (run_eq_error_iff hdepth).mp hrun with h | ⟨vs, s₁, ws, s₂, -, -, h⟩
  · exact h
  · exact absurd herror (finish_failsShallow hhelpers env v.span v.expr (vs ++ ws) s₂ s' failure h)

/-- An evaluation that fails for the depth reaches one that is too deep. -/
theorem exists_reaches_of_tooDeep (hhelpers : site.helpers.Shallow site.settings)
    (herror : failure.error = .tooDeep) (left : Nat) (v : Evaluation)
    (hv : v.depth + left = maxDepth + 1) (hrun : v.run site env = (.error failure, s')) :
    ∃ w, Reaches site env v w ∧ w.depth = maxDepth + 1 := by
  -- The induction is on how many levels are left down to the first that is too deep.
  induction left generalizing v with
  | zero => exact ⟨v, .refl, hv⟩
  | succ left ih =>
    obtain ⟨u, hu, hrun⟩ := exists_enters_of_tooDeep hhelpers (by omega) hrun herror
    have hstep : u.depth + left = maxDepth + 1 := by
      rw [hu.step.1]
      omega
    obtain ⟨w, hw, hdepth⟩ := ih u hstep hrun
    exact ⟨w, .head hu hw, hdepth⟩

end Reaching

/-- **The limit of the depth is exact.** If no helper gives the error for the depth, what is not
higher than the limit never fails with it, and what fails with it reaches depth 257. In any case no
evaluation is deeper than that, and the failure of one at that depth is what comes of it all. -/
theorem depth_limit_exact (site : Site) (env : Environment) (e : Expr) (span : Span) (s : Effects) :
    (site.helpers.Shallow site.settings →
      (e.height ≤ 256 → ∀ failure s',
        e.evaluate site env 0 span s = (.error failure, s') → failure.error ≠ .tooDeep) ∧
      ∀ failure s', e.evaluate site env 0 span s = (.error failure, s') →
        failure.error = .tooDeep → ∃ w, Reaches site env ⟨e, 0, span, s⟩ w ∧ w.depth = 257) ∧
    ∀ w, Reaches site env ⟨e, 0, span, s⟩ w → w.depth ≤ 257 ∧
      (w.depth = 257 →
        e.evaluate site env 0 span s = (.error ⟨.tooDeep, w.span, site.file⟩, w.effects)) := by
  constructor
  · intro hhelpers
    have hreached : ∀ failure s', e.evaluate site env 0 span s = (.error failure, s') →
        failure.error = .tooDeep → ∃ w, Reaches site env ⟨e, 0, span, s⟩ w ∧ w.depth = 257 :=
      fun failure s' hrun herror =>
        exists_reaches_of_tooDeep hhelpers herror 257 ⟨e, 0, span, s⟩ rfl hrun
    refine ⟨fun hheight failure s' hrun herror => ?_, hreached⟩
    obtain ⟨w, hw, hdepth⟩ := hreached failure s' hrun herror
    have hbound := hw.depth_add_height
    dsimp only at hbound
    omega
  · intro w hw
    refine ⟨hw.depth_le (Nat.zero_le _), fun hdepth => hw.run_eq (run_of_lt ?_)⟩
    rw [hdepth]
    exact Nat.lt_succ_self maxDepth

/-! ## Negations -/

/-- A site with the standard helpers. -/
def standardSite : Site := ⟨Helper.standard, { today := .epoch }, 0⟩

/-- Negations of null, one in another. -/
def negations : Nat → Expr
  | 0 => .null
  | n + 1 => .unary .not (negations n)

theorem height_negations (n : Nat) : (negations n).height = n := by
  induction n with
  | zero => rfl
  | succ n ih => rw [negations, Expr.height, ih]

theorem reaches_negations (site : Site) (env : Environment) (span : Span) (s : Effects) (n : Nat) :
    ∀ depth, depth + n ≤ maxDepth + 1 →
      Reaches site env ⟨negations n, depth, span, s⟩ ⟨.null, depth + n, span, s⟩ := by
  induction n with
  | zero => exact fun _ _ => .refl
  | succ n ih =>
    intro depth h
    have henters : Enters site env ⟨negations (n + 1), depth, span, s⟩
        ⟨negations n, depth + 1, span, s⟩ :=
      ⟨by dsimp only; omega, .inl (.here _ _ _)⟩
    have hrest := ih (depth + 1) (by omega)
    rw [Nat.add_right_comm] at hrest
    exact .head henters hrest

/-- So many negations are evaluated as the limit says, and one more is not. -/
theorem depth_limit_exact_negations :
    (∀ failure s', (negations 256).evaluate standardSite .empty 0 ⟨0, 0⟩ {} = (.error failure, s') →
        failure.error ≠ .tooDeep) ∧
      (negations 257).evaluate standardSite .empty 0 ⟨0, 0⟩ {} =
        (.error ⟨.tooDeep, ⟨0, 0⟩, 0⟩, {}) := by
  have hhelpers : standardSite.helpers.Shallow standardSite.settings := Helper.shallow_standard _
  have hlow := ((depth_limit_exact standardSite .empty (negations 256) ⟨0, 0⟩ {}).1 hhelpers).1
  have hhigh := (depth_limit_exact standardSite .empty (negations 257) ⟨0, 0⟩ {}).2
  have hreaches := reaches_negations standardSite .empty ⟨0, 0⟩ {} 257 0 (Nat.le_refl _)
  exact ⟨hlow (Nat.le_of_eq (height_negations 256)), (hhigh _ hreaches).2 rfl⟩

end Stencil
