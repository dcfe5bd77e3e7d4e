import Stencil.Helper.Standard
import Stencil.Proofs.Eval.Evaluation

/-!
# What a call refers to

A callee is resolved by its dotted name first. Only if that refers to nothing, its last member may
name a helper, which gets the object of that member as its first argument.

* `ofCallee?_member`: no function with effects has a name with a dot, so the dotted name of a member
  refers to a helper or to nothing.
* `Alike`: expressions that differ in how they are written only. They give the same
  (`Alike.evaluate_eq`) and evaluate the same on the way (`Alike.enters_iff`).
* `alike_of_ofCall?`: calls of the same target with the same expressions are alike.
* `method_call`: a method call is a call of the helper with the object before the arguments, and a
  call of a dotted name evaluates no object.
-/

namespace Stencil

open Script Stencil.Action

/-! ## Dotted names -/

/-- No function with effects has a name with a dot. -/
theorem Builtin.ofName?_of_dotted {name : String} (h : '.' ∈ name.toList) :
    ofName? name = none := by
  refine List.find?_eq_none.mpr fun b _ => ?_
  have hplain : '.' ∉ b.name.toList := by
    cases b <;> decide
  simp only [decide_eq_true_eq]
  rintro rfl
  exact hplain h

/-- A member is called by its dotted name only if a helper has it. -/
theorem ofCallee?_member (helpers : Helpers) (object : Expr) (field : String) (span : Span) :
    Target.ofCallee? helpers (.member object field span) =
      (Expr.path? (.member object field span)).bind fun path =>
        (helpers.get? path).map .function := by
  simp only [Target.ofCallee?, Expr.path?, Option.bind_map]
  refine congrArg (Option.bind _) (funext fun path => ?_)
  have hdot : '.' ∈ (path ++ "." ++ field).toList := by simp
  simp only [Function.comp_apply, Target.ofPath?, Builtin.ofName?_of_dotted hdot]

/-! ## Expressions that evaluate the same -/

section Alike

variable {site : Site} {env : Environment} {e e' : Expr}

/-- Whether two expressions evaluate the same on the way and finish in the same way. -/
structure Alike (site : Site) (env : Environment) (e e' : Expr) : Prop where
  operands : e.operands site.helpers = e'.operands site.helpers
  operandSpan : ∀ span, e.operandSpan span = e'.operandSpan span
  selected : ∀ vs, e.selected vs = e'.selected vs
  finish : ∀ span vs, e.finish site env span vs = e'.finish site env span vs

theorem Alike.evaluate_eq (h : Alike site env e e') (depth : Nat) (span : Span) :
    e.evaluate site env depth span = e'.evaluate site env depth span := by
  by_cases hdepth : depth ≤ maxDepth
  · rw [Script.evaluate_eq e hdepth, Script.evaluate_eq e' hdepth]
    simp only [h.operands, h.operandSpan, h.selected, h.finish]
  · rw [evaluate_of_lt e (Nat.lt_of_not_le hdepth), evaluate_of_lt e' (Nat.lt_of_not_le hdepth)]

theorem Alike.enters_iff (h : Alike site env e e') (depth : Nat) (span : Span) (s : Effects)
    (w : Evaluation) :
    Enters site env ⟨e, depth, span, s⟩ w ↔ Enters site env ⟨e', depth, span, s⟩ w := by
  simp only [Enters, h.operands, h.operandSpan, h.selected]

end Alike

/-! ## Calls -/

section Calls

variable {site : Site} {callee callee' : Expr} {args args' all : List Expr} {target : Target}

theorem operands_call (h : Target.ofCall? site.helpers callee args = some (target, all))
    (own : Span) : (Expr.call callee args own).operands site.helpers = all := by
  simp [Expr.operands, h]

/-- Calls of the same target with the same expressions differ in how they are written only. -/
theorem alike_of_ofCall? (env : Environment) (own : Span)
    (h : Target.ofCall? site.helpers callee args = some (target, all))
    (h' : Target.ofCall? site.helpers callee' args' = some (target, all)) :
    Alike site env (.call callee args own) (.call callee' args' own) where
  operands := by rw [operands_call h, operands_call h']
  operandSpan _ := rfl
  selected _ := rfl
  finish _ _ := by simp only [Expr.finish, h, h']

/-- A call evaluates the expressions whose values its target gets, in order, and nothing else. -/
theorem enters_call_iff {env : Environment} {depth : Nat} {span own : Span} {s : Effects}
    {w : Evaluation} (h : Target.ofCall? site.helpers callee args = some (target, all)) :
    Enters site env ⟨.call callee args own, depth, span, s⟩ w ↔
      depth ≤ maxDepth ∧ InOrder site env (depth + 1) own all s w := by
  have hselected : ∀ s, ¬ InOrder site env (depth + 1) span [] s w := fun _ h => nomatch h
  simp [Enters, operands_call h, Expr.operandSpan, Expr.selected, hselected]

theorem evaluate_call {env : Environment} {depth : Nat} {span own : Span}
    (hdepth : depth ≤ maxDepth)
    (h : Target.ofCall? site.helpers callee args = some (target, all)) :
    (Expr.call callee args own).evaluate site env depth span = (do
      target.call site own (← evaluateList site env (depth + 1) own all)) := by
  rw [Script.evaluate_eq _ hdepth, operands_call h]
  simp [Expr.operandSpan, Expr.selected, Expr.finish, evaluateList, h]

variable {object : Expr} {field : String} {h : Helper}

/-- A method call refers to the helper with the name of its last member, if its dotted name refers
to nothing. -/
theorem ofCall?_method {span : Span} (hhelper : site.helpers.get? field = some h)
    (hpath : ∀ path ∈ Expr.path? (.member object field span), site.helpers.get? path = none) :
    Target.ofCall? site.helpers (.member object field span) args =
      some (.function h, object :: args) := by
  have hcallee : Target.ofCallee? site.helpers (.member object field span) = none := by
    rw [ofCallee?_member, Option.bind_eq_none_iff]
    intro path hmem
    rw [hpath path hmem, Option.map_none]
  simp [Target.ofCall?, hcallee, hhelper]

theorem ofCall?_name {span : Span} (hbuiltin : Builtin.ofName? field = none)
    (hhelper : site.helpers.get? field = some h) :
    Target.ofCall? site.helpers (.identifier field span) args = some (.function h, args) := by
  simp [Target.ofCall?, Target.ofCallee?, Expr.path?, Target.ofPath?, hbuiltin, hhelper]

/-- A dotted name of a helper refers to it, with the arguments alone. -/
theorem ofCall?_dotted {span : Span} {path : String}
    (hpath : Expr.path? (.member object field span) = some path)
    (hhelper : site.helpers.get? path = some h) :
    Target.ofCall? site.helpers (.member object field span) args = some (.function h, args) := by
  have hcallee : Target.ofCallee? site.helpers (.member object field span) =
      some (.function h) := by
    rw [ofCallee?_member, hpath, Option.bind_some, hhelper, Option.map_some]
  simp [Target.ofCall?, hcallee]

end Calls

/-- **Method calls are calls of helpers.** If no helper has the dotted name of the callee, a method
call gives, from all effects and at every depth, what the call of the helper with the object before
the arguments gives, and evaluates the same on the way. If a helper has the dotted name, it is
called with the arguments alone, and they are all that is evaluated. -/
theorem method_call (site : Site) (env : Environment) (object : Expr) (field : String)
    (args : List Expr) (member name own span : Span) (depth : Nat) :
    (Builtin.ofName? field = none → site.helpers.contains field = true →
      (∀ path ∈ Expr.path? (.member object field member), site.helpers.get? path = none) →
      (Expr.call (.member object field member) args own).evaluate site env depth span =
          (Expr.call (.identifier field name) (object :: args) own).evaluate site env depth span ∧
        ∀ s w, Enters site env ⟨.call (.member object field member) args own, depth, span, s⟩ w ↔
          Enters site env ⟨.call (.identifier field name) (object :: args) own, depth, span, s⟩ w) ∧
    ∀ path ∈ Expr.path? (.member object field member), ∀ h : Helper,
      site.helpers.get? path = some h →
      (Expr.call (.member object field member) args own).evaluate site env depth span =
          (if maxDepth < depth then fail site span .tooDeep
          else do callHelper site own h (← evaluateList site env (depth + 1) own args)) ∧
        ∀ s w, Enters site env ⟨.call (.member object field member) args own, depth, span, s⟩ w ↔
          depth ≤ maxDepth ∧ InOrder site env (depth + 1) own args s w := by
  constructor
  · intro hbuiltin hcontains hpath
    obtain ⟨h, hhelper⟩ := Option.isSome_iff_exists.mp hcontains
    have hmethod : Target.ofCall? site.helpers (.member object field member) args =
        some (.function h, object :: args) := ofCall?_method hhelper hpath
    have hname : Target.ofCall? site.helpers (.identifier field name) (object :: args) =
        some (.function h, object :: args) := ofCall?_name hbuiltin hhelper
    have halike := alike_of_ofCall? env own hmethod hname
    exact ⟨halike.evaluate_eq depth span, halike.enters_iff depth span⟩
  · intro path hpath h hhelper
    have hcall : Target.ofCall? site.helpers (.member object field member) args =
        some (.function h, args) := ofCall?_dotted hpath hhelper
    refine ⟨?_, fun s w => enters_call_iff hcall⟩
    split
    · next hdepth => exact evaluate_of_lt _ hdepth
    · next hdepth => exact evaluate_call (Nat.le_of_not_lt hdepth) hcall

/-- A site with a helper and one whose name has a dot. -/
def dottedSite : Site where
  helpers := .ofList [("upper", Helper.onText uppered), ("date.nlp", Helper.readDate)]
  settings := { today := .epoch }
  file := 0

/-- The method of a text is called as the helper, and no value is asked of a name before a dot. -/
theorem method_call_upper :
    (Expr.call (.member (.text "a") "upper" ⟨4, 9⟩) [] ⟨4, 11⟩).evaluate dottedSite .empty 0
        ⟨0, 12⟩ =
      (Expr.call (.identifier "upper" ⟨4, 9⟩) [.text "a"] ⟨4, 11⟩).evaluate dottedSite .empty 0
        ⟨0, 12⟩ ∧
    ∀ s w, ¬ Enters dottedSite .empty
      ⟨.call (.member (.identifier "date" ⟨0, 4⟩) "nlp" ⟨0, 8⟩) [] ⟨0, 10⟩, 0, ⟨0, 12⟩, s⟩ w := by
  have hmethod := (method_call dottedSite .empty (.text "a") "upper" [] ⟨4, 9⟩ ⟨4, 9⟩ ⟨4, 11⟩
    ⟨0, 12⟩ 0).1 (by decide) (by decide) nofun
  have hdotted := (method_call dottedSite .empty (.identifier "date" ⟨0, 4⟩) "nlp" [] ⟨0, 8⟩
    ⟨0, 8⟩ ⟨0, 10⟩ ⟨0, 12⟩ 0).2 "date.nlp" rfl Helper.readDate rfl
  exact ⟨hmethod.1, fun s w hw => nomatch ((hdotted.2 s w).mp hw).2⟩

end Stencil
