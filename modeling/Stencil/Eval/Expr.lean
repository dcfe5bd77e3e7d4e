import Stencil.Environment
import Stencil.Eval.Access
import Stencil.Eval.Effects
import Stencil.Eval.Operator
import Stencil.Helper.Basic

/-!
# Evaluation of expressions

An expression is evaluated in an environment, which it cannot change, and adds to the effects of its
node. The effects of what was evaluated before a failure stay.

* `Action` is a computation that may fail and has effects.
* `Target` is what the dotted name of a callee refers to. Where it refers to nothing, the last
  member of the callee may name a helper, which then gets the object of that member as its first
  argument.
* `Expr.evaluate` evaluates an expression whose depth is known, so that nesting is bounded.
-/

namespace Stencil

/-- What code may use besides its variables, and the file that it stands in. -/
structure Site where
  helpers : Helpers
  settings : Settings
  file : Nat

/-- A computation that may fail and has effects. -/
abbrev Action (α : Type) := ExceptT Failure (StateM Effects) α

namespace Action

/-- Stops with an error at a place. -/
def fail {α : Type} (site : Site) (span : Span) (error : EvalError) : Action α :=
  throw ⟨error, span, site.file⟩

/-- Goes on with a result, or stops with its error at a place. -/
def ofResult {α : Type} (site : Site) (span : Span) : Except EvalError α → Action α
  | .ok a => pure a
  | .error error => fail site span error

/-- Calls a function with effects. -/
def perform (site : Site) (span : Span) (b : Builtin) (args : List Value) : Action Value := do
  let (v, s) ← ofResult site span (b.run args (← get))
  set s
  return v

/-- Calls a helper. -/
def callHelper (site : Site) (span : Span) (h : Helper) (args : List Value) : Action Value :=
  ofResult site span (h args site.settings)

end Action

/-- What a dotted name refers to in a call. -/
inductive Target where
  | builtin (b : Builtin)
  | function (h : Helper)

/-- What a dotted name refers to, functions with effects first. -/
def Target.ofPath? (helpers : Helpers) (path : String) : Option Target :=
  match Builtin.ofName? path with
  | some b => some (.builtin b)
  | none => (helpers.get? path).map .function

/-- What a callee refers to as a whole. -/
def Target.ofCallee? (helpers : Helpers) (callee : Script.Expr) : Option Target :=
  callee.path?.bind (ofPath? helpers)

/-- The error that a callee refers to nothing. -/
def EvalError.ofCallee (callee : Script.Expr) : EvalError :=
  .unknownFunction (callee.path?.getD "<expression>")

namespace Script

open Stencil.Action

/-- The greatest depth at which an expression is evaluated. -/
def maxDepth : Nat := 256

/-- The value of a name. A name with a dollar sign that is not bound is looked up in the
arguments. -/
def nameValue (env : Environment) (name : String) : Except EvalError Value :=
  match env.get? name with
  | some v => .ok v
  | none =>
    match name.toList.head?, env.get? "args" with
    | some '$', some (.args a) => .ok (.ofArgument (a.get name))
    | _, _ => .error (.unknownName name)

mutual

/-- Evaluates an expression at a depth. Failures without a place of their own are reported at
`span`. -/
def Expr.evaluate (site : Site) (env : Environment) (depth : Nat) (span : Span) (e : Expr) :
    Action Value :=
  if maxDepth < depth then fail site span .tooDeep
  else
    match e with
    | .number x => pure (.number x)
    | .text s => pure (.text s)
    | .flag b => pure (.flag b)
    | .null => pure .null
    | .list items => do return .list (← evaluateList site env (depth + 1) span items)
    | .template parts => do return .text (← evaluateParts site env (depth + 1) span parts)
    | .identifier name own =>
      ofResult site (if own.isEmpty then span else own) (nameValue env name)
    | .member object field own => do
      let v ← object.evaluate site env (depth + 1) span
      ofResult site own (v.member field)
    | .index object index own => do
      let v ← object.evaluate site env (depth + 1) span
      let w ← index.evaluate site env (depth + 1) span
      ofResult site own (v.index w)
    | .call callee args own =>
      match Target.ofCallee? site.helpers callee with
      | some (.builtin b) => do
        perform site own b (← evaluateList site env (depth + 1) own args)
      | some (.function h) => do
        callHelper site own h (← evaluateList site env (depth + 1) own args)
      | none =>
        match callee with
        | .member object field _ =>
          match site.helpers.get? field with
          | some h => do
            let receiver ← object.evaluate site env (depth + 1) own
            callHelper site own h (receiver :: (← evaluateList site env (depth + 1) own args))
          | none => fail site own (.ofCallee callee)
        | _ => fail site own (.ofCallee callee)
    | .unary op operand => do
      let v ← operand.evaluate site env (depth + 1) span
      ofResult site span (op.apply v)
    | .binary op left right => do
      let v ← left.evaluate site env (depth + 1) span
      if op.stopsAt v then return v
      let w ← right.evaluate site env (depth + 1) span
      ofResult site span (op.apply v w)
    | .conditional condition yes no => do
      let v ← condition.evaluate site env (depth + 1) span
      if v.isTruthy then yes.evaluate site env (depth + 1) span
      else no.evaluate site env (depth + 1) span

/-- Evaluates expressions in order. -/
def evaluateList (site : Site) (env : Environment) (depth : Nat) (span : Span) :
    List Expr → Action (List Value)
  | [] => pure []
  | e :: es => do
    let v ← e.evaluate site env depth span
    return v :: (← evaluateList site env depth span es)

/-- Evaluates the parts of a template literal and joins their texts. -/
def evaluateParts (site : Site) (env : Environment) (depth : Nat) (span : Span) :
    List Part → Action String
  | [] => pure ""
  | .literal s :: parts => do return s ++ (← evaluateParts site env depth span parts)
  | .hole e :: parts => do
    let v ← e.evaluate site env depth span
    return v.display ++ (← evaluateParts site env depth span parts)

end

end Script

end Stencil
