import Stencil.Eval.Expr
import Stencil.Program

/-!
# Execution of programs

A program runs in a scope of its own, as does each branch of a condition. However it ends, the
scopes that it opened are closed again.

* `Run` is a computation that also changes the environment.
* `Program.execute` runs a program and gives its text and effects, and the environment after it.
-/

namespace Stencil

open Script

/-- What running code changes. -/
structure Memory where
  env : Environment
  effects : Effects

/-- A computation that may fail and changes the memory. -/
abbrev Run (α : Type) := ExceptT Failure (StateM Memory) α

namespace Run

/-- Evaluates an expression outside of any other. -/
def evaluate (site : Site) (span : Span) (e : Expr) : Run Value := fun m =>
  let (v, effects) := e.evaluate site m.env 0 span m.effects
  (v, { m with effects })

/-- Changes the environment, or stops with an error at a place. -/
def bind (site : Site) (span : Span) (change : Environment → Except EvalError Environment) :
    Run Unit := fun m =>
  match change m.env with
  | .ok env => (.ok (), { m with env })
  | .error error => (.error ⟨error, span, site.file⟩, m)

/-- Runs code in a scope of its own, which is closed however the code ends. -/
def inScope {α : Type} (body : Run α) : Run α := fun m =>
  let (a, m) := body { m with env := m.env.push }
  (a, { m with env := m.env.pop })

end Run

mutual

/-- Runs a statement. -/
def Script.Statement.run (site : Site) : Statement → Run Unit
  | .assign name value declare span => do
    let v ← Run.evaluate site span value
    Run.bind site span fun env => if declare then env.declare name v else env.assign name v
  | .expr value span => do
    let _ ← Run.evaluate site span value
  | .branch condition yes no span => do
    let v ← Run.evaluate site span condition
    if v.isTruthy then Run.inScope (runAll site yes) else Run.inScope (runAll site no)

/-- Runs statements in order. -/
def runAll (site : Site) : List Statement → Run Unit
  | [] => pure ()
  | s :: ss => do
    s.run site
    runAll site ss

end

/-- Runs one step of a program and gives its text. -/
def Instruction.run (site : Site) : Instruction → Run String
  | .literal text => pure text
  | .emit value filter span => do
    let v ← Run.evaluate site span value
    return if filter then v.linkText site.settings.dateFormat else v.display
  | .execute body _ => do
    runAll site body
    return ""

/-- Runs steps in order and joins their texts. -/
def runSteps (site : Site) : List Instruction → Run String
  | [] => pure ""
  | step :: steps => do
    let text ← step.run site
    return text ++ (← runSteps site steps)

/-- What running a program gives. -/
structure Rendered where
  text : String
  effects : Effects

/-- Runs a program in a scope of its own. -/
def Program.execute (p : Program) (helpers : Helpers) (settings : Settings) (env : Environment) :
    Except Failure Rendered × Environment :=
  let (text, m) := Run.inScope (runSteps ⟨helpers, settings, p.file⟩ p.steps) ⟨env, {}⟩
  (text.map fun text => ⟨text, m.effects⟩, m.env)

end Stencil
