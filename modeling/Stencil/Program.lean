import Stencil.Script.Parse
import Stencil.Tag.Segment
import Stencil.Text.Quoted

/-!
# Programs

A program is a source that has been compiled: literal text, values to be emitted and statements to
be executed.

* `Instruction.ofTag` compiles one tag, `Program.compile` a whole source, unless the pattern of the
  tags is refused.
* `Program.listing` shows the instructions with the lines they come from.
-/

namespace Stencil

open Script

/-- A step of a program. -/
inductive Instruction where
  | literal (text : String)
  | emit (value : Expr) (filter : Bool) (span : Span)
  | execute (body : List Statement) (span : Span)

namespace Instruction

/-- The source range of a step; literal text has none. -/
def span? : Instruction → Option Span
  | .literal _ => none
  | .emit _ _ span => some span
  | .execute _ span => some span

/-- Whether the step is literal text. -/
def isLiteral : Instruction → Bool
  | .literal _ => true
  | _ => false

/-- Compiles a tag without regard to where its faults are reported. -/
def ofScript (found : FoundTag) : Except Fault Instruction :=
  let script := found.tag.scriptOf found.body
  if (found.tag.classOf found.body).statement then
    (Statement.ofScript found.bodyStart script).map fun body => .execute body found.span
  else
    (Expr.ofScript found.bodyStart script).map fun value =>
      .emit value found.tag.filter found.span

/-- Compiles a tag. Offsets in an expanded script mean nothing in the source, so its faults concern
the whole tag. -/
def ofTag (found : FoundTag) : Except Fault Instruction :=
  (ofScript found).mapError fun fault =>
    if found.tag.holdsScript then fault else { fault with span := found.span }

end Instruction

/-- The first line of a text, empty if there is none. -/
def firstLine (cs : List Char) : List Char := (Text.lines cs).headD []

/-- The note that names the tag in which an error occurred. -/
def FoundTag.note (found : FoundTag) (source : List Char) : Note :=
  .inTag (Text.position source found.start).1 (String.ofList (firstLine found.source))

/-- A compiled source. -/
structure Program where
  steps : List Instruction
  file : Nat

namespace Program

/-- Compiles segments in order. `trim` is what the tag before them drops. -/
def compileSegments (source : List Char) (file : Nat) (trim : TrailingTrim) :
    List Segment → Except SyntaxError (List Instruction)
  | [] => .ok []
  | .text value :: segments => do
    let text := trim.apply value
    let steps ← compileSegments source file .keep segments
    .ok (if text.isEmpty then steps else .literal (String.ofList text) :: steps)
  | .tag found :: segments => do
    let step ← (Instruction.ofTag found).mapError fun fault =>
      ((SyntaxError.ofFault fault file).locate source).addNote (found.note source)
    let steps ← compileSegments source file found.tag.trim segments
    .ok (step :: steps)

/-- Compiles a source with tags whose pattern has been built. A fault anywhere fails the whole. -/
def compileSource (tags : TagSet) (source : String) (file : Nat) :
    Except SyntaxError Program := do
  let source := source.toList
  let segments ← (Segment.ofSource tags source).mapError fun fault =>
    (SyntaxError.ofFault fault file).locate source
  let steps ← compileSegments source file .keep segments
  .ok ⟨steps, file⟩

/-- The error of tags whose pattern is refused. It concerns no place in a source. -/
def refused (reason : String) (file : Nat) : SyntaxError :=
  .ofFault ⟨.invalidTable reason, ⟨0, 0⟩⟩ file

/-- Compiles a source, if the pattern of the tags can be built. -/
def compile (tags : TagSet) (source : String) (file : Nat) : Except SyntaxError Program :=
  match tags.refusal? with
  | none => compileSource tags source file
  | some reason => .error (refused reason file)

theorem compile_of_builds {tags : TagSet} (h : tags.refusal? = none) (source : String)
    (file : Nat) : compile tags source file = compileSource tags source file := by
  rw [compile, h]

theorem compile_of_refused {tags : TagSet} {reason : String} (h : tags.refusal? = some reason)
    (source : String) (file : Nat) : compile tags source file = .error (refused reason file) := by
  rw [compile, h]

/-- Where a source is compiled, the pattern of the tags was built. -/
theorem compileSource_of_compile {tags : TagSet} {source : String} {file : Nat}
    {program : Program} (h : compile tags source file = .ok program) :
    tags.refusal? = none ∧ compileSource tags source file = .ok program := by
  cases hrefusal : tags.refusal? with
  | none => exact ⟨rfl, compile_of_builds hrefusal source file ▸ h⟩
  | some reason => exact nomatch (compile_of_refused hrefusal source file).symm.trans h

/-- Whether there is nothing but literal text. -/
def isStatic (p : Program) : Bool := p.steps.all Instruction.isLiteral

/-- A number with blanks in front up to the given width. -/
def padLeft (width : Nat) (s : String) : String :=
  String.ofList (List.replicate (width - s.length) ' ') ++ s

/-- A text with blanks after it up to the given width. -/
def padRight (width : Nat) (s : String) : String :=
  s ++ String.ofList (List.replicate (width - s.length) ' ')

/-- The source of a span on one line. -/
def flatSource (source : List Char) (span : Span) : String :=
  String.ofList ((Text.slice source span.start span.stop).map fun c => if c = '\n' then '⏎' else c)

/-- The listing of step number `i`. -/
def listStep (source : List Char) (i : Nat) : Instruction → String
  | .literal text => padLeft 3 (toString i) ++ "       text " ++ exposed text ++ "\n"
  | .emit _ filter span => listTag (if filter then "emit|pretty" else "emit") span
  | .execute _ span => listTag "exec" span
where
  /-- The listing of a tag. -/
  listTag (kind : String) (span : Span) : String :=
    padLeft 3 (toString i) ++ " L" ++ padRight 4 (toString (Text.position source span.start).1)
      ++ "  " ++ kind ++ " " ++ flatSource source span ++ "\n"

/-- The steps of a program, one per line: number, source line, kind and source. -/
def listing (p : Program) (source : String) : String :=
  String.join ((p.steps.zipIdx).map fun (step, i) => listStep source.toList i step)

end Program

end Stencil
