import Stencil.SyntaxError
import Stencil.Text.Search

/-!
# What hides a closing marker

Inside a script a closing marker does not count in quoted texts, template literals and block
comments.

* `Nest` is what a scan is inside of, `skipNested` passes over everything up to the end of the
  innermost and then of the outer ones. Holes of template literals nest texts and templates again.
* `Shield` are the three constructs, `Shield.after?` is the rest after one.
-/

namespace Stencil

/-- Something that a scan has entered and not yet left. -/
inductive Nest where
  /-- A text between two copies of the mark. -/
  | quoted (mark : Char)
  /-- A template literal. -/
  | template
  /-- A hole of a template literal with this many braces open, its own included. -/
  | hole (braces : Nat)
  deriving Repr, DecidableEq

/-- Passes over the rest of nested constructs, the innermost first, and gives the rest after the
outermost. A backslash protects the character after it. -/
def skipNested : List Nest → List Char → Option (List Char)
  | [], cs => some cs
  | _ :: _, [] => none
  | .quoted mark :: outer, c :: cs =>
    match c, cs with
    | '\\', [] => none
    | '\\', _ :: cs => skipNested (.quoted mark :: outer) cs
    | c, cs => skipNested (if c = mark then outer else .quoted mark :: outer) cs
  | .template :: outer, c :: cs =>
    match c, cs with
    | '\\', [] => none
    | '\\', _ :: cs => skipNested (.template :: outer) cs
    | '$', '\x7b' :: cs => skipNested (.hole 1 :: .template :: outer) cs
    | c, cs => skipNested (if c = '`' then outer else .template :: outer) cs
  | .hole braces :: outer, c :: cs =>
    let next :=
      if c = '"' || c = '\'' then .quoted c :: .hole braces :: outer
      else if c = '`' then .template :: .hole braces :: outer
      else if c = '\x7b' then .hole (braces + 1) :: outer
      else if c = '\x7d' then if braces ≤ 1 then outer else .hole (braces - 1) :: outer
      else .hole braces :: outer
    skipNested next cs

theorem skipNested_suffix {nests : List Nest} {cs rest : List Char}
    (h : skipNested nests cs = some rest) : rest <:+ cs := by
  fun_induction skipNested nests cs with
  | case1 => simp_all
  | case2 | case3 | case6 => simp at h
  | case4 | case7 | case8 =>
    rename_i ih
    exact ((ih h).trans (List.suffix_cons _ _)).trans (List.suffix_cons _ _)
  | case5 | case9 | case10 =>
    rename_i ih
    exact (ih h).trans (List.suffix_cons _ _)

/-- A construct of scripts that hides a closing marker. -/
inductive Shield where
  | text (mark : Char)
  | template
  | comment
  deriving Repr, DecidableEq

namespace Shield

/-- The construct that starts at the front of a script. -/
def ofStart? : List Char → Option Shield
  | '"' :: _ => some (.text '"')
  | '\'' :: _ => some (.text '\'')
  | '`' :: _ => some .template
  | '/' :: '*' :: _ => some .comment
  | _ => none

/-- What is wrong when the construct has no end. -/
def unclosed : Shield → Cause
  | .text _ => .unterminatedText
  | .template => .unterminatedTemplate
  | .comment => .unterminatedComment

/-- The rest of a script after the construct at its front. -/
def after? (shield : Shield) (cs : List Char) : Option (List Char) :=
  match shield with
  | .text mark => skipNested [.quoted mark] cs.tail
  | .template => skipNested [.template] cs.tail
  | .comment => (Text.cutAt? ['*', '/'] cs.tail.tail).map (·.2)

theorem after?_suffix {shield : Shield} {cs rest : List Char} (h : shield.after? cs = some rest) :
    rest <:+ cs.tail := by
  cases shield with
  | text mark => exact skipNested_suffix h
  | template => exact skipNested_suffix h
  | comment =>
    obtain ⟨⟨before, after⟩, hc, he⟩ := Option.map_eq_some_iff.1 h
    simp only at he
    subst he
    exact (Text.cutAt?_suffix hc).trans (List.tail_suffix _)

end Shield

end Stencil
