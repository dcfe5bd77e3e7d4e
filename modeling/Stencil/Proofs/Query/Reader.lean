import Mathlib.Data.List.Basic
import Stencil.Query.Form

/-!
# Reading the brackets and the literals of a text

A reader of forms goes through a text character by character. It keeps the brackets that are open
and the literals that it has closed; a closing bracket has to match the innermost open one, and what
stands in a literal neither opens nor closes anything.

* `Reader.step` and `Reader.run` are the reader, `Reader.Step` lists all that a character can do;
  `Reader.run_framed` says that what was open and read before does not matter to a text that the
  reader gets through.
* `Reads`: a text is balanced by itself and its literals are these.
* `Form.reads`: the text of a form is, when its symbols are.
* `Reader.exists_hasEffect`: what a text without quotes does to the open brackets. It takes some
  away and puts others in their place, whatever lies beneath.
-/

namespace Stencil

/-- The brackets of forms; a set stands between curly ones. -/
inductive Bracket where
  | round | square | curly
  deriving Repr, DecidableEq

/-- What a character means outside of literals. -/
inductive Sign where
  | quote
  | opens (bracket : Bracket)
  | closes (bracket : Bracket)
  | other
  deriving Repr, DecidableEq

/-- The sign that a character is. -/
def Sign.ofChar (c : Char) : Sign :=
  if c = '"' then .quote
  else if c = '(' then .opens .round
  else if c = ')' then .closes .round
  else if c = '[' then .opens .square
  else if c = ']' then .closes .square
  else if c = '\x7b' then .opens .curly
  else if c = '\x7d' then .closes .curly
  else .other

theorem Sign.ofChar_digit {c : Char} (h : c.isDigit = true) : ofChar c = .other := by
  have hne : ∀ d : Char, d.isDigit = false → c ≠ d := fun d hd heq => by simp [← heq, h] at hd
  simp only [ofChar, if_neg (hne '"' rfl), if_neg (hne '(' rfl), if_neg (hne ')' rfl),
    if_neg (hne '[' rfl), if_neg (hne ']' rfl), if_neg (hne '\x7b' rfl), if_neg (hne '\x7d' rfl)]

/-- Where a reader of forms is. A literal is kept as far as it has been read. -/
inductive Reader.Place where
  | outside
  | literal (text : List Char)
  /-- Behind a backslash in a literal. -/
  | escape (text : List Char)
  deriving Repr, DecidableEq

/-- What a reader of forms keeps. -/
structure Reader where
  /-- The open brackets, the innermost first. -/
  opened : List Bracket
  /-- The literals that have been closed. -/
  literals : List String
  place : Reader.Place
  deriving Repr, DecidableEq

namespace Reader

/-- The character that an escape in a literal stands for. -/
def unescape? (c : Char) : Option Char :=
  if c = '"' ∨ c = '\\' then some c else if c = 'n' then some '\n' else none

/-- Opens a bracket. -/
def push (r : Reader) (bracket : Bracket) : Reader := { r with opened := bracket :: r.opened }

/-- Closes a bracket, which has to be the innermost open one. -/
def pop? (r : Reader) (bracket : Bracket) : Option Reader :=
  match r.opened with
  | [] => none
  | innermost :: rest => if innermost = bracket then some { r with opened := rest } else none

/-- Reads a character. -/
def step (r : Reader) (c : Char) : Option Reader :=
  match r.place with
  | .outside =>
    match Sign.ofChar c with
    | .quote => some { r with place := .literal [] }
    | .opens bracket => some (r.push bracket)
    | .closes bracket => r.pop? bracket
    | .other => some r
  | .literal text =>
    if c = '"' then
      some { r with literals := r.literals ++ [String.ofList text], place := .outside }
    else if c = '\\' then some { r with place := .escape text }
    else some { r with place := .literal (text ++ [c]) }
  | .escape text => (unescape? c).map fun d => { r with place := .literal (text ++ [d]) }

/-- Reads a text. -/
def run (r : Reader) (cs : List Char) : Option Reader := cs.foldlM step r

@[simp]
theorem run_nil (r : Reader) : r.run [] = some r := rfl

theorem run_cons (r : Reader) (c : Char) (cs : List Char) :
    r.run (c :: cs) = (r.step c).bind fun r' => r'.run cs := List.foldlM_cons

theorem run_append (r : Reader) (cs ds : List Char) :
    r.run (cs ++ ds) = (r.run cs).bind fun r' => r'.run ds := List.foldlM_append

/-- The reader that had more brackets open and more literals read from the start. -/
def framed (r : Reader) (opened : List Bracket) (literals : List String) : Reader :=
  { r with opened := r.opened ++ opened, literals := literals ++ r.literals }

/-! ## What a character does -/

variable {r r' : Reader} {c : Char}

/-- All that a character can do to a reader. -/
inductive Step : Reader → Char → Reader → Prop where
  | quote {opened literals c} : Sign.ofChar c = .quote →
    Step ⟨opened, literals, .outside⟩ c ⟨opened, literals, .literal []⟩
  | opens {opened literals c bracket} : Sign.ofChar c = .opens bracket →
    Step ⟨opened, literals, .outside⟩ c ⟨bracket :: opened, literals, .outside⟩
  | closes {opened literals c bracket} : Sign.ofChar c = .closes bracket →
    Step ⟨bracket :: opened, literals, .outside⟩ c ⟨opened, literals, .outside⟩
  | other {opened literals c} : Sign.ofChar c = .other →
    Step ⟨opened, literals, .outside⟩ c ⟨opened, literals, .outside⟩
  | finish {opened literals text} :
    Step ⟨opened, literals, .literal text⟩ '"' ⟨opened, literals ++ [.ofList text], .outside⟩
  | backslash {opened literals text} :
    Step ⟨opened, literals, .literal text⟩ '\\' ⟨opened, literals, .escape text⟩
  | literal {opened literals text c} : c ≠ '"' → c ≠ '\\' →
    Step ⟨opened, literals, .literal text⟩ c ⟨opened, literals, .literal (text ++ [c])⟩
  | escape {opened literals text c d} : unescape? c = some d →
    Step ⟨opened, literals, .escape text⟩ c ⟨opened, literals, .literal (text ++ [d])⟩

theorem Step.step_eq (h : Step r c r') : r.step c = some r' := by
  cases h with
  | quote hsign => simp only [step, hsign]
  | opens hsign => simp only [step, hsign, push]
  | closes hsign => simp only [step, hsign, pop?, if_true]
  | other hsign => simp only [step, hsign]
  | finish => rfl
  | backslash => rfl
  | literal hquote hslash => simp only [step, if_neg hquote, if_neg hslash]
  | escape hd => simp only [step, hd, Option.map_some]

theorem step_of_eq (h : r.step c = some r') : Step r c r' := by
  obtain ⟨opened, literals, place⟩ := r
  cases place with
  | outside =>
    cases hsign : Sign.ofChar c <;> simp only [step, hsign] at h
    case quote => exact Option.some.inj h ▸ .quote hsign
    case opens bracket => exact Option.some.inj h ▸ .opens hsign
    case other => exact Option.some.inj h ▸ .other hsign
    case closes bracket =>
      cases opened with
      | nil => exact nomatch h
      | cons innermost rest =>
        simp only [pop?] at h
        split at h
        · next heq => exact Option.some.inj h ▸ heq ▸ .closes (heq ▸ hsign)
        · exact nomatch h
  | literal text =>
    simp only [step] at h
    split at h
    · next hquote => exact Option.some.inj h ▸ hquote ▸ .finish
    · next hquote =>
      split at h
      · next hslash => exact Option.some.inj h ▸ hslash ▸ .backslash
      · next hslash => exact Option.some.inj h ▸ .literal hquote hslash
  | escape text =>
    obtain ⟨d, hd, rfl⟩ := Option.map_eq_some_iff.mp h
    exact .escape hd

/-! ## What was read before -/

theorem Step.framed (h : Step r c r') (opened : List Bracket) (literals : List String) :
    Step (r.framed opened literals) c (r'.framed opened literals) := by
  cases h with
  | quote hsign => exact .quote hsign
  | opens hsign => exact .opens hsign
  | closes hsign => exact .closes hsign
  | other hsign => exact .other hsign
  | finish =>
    simp only [Reader.framed, ← List.append_assoc]
    exact .finish
  | backslash => exact .backslash
  | literal hquote hslash => exact .literal hquote hslash
  | escape hd => exact .escape hd

/-- A text that the reader gets through is read alike over whatever was there before. -/
theorem run_framed {cs : List Char} (h : r.run cs = some r') (opened : List Bracket)
    (literals : List String) :
    (r.framed opened literals).run cs = some (r'.framed opened literals) := by
  induction cs generalizing r with
  | nil => rw [← Option.some.inj h]; rfl
  | cons c cs ih =>
    rw [run_cons] at h ⊢
    obtain ⟨next, hstep, hrun⟩ := Option.bind_eq_some_iff.mp h
    rw [((step_of_eq hstep).framed opened literals).step_eq, Option.bind_some, ih hrun]

end Reader

/-! ## Balanced texts -/

/-- A text has all its brackets balanced and nested and all its literals closed, and these are its
literals in order, without their escapes. -/
def Reads (text : String) (literals : List String) : Prop :=
  Reader.run ⟨[], [], .outside⟩ text.toList = some ⟨[], literals, .outside⟩

instance (text : String) (literals : List String) : Decidable (Reads text literals) :=
  inferInstanceAs (Decidable (_ = _))

section Balanced

variable {s t : String} {lits lits' : List String}

/-- A balanced text adds its literals and leaves the open brackets as they were. -/
theorem Reads.run (h : Reads s lits) (opened : List Bracket) (literals : List String) :
    Reader.run ⟨opened, literals, .outside⟩ s.toList =
      some ⟨opened, literals ++ lits, .outside⟩ := by
  simpa [Reader.framed] using Reader.run_framed h opened literals

theorem Reads.append (h : Reads s lits) (h' : Reads t lits') : Reads (s ++ t) (lits ++ lits') := by
  rw [Reads, String.toList_append, Reader.run_append, h, Option.bind_some, h'.run]

/-- A text between two brackets that match. -/
theorem Reads.between {opening closing : String} (bracket : Bracket) (h : Reads s lits)
    (hopening : Reader.run ⟨[], [], .outside⟩ opening.toList = some ⟨[bracket], [], .outside⟩)
    (hclosing : Reader.run ⟨[bracket], [], .outside⟩ closing.toList = some ⟨[], [], .outside⟩) :
    Reads (opening ++ s ++ closing) lits := by
  have hframed := Reader.run_framed hclosing [] lits
  rw [Reads, String.toList_append, String.toList_append, Reader.run_append, Reader.run_append,
    hopening, Option.bind_some, h.run, Option.bind_some]
  simpa [Reader.framed] using hframed

/-- A text without brackets and quotes. -/
theorem reads_of_other (h : ∀ c ∈ s.toList, Sign.ofChar c = .other) : Reads s [] := by
  rw [Reads]
  revert h
  induction s.toList with
  | nil => exact fun _ => rfl
  | cons c cs ih =>
    intro h
    rw [List.forall_mem_cons] at h
    rw [Reader.run_cons, Reader.step, h.1, Option.bind_some, ih h.2]

end Balanced

/-! ## Quoted texts -/

theorem Reader.run_quoteChar (opened : List Bracket) (literals : List String) (text : List Char)
    (c : Char) :
    Reader.run ⟨opened, literals, .literal text⟩ (Text.quoteChar c) =
      some ⟨opened, literals, .literal (text ++ [c])⟩ := by
  rw [Text.quoteChar]
  split
  · next hquote => rw [hquote]; rfl
  · next hquote =>
    split
    · next hslash => rw [hslash]; rfl
    · next hslash =>
      split
      · next hfeed => rw [hfeed]; rfl
      · simp only [Reader.run_cons, Reader.run_nil, Reader.step, if_neg hquote, if_neg hslash,
          Option.bind_some]

/-- The escapes of a quoted text stand for its characters. -/
theorem Reader.run_flatMap_quoteChar (opened : List Bracket) (literals : List String)
    (text cs : List Char) :
    Reader.run ⟨opened, literals, .literal text⟩ (cs.flatMap Text.quoteChar) =
      some ⟨opened, literals, .literal (text ++ cs)⟩ := by
  induction cs generalizing text with
  | nil => rw [List.flatMap_nil, Reader.run_nil, List.append_nil]
  | cons c cs ih =>
    rw [List.flatMap_cons, Reader.run_append, Reader.run_quoteChar, Option.bind_some, ih,
      List.append_assoc, List.singleton_append]

theorem reads_quoted (text : String) : Reads (quoted text) [text] := by
  rw [Reads, quoted, String.toList_ofList, Text.quote, List.cons_append, Reader.run_cons]
  have hopen : Reader.step ⟨[], [], .outside⟩ '"' = some ⟨[], [], .literal []⟩ := rfl
  have hclose : Reader.step ⟨[], [], .literal text.toList⟩ '"' =
      some ⟨[], [String.ofList text.toList], .outside⟩ := rfl
  rw [hopen, Option.bind_some, Reader.run_append, Reader.run_flatMap_quoteChar, Option.bind_some,
    List.nil_append, Reader.run_cons, hclose, Option.bind_some, Reader.run_nil,
    String.ofList_toList]

/-! ## Forms -/

namespace Form

mutual

/-- The literals of a form. -/
def literals : Form → List String
  | .symbol _ => []
  | .literal text => [text]
  | .vector forms | .call forms | .set forms => literalsAll forms

/-- The literals of forms. -/
def literalsAll : List Form → List String
  | [] => []
  | f :: fs => literals f ++ literalsAll fs

end

mutual

/-- The symbols of a form. -/
def symbols : Form → List String
  | .symbol name => [name]
  | .literal _ => []
  | .vector forms | .call forms | .set forms => symbolsAll forms

/-- The symbols of forms. -/
def symbolsAll : List Form → List String
  | [] => []
  | f :: fs => symbols f ++ symbolsAll fs

end

/-- The first of several forms is followed by a blank. -/
theorem textAll_cons (f : Form) {fs : List Form} (h : fs ≠ []) :
    textAll (f :: fs) = text f ++ " " ++ textAll fs := by
  cases fs with
  | nil => exact absurd rfl h
  | cons g gs => rfl

theorem reads_blank : Reads " " [] := by decide

mutual

/-- A form with balanced symbols is balanced, and its literals read back. -/
theorem reads (f : Form) (h : ∀ name ∈ symbols f, Reads name []) : Reads (text f) (literals f) := by
  cases f with
  | symbol name => exact h name (List.mem_singleton_self name)
  | literal s => exact reads_quoted s
  | vector fs => exact (readsAll fs h).between .square rfl rfl
  | call fs => exact (readsAll fs h).between .round rfl rfl
  | set fs => exact (readsAll fs h).between .curly rfl rfl

theorem readsAll (fs : List Form) (h : ∀ name ∈ symbolsAll fs, Reads name []) :
    Reads (textAll fs) (literalsAll fs) := by
  cases fs with
  | nil => rfl
  | cons f fs =>
    rw [symbolsAll, List.forall_mem_append] at h
    have hfirst := reads f h.1
    by_cases hrest : fs = []
    · rw [hrest, textAll, literalsAll, literalsAll, List.append_nil]
      exact hfirst
    · rw [textAll_cons f hrest, literalsAll, ← List.append_nil (literals f)]
      exact (hfirst.append reads_blank).append (readsAll fs h.2)

end

end Form

/-! ## Texts without literals -/

namespace Reader

variable {r r' : Reader} {c : Char} {cs : List Char}

theorem Step.literals_length (h : Step r c r') : r.literals.length ≤ r'.literals.length := by
  cases h with
  | finish => simp
  | _ => exact Nat.le_refl _

theorem run_literals_length (h : r.run cs = some r') : r.literals.length ≤ r'.literals.length := by
  induction cs generalizing r with
  | nil => exact Option.some.inj h ▸ Nat.le_refl _
  | cons c cs ih =>
    obtain ⟨next, hstep, hrun⟩ := Option.bind_eq_some_iff.mp h
    exact Nat.le_trans (step_of_eq hstep).literals_length (ih hrun)

/-- Where no literal is added, none is opened: what the reader gets through has no quote. -/
theorem no_quote_of_run (h : r.run cs = some r') (hout : r'.place = .outside)
    (hno : r'.literals.length ≤ r.literals.length) :
    r.place = .outside ∧ ∀ c ∈ cs, Sign.ofChar c ≠ .quote := by
  induction cs generalizing r with
  | nil => exact ⟨Option.some.inj h ▸ hout, nofun⟩
  | cons c cs ih =>
    obtain ⟨next, hstep, hrun⟩ := Option.bind_eq_some_iff.mp h
    have hstep := step_of_eq hstep
    obtain ⟨hnext, hcs⟩ := ih hrun (Nat.le_trans hno hstep.literals_length)
    rw [List.forall_mem_cons]
    cases hstep with
    | quote hsign => exact nomatch hnext
    | opens hsign | closes hsign | other hsign => exact ⟨rfl, by rw [hsign]; exact nofun, hcs⟩
    | finish =>
      have hmore := run_literals_length hrun
      simp only [List.length_append, List.length_singleton] at hmore hno
      omega
    | backslash | literal | escape => exact nomatch hnext

/-! ## What a text does to the open brackets -/

/-- A text that does the same to the open brackets wherever it gets through: it takes `taken` away
and puts `put` in their place. -/
def HasEffect (cs : List Char) (taken put : List Bracket) : Prop :=
  ∀ opened literals r, run ⟨opened, literals, .outside⟩ cs = some r ↔
    ∃ beneath, opened = taken ++ beneath ∧ r = ⟨put ++ beneath, literals, .outside⟩

theorem hasEffect_nil : HasEffect [] [] [] := by
  intro opened literals r
  rw [run_nil, Option.some_inj]
  exact ⟨fun h => ⟨opened, rfl, h.symm⟩, fun ⟨_, hopened, hr⟩ => by rw [hopened, hr]⟩

variable {taken put : List Bracket} {bracket : Bracket}

theorem HasEffect.other (hsign : Sign.ofChar c = .other) (h : HasEffect cs taken put) :
    HasEffect (c :: cs) taken put := by
  intro opened literals r
  rw [run_cons, step, hsign, Option.bind_some]
  exact h opened literals r

theorem HasEffect.closes (hsign : Sign.ofChar c = .closes bracket) (h : HasEffect cs taken put) :
    HasEffect (c :: cs) (bracket :: taken) put := by
  intro opened literals r
  simp only [run_cons, step, hsign, pop?]
  cases opened with
  | nil => simp
  | cons innermost rest =>
    by_cases heq : innermost = bracket
    · simp only [heq, if_true, Option.bind_some, h rest literals r, List.cons_append,
        List.cons.injEq, true_and]
    · simp [heq]

/-- The bracket stays open when the rest takes none away. -/
theorem HasEffect.opens_nil (hsign : Sign.ofChar c = .opens bracket) (h : HasEffect cs [] put) :
    HasEffect (c :: cs) [] (put ++ [bracket]) := by
  intro opened literals r
  rw [run_cons, step, hsign, Option.bind_some, push, h (bracket :: opened) literals r]
  simp

/-- The bracket is the first that the rest takes away. -/
theorem HasEffect.opens_cons (hsign : Sign.ofChar c = .opens bracket)
    (h : HasEffect cs (bracket :: taken) put) : HasEffect (c :: cs) taken put := by
  intro opened literals r
  rw [run_cons, step, hsign, Option.bind_some, push, h (bracket :: opened) literals r]
  simp only [List.cons_append, List.cons.injEq, true_and]

/-- A text without quotes has an effect on the open brackets, or it never gets through. -/
theorem exists_hasEffect (hquote : ∀ c ∈ cs, Sign.ofChar c ≠ .quote) :
    (∀ opened literals, run ⟨opened, literals, .outside⟩ cs = none) ∨
      ∃ taken put, HasEffect cs taken put := by
  induction cs with
  | nil => exact .inr ⟨[], [], hasEffect_nil⟩
  | cons c cs ih =>
    rw [List.forall_mem_cons] at hquote
    rcases ih hquote.2 with hnone | ⟨taken, put, heffect⟩
    · refine .inl fun opened literals => ?_
      rw [run_cons, Option.bind_eq_none_iff]
      intro r hstep
      cases step_of_eq hstep with
      | quote hsign => exact absurd hsign hquote.1
      | opens | closes | other => exact hnone _ _
    cases hsign : Sign.ofChar c with
    | quote => exact absurd hsign hquote.1
    | other => exact .inr ⟨taken, put, heffect.other hsign⟩
    | closes bracket => exact .inr ⟨bracket :: taken, put, heffect.closes hsign⟩
    | opens bracket =>
      cases taken with
      | nil => exact .inr ⟨[], put ++ [bracket], heffect.opens_nil hsign⟩
      | cons next taken =>
        by_cases heq : next = bracket
        · exact .inr ⟨taken, put, (heq ▸ heffect).opens_cons hsign⟩
        -- The rest takes another bracket away, so it never gets through behind this one.
        · refine .inl fun opened literals => Option.eq_none_iff_forall_ne_some.mpr fun r hrun => ?_
          rw [run_cons, step, hsign, Option.bind_some, push, heffect] at hrun
          obtain ⟨beneath, hopened, -⟩ := hrun
          exact heq (List.cons.inj hopened).1.symm

end Reader

end Stencil
