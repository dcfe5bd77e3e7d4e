import Stencil.Proofs.Decimal.Numeral
import Stencil.Proofs.Query.Reader
import Stencil.Proofs.Text.Trim

/-!
# Forms read back from their text

A parser cuts a text into symbols, literals and brackets and puts the forms together again. Blanks
and commas stand between forms; a symbol goes on to the next character that cannot be in one.

* `Parser.step` and `Parser.read?` are the parser, `Form.ofText?` reads a whole text.
* `Form.isSymbol`: a text reads as one symbol.
* `Form.ofText?_textAll`: forms whose symbols do so are what their text reads as.
-/

namespace Stencil

namespace Form

/-- Whether a character stands between forms only. -/
def isSeparator (c : Char) : Bool := Text.isBlank c || c = ','

/-- Characters that end a symbol and begin something that is no form of a query, such as a
comment. -/
def otherMarks : List Char := [';', '\\', '^', '@', '~', '\x60']

/-- Whether a character can stand in a symbol. -/
def isSymbolChar (c : Char) : Bool :=
  !isSeparator c && Sign.ofChar c = .other && !otherMarks.contains c

/-- Whether a text reads as one symbol. -/
def isSymbol (name : String) : Bool :=
  name.toList.head?.any (· ≠ '#') && name.toList.all isSymbolChar

theorem isSymbolChar_of_isDigit {c : Char} (h : c.isDigit = true) : isSymbolChar c = true := by
  have hmarks : ∀ d ∈ ',' :: otherMarks, c ≠ d := by
    rintro d hd rfl
    have hno : (',' :: otherMarks).all (fun d => !d.isDigit) = true := by decide
    have hc := List.all_eq_true.mp hno c hd
    rw [h] at hc
    exact nomatch hc
  rw [List.forall_mem_cons] at hmarks
  have hother : otherMarks.contains c = false :=
    Bool.eq_false_iff.mpr fun hmem => hmarks.2 c (List.contains_iff_mem.mp hmem) rfl
  rw [isSymbolChar, isSeparator, Text.isBlank_of_isDigit h, decide_eq_false hmarks.1,
    Sign.ofChar_digit h, hother]
  rfl

theorem isSymbol_append {name rest : String} (h : isSymbol name = true)
    (hrest : rest.toList.all isSymbolChar = true) : isSymbol (name ++ rest) = true := by
  rw [isSymbol, Bool.and_eq_true] at h ⊢
  obtain ⟨hhead, hall⟩ := h
  rw [String.toList_append, List.all_append, hall, hrest, List.head?_append]
  cases hname : name.toList.head? with
  | none => rw [hname] at hhead; exact nomatch hhead
  | some c => rw [hname] at hhead; exact ⟨hhead, rfl⟩

theorem all_isSymbolChar_repr (n : Nat) : n.repr.toList.all isSymbolChar = true := by
  rw [List.all_eq_true, Nat.toList_repr]
  exact fun c hc => isSymbolChar_of_isDigit (Decimal.isDigit_of_mem_toDigits hc)

theorem isSymbol_integer (n : Int) : isSymbol n.repr = true := by
  cases n with
  | ofNat n =>
    show isSymbol n.repr = true
    rw [isSymbol, all_isSymbolChar_repr, Bool.and_true, Nat.toList_repr]
    cases hdigits : Nat.toDigits 10 n with
    | nil => exact absurd hdigits Nat.toDigits_ne_nil
    | cons c cs =>
      have hdigit : c.isDigit = true :=
        Decimal.isDigit_of_mem_toDigits (hdigits ▸ List.mem_cons_self)
      refine decide_eq_true fun hmark => ?_
      rw [hmark] at hdigit
      exact nomatch hdigit
  | negSucc n =>
    have hsign : isSymbol "-" = true := by decide
    exact isSymbol_append hsign (all_isSymbolChar_repr (n + 1))

/-- The form with a bracket around some forms. -/
def ofBracket : Bracket → List Form → Form
  | .round, forms => .call forms
  | .square, forms => .vector forms
  | .curly, forms => .set forms

end Form

open Form

/-- Where a parser of forms is. What it is in is kept as far as it has been read. -/
inductive Parser.Place where
  | outside
  | symbol (name : List Char)
  | literal (text : List Char)
  /-- Behind a backslash in a literal. -/
  | escape (text : List Char)
  /-- Behind the mark in front of the bracket of a set. -/
  | mark

/-- What a parser of forms keeps. -/
structure Parser where
  /-- The open brackets, the innermost first, each with the forms that stand in front of it. -/
  outer : List (Bracket × List Form)
  /-- The forms behind the innermost open bracket. -/
  forms : List Form
  place : Parser.Place

namespace Parser

/-- Adds a form. -/
def add (p : Parser) (f : Form) : Parser := ⟨p.outer, p.forms ++ [f], .outside⟩

/-- Opens a bracket. -/
def enter (p : Parser) (bracket : Bracket) : Parser :=
  ⟨(bracket, p.forms) :: p.outer, [], .outside⟩

/-- Closes a bracket, which has to be the innermost open one. -/
def leave? (p : Parser) (bracket : Bracket) : Option Parser :=
  match p.outer with
  | [] => none
  | (innermost, before) :: outer =>
    if innermost = bracket then some ⟨outer, before ++ [ofBracket bracket p.forms], .outside⟩
    else none

/-- Reads a character between forms. -/
def start? (p : Parser) (c : Char) : Option Parser :=
  if isSeparator c then some { p with place := .outside }
  else match Sign.ofChar c with
    | .quote => some { p with place := .literal [] }
    -- Curly brackets without a mark would be a map, which queries do not have.
    | .opens .curly => none
    | .opens bracket => some (p.enter bracket)
    | .closes bracket => p.leave? bracket
    | .other =>
      if c = '#' then some { p with place := .mark }
      else if isSymbolChar c then some { p with place := .symbol [c] } else none

/-- Reads a character. -/
def step (p : Parser) (c : Char) : Option Parser :=
  match p.place with
  | .outside => p.start? c
  | .symbol name =>
    if isSymbolChar c then some { p with place := .symbol (name ++ [c]) }
    else (p.add (.symbol (String.ofList name))).start? c
  | .literal text =>
    if c = '"' then some (p.add (.literal (String.ofList text)))
    else if c = '\\' then some { p with place := .escape text }
    else some { p with place := .literal (text ++ [c]) }
  | .escape text => (Reader.unescape? c).map fun d => { p with place := .literal (text ++ [d]) }
  | .mark => if c = '\x7b' then some (p.enter .curly) else none

/-- The forms of a text that ends here, if nothing is left open. -/
def finish? (p : Parser) : Option (List Form) :=
  match p.outer, p.place with
  | [], .outside => some p.forms
  | [], .symbol name => some (p.forms ++ [.symbol (String.ofList name)])
  | _, _ => none

/-- Reads the rest of a text. -/
def read? (p : Parser) : List Char → Option (List Form)
  | [] => p.finish?
  | c :: cs => (p.step c).bind fun p => p.read? cs

end Parser

/-- The forms of a text. -/
def Form.ofText? (text : String) : Option (List Form) :=
  Parser.read? ⟨[], [], .outside⟩ text.toList

namespace Parser

/-- A symbol in front of the text ends there. -/
def EndsSymbol (rest : List Char) : Prop := ∀ c ∈ rest.head?, isSymbolChar c = false

variable {outer : List (Bracket × List Form)} {forms : List Form} {rest : List Char}

theorem step_outside (c : Char) :
    step ⟨outer, forms, .outside⟩ c = start? ⟨outer, forms, .outside⟩ c := rfl

theorem step_symbol (name : List Char) (c : Char) :
    step ⟨outer, forms, .symbol name⟩ c =
      if isSymbolChar c then some ⟨outer, forms, .symbol (name ++ [c])⟩
      else start? ⟨outer, forms ++ [.symbol (String.ofList name)], .outside⟩ c := rfl

theorem step_literal (text : List Char) (c : Char) :
    step ⟨outer, forms, .literal text⟩ c =
      if c = '"' then some ⟨outer, forms ++ [.literal (String.ofList text)], .outside⟩
      else if c = '\\' then some ⟨outer, forms, .escape text⟩
      else some ⟨outer, forms, .literal (text ++ [c])⟩ := rfl

/-! ## Symbols -/

theorem read?_symbol_append (name : List Char) {cs : List Char} (h : cs.all isSymbolChar = true) :
    read? ⟨outer, forms, .symbol name⟩ (cs ++ rest) =
      read? ⟨outer, forms, .symbol (name ++ cs)⟩ rest := by
  induction cs generalizing name with
  | nil => rw [List.nil_append, List.append_nil]
  | cons c cs ih =>
    obtain ⟨hc, hcs⟩ := Bool.and_eq_true_iff.mp h
    rw [List.cons_append, read?, step_symbol, if_pos hc, Option.bind_some, ih _ hcs,
      List.append_assoc, List.singleton_append]

/-- A symbol is complete where the text ends or goes on with a character of another kind. -/
theorem read?_symbol_end (name : List Char) (h : EndsSymbol rest) :
    read? ⟨outer, forms, .symbol name⟩ rest =
      read? ⟨outer, forms ++ [.symbol (String.ofList name)], .outside⟩ rest := by
  cases rest with
  | nil => cases outer <;> rfl
  | cons c cs =>
    rw [read?, read?, step_symbol, step_outside, if_neg (Bool.eq_false_iff.mp (h c rfl))]

theorem start?_symbolChar {c : Char} (h : isSymbolChar c = true) (hmark : c ≠ '#') :
    start? ⟨outer, forms, .outside⟩ c = some ⟨outer, forms, .symbol [c]⟩ := by
  have hc := h
  simp only [isSymbolChar, Bool.and_eq_true, Bool.not_eq_true', decide_eq_true_eq] at hc
  obtain ⟨⟨hseparator, hsign⟩, -⟩ := hc
  simp only [start?, hseparator, hsign, if_neg hmark, if_pos h, Bool.false_eq_true, if_false]

theorem read?_symbol {name : String} (h : isSymbol name = true) (hrest : EndsSymbol rest) :
    read? ⟨outer, forms, .outside⟩ (name.toList ++ rest) =
      read? ⟨outer, forms ++ [.symbol name], .outside⟩ rest := by
  obtain ⟨hhead, hall⟩ := Bool.and_eq_true_iff.mp h
  cases hname : name.toList with
  | nil => rw [hname] at hhead; exact nomatch hhead
  | cons c cs =>
    rw [hname, List.head?_cons, Option.any_some, decide_eq_true_eq] at hhead
    rw [hname] at hall
    obtain ⟨hc, hcs⟩ := Bool.and_eq_true_iff.mp hall
    rw [List.cons_append, read?, step_outside, start?_symbolChar hc hhead, Option.bind_some,
      read?_symbol_append [c] hcs, read?_symbol_end _ hrest, List.singleton_append, ← hname,
      String.ofList_toList]

/-! ## Literals -/

theorem read?_quoteChar (text : List Char) (c : Char) :
    read? ⟨outer, forms, .literal text⟩ (Text.quoteChar c ++ rest) =
      read? ⟨outer, forms, .literal (text ++ [c])⟩ rest := by
  rw [Text.quoteChar]
  split
  · next hquote => rw [hquote]; rfl
  · next hquote =>
    split
    · next hslash => rw [hslash]; rfl
    · next hslash =>
      split
      · next hfeed => rw [hfeed]; rfl
      · rw [List.singleton_append, read?, step_literal, if_neg hquote, if_neg hslash,
          Option.bind_some]

theorem read?_flatMap_quoteChar (text cs : List Char) :
    read? ⟨outer, forms, .literal text⟩ (cs.flatMap Text.quoteChar ++ rest) =
      read? ⟨outer, forms, .literal (text ++ cs)⟩ rest := by
  induction cs generalizing text with
  | nil => rw [List.flatMap_nil, List.nil_append, List.append_nil]
  | cons c cs ih =>
    rw [List.flatMap_cons, List.append_assoc, read?_quoteChar, ih, List.append_assoc,
      List.singleton_append]

theorem read?_quoted (text : String) :
    read? ⟨outer, forms, .outside⟩ ((quoted text).toList ++ rest) =
      read? ⟨outer, forms ++ [.literal text], .outside⟩ rest := by
  have hopen : start? ⟨outer, forms, .outside⟩ '"' = some ⟨outer, forms, .literal []⟩ := rfl
  rw [quoted, String.toList_ofList, Text.quote, List.cons_append, List.cons_append,
    List.append_assoc, read?, step_outside, hopen, Option.bind_some, read?_flatMap_quoteChar,
    List.nil_append, List.singleton_append, read?, step_literal, if_pos rfl, Option.bind_some,
    String.ofList_toList]

/-! ## Forms -/

theorem endsSymbol_cons {c : Char} (h : isSymbolChar c = false) (cs : List Char) :
    EndsSymbol (c :: cs) := fun _ hd => Option.some.inj hd ▸ h

mutual

/-- The text of a form is read as the form, as long as what follows does not go on with a symbol. -/
theorem read?_text (f : Form) (h : ∀ name ∈ symbols f, isSymbol name = true)
    (outer : List (Bracket × List Form)) (forms : List Form) {rest : List Char}
    (hrest : EndsSymbol rest) :
    read? ⟨outer, forms, .outside⟩ ((text f).toList ++ rest) =
      read? ⟨outer, forms ++ [f], .outside⟩ rest := by
  cases f with
  | symbol name => exact read?_symbol (h name (List.mem_singleton_self name)) hrest
  | literal s => exact read?_quoted s
  | vector fs =>
    have hend : EndsSymbol (']' :: rest) := endsSymbol_cons (by decide) rest
    have hfs := read?_textAll fs h ((.square, forms) :: outer) [] hend
    rw [text, String.toList_append, String.toList_append, List.append_assoc, List.append_assoc]
    exact hfs
  | call fs =>
    have hend : EndsSymbol (')' :: rest) := endsSymbol_cons (by decide) rest
    have hfs := read?_textAll fs h ((.round, forms) :: outer) [] hend
    rw [text, String.toList_append, String.toList_append, List.append_assoc, List.append_assoc]
    exact hfs
  | set fs =>
    have hend : EndsSymbol ('\x7d' :: rest) := endsSymbol_cons (by decide) rest
    have hfs := read?_textAll fs h ((.curly, forms) :: outer) [] hend
    rw [text, String.toList_append, String.toList_append, List.append_assoc, List.append_assoc]
    exact hfs

theorem read?_textAll (fs : List Form) (h : ∀ name ∈ symbolsAll fs, isSymbol name = true)
    (outer : List (Bracket × List Form)) (forms : List Form) {rest : List Char}
    (hrest : EndsSymbol rest) :
    read? ⟨outer, forms, .outside⟩ ((textAll fs).toList ++ rest) =
      read? ⟨outer, forms ++ fs, .outside⟩ rest := by
  cases fs with
  | nil => rw [textAll, List.append_nil]; rfl
  | cons f fs =>
    rw [symbolsAll, List.forall_mem_append] at h
    by_cases hfs : fs = []
    · rw [hfs, textAll]
      exact read?_text f h.1 outer forms hrest
    · have hend : EndsSymbol (' ' :: ((textAll fs).toList ++ rest)) :=
        endsSymbol_cons (by decide) _
      have hblank : start? ⟨outer, forms ++ [f], .outside⟩ ' ' =
        some ⟨outer, forms ++ [f], .outside⟩ := rfl
      rw [textAll_cons f hfs, String.toList_append, String.toList_append, List.append_assoc,
        List.append_assoc]
      show read? _ ((text f).toList ++ ' ' :: ((textAll fs).toList ++ rest)) = _
      rw [read?_text f h.1 outer forms hend, read?, step_outside, hblank, Option.bind_some,
        read?_textAll fs h.2 outer _ hrest, List.append_assoc, List.singleton_append]

end

end Parser

/-- **Forms are what their text reads as** when their symbols read as symbols. -/
theorem Form.ofText?_textAll {fs : List Form} (h : ∀ name ∈ symbolsAll fs, isSymbol name = true) :
    ofText? (textAll fs) = some fs := by
  have hend : Parser.EndsSymbol [] := nofun
  have hread := Parser.read?_textAll fs h [] [] hend
  rw [List.append_nil, List.nil_append] at hread
  exact hread

end Stencil
