import Stencil.Proofs.Script.Passage
import Stencil.Proofs.Script.Shift
import Stencil.Proofs.Text.Search

/-!
# Windows of a source

A script is a part of a source, and everything that is read off it or found wrong with it concerns
bytes of that part.

* `Window` is a part of a source. `Marks`, `Shows` and `Holds` say that an offset, a span and a text
  lie in it, with both ends between characters.
* `Window.Outcome` is a property of a result; the span of a fault always has to lie in the window.
  `Outcome.bind` moves it along a computation.
* `lexemes_outcome`: the lexemes of a text in the window lie there in order.
* `rawParts_stand`: so do the pieces of a template literal.
-/

namespace Stencil

open Script Text

/-- A part of a source. -/
structure Window where
  source : List Char
  span : Span

namespace Window

/-- An offset in the window, between two characters. -/
structure Marks (w : Window) (n : Nat) : Prop where
  low : w.span.start ≤ n
  high : n ≤ w.span.stop
  boundary : IsBoundary w.source n

/-- A span in the window that cuts no character. -/
structure Shows (w : Window) (s : Span) : Prop where
  start : w.Marks s.start
  stop : w.Marks s.stop
  ordered : s.start ≤ s.stop

/-- A text that stands at an offset in the window. -/
structure Holds (w : Window) (offset : Nat) (cs : List Char) : Prop where
  stands : ∃ before after, w.source = before ++ (cs ++ after) ∧ offset = byteLength before
  low : w.span.start ≤ offset
  high : offset + byteLength cs ≤ w.span.stop

variable {w : Window} {offset n : Nat} {s : Span} {cs ds : List Char}

theorem Shows.inside (h : w.Shows s) : s.Inside w.span := ⟨h.start.low, h.ordered, h.stop.high⟩

theorem Marks.shows (h : w.Marks n) : w.Shows ⟨n, n⟩ := ⟨h, h, Nat.le_refl n⟩

/-- What a window shows is shown by a larger one. -/
theorem Shows.widen {source : List Char} {t u : Span} (h : Shows ⟨source, t⟩ s)
    (ht : t.Inside u) : Shows ⟨source, u⟩ s := by
  obtain ⟨hlow, -, hhigh⟩ := ht
  have hmarks {m : Nat} (hm : Marks ⟨source, t⟩ m) : Marks ⟨source, u⟩ m :=
    ⟨Nat.le_trans hlow hm.low, Nat.le_trans hm.high hhigh, hm.boundary⟩
  exact ⟨hmarks h.start, hmarks h.stop, h.ordered⟩

/-- A window around everything that `before` leaves of a source in front of `after`. -/
theorem holds_between (before after : List Char) :
    Holds ⟨before ++ (cs ++ after), ⟨byteLength before, byteLength before + byteLength cs⟩⟩
      (byteLength before) cs :=
  ⟨⟨before, after, rfl, rfl⟩, Nat.le_refl _, Nat.le_refl _⟩

namespace Holds

theorem left (h : w.Holds offset (cs ++ ds)) : w.Holds offset cs := by
  obtain ⟨⟨before, after, hsource, hoffset⟩, hlow, hhigh⟩ := h
  rw [byteLength_append] at hhigh
  exact ⟨⟨before, ds ++ after, by rw [hsource, List.append_assoc], hoffset⟩, hlow, by omega⟩

theorem right (h : w.Holds offset (cs ++ ds)) : w.Holds (offset + byteLength cs) ds := by
  obtain ⟨⟨before, after, hsource, hoffset⟩, hlow, hhigh⟩ := h
  rw [byteLength_append] at hhigh
  refine ⟨⟨before ++ cs, after, ?_, by rw [byteLength_append, hoffset]⟩, by omega, by omega⟩
  rw [hsource, List.append_assoc, List.append_assoc]

theorem marks (h : w.Holds offset cs) : w.Marks offset := by
  obtain ⟨⟨before, after, hsource, hoffset⟩, hlow, hhigh⟩ := h
  exact ⟨hlow, by omega, before, cs ++ after, hsource, hoffset⟩

theorem shows (h : w.Holds offset cs) : w.Shows ⟨offset, offset + byteLength cs⟩ := by
  have hend : w.Holds (offset + byteLength cs) [] := right (by rwa [List.append_nil])
  exact ⟨h.marks, hend.marks, Nat.le_add_right _ _⟩

theorem head {c : Char} (h : w.Holds offset (c :: cs)) : w.Holds offset [c] :=
  @left w offset [c] cs h

theorem tail {c : Char} (h : w.Holds offset (c :: cs)) : w.Holds (offset + c.utf8Size) cs :=
  @right w offset [c] cs h

end Holds

/-! ## Results -/

variable {α β : Type} {P : α → Prop} {Q : β → Prop}

/-- A result that satisfies `P`, or a fault in the window. -/
def Outcome (w : Window) (P : α → Prop) : Except Fault α → Prop
  | .ok a => P a
  | .error fault => w.Shows fault.span

theorem Outcome.bind {x : Except Fault α} {f : α → Except Fault β} (hx : w.Outcome P x)
    (hf : ∀ a, P a → w.Outcome Q (f a)) : w.Outcome Q (x >>= f) := by
  cases x with
  | error fault => exact hx
  | ok a => exact hf a hx

/-- What is done with a result may depend on where it comes from. -/
theorem Outcome.bind_of_ok {x : Except Fault α} {f : α → Except Fault β} (hx : w.Outcome P x)
    (hf : ∀ a, x = .ok a → w.Outcome Q (f a)) : w.Outcome Q (x >>= f) := by
  cases x with
  | error fault => exact hx
  | ok a => exact hf a rfl

theorem Outcome.map {x : Except Fault α} {f : α → β} (hx : w.Outcome P x)
    (hf : ∀ a, P a → Q (f a)) : w.Outcome Q (x.map f) := by
  cases x with
  | error fault => exact hx
  | ok a => exact hf a hx

theorem Outcome.imp {P' : α → Prop} {x : Except Fault α} (hx : w.Outcome P x)
    (h : ∀ a, P a → P' a) : w.Outcome P' x := by
  cases x with
  | error fault => exact hx
  | ok a => exact h a hx

end Window

open Window

variable {w : Window} {offset : Nat} {cs : List Char}

/-! ## Lexemes -/

/-- A token whose body, if it is a template literal, stands where it says. -/
def Script.Token.Stands (w : Window) : Token → Prop
  | .template body offset => w.Holds offset body
  | _ => True

/-- A lexeme that lies in the window. -/
structure Script.Lexeme.Stands (w : Window) (lexeme : Lexeme) : Prop where
  token : lexeme.token.Stands w
  span : w.Shows lexeme.span

theorem stands_ofWord (word : String) : (Token.ofWord word).Stands w := by
  unfold Token.ofWord
  repeat' split
  all_goals trivial

theorem readToken_outcome {c : Char} (h : w.Holds offset (c :: cs)) :
    w.Outcome (fun result => ∀ token ∈ result.1, token.Stands w) (readToken offset c cs) := by
  have hend : w.Shows ⟨offset, offset + byteLength (c :: cs)⟩ := h.shows
  unfold readToken
  dsimp only
  split
  · exact fun token htoken => Option.some.inj htoken ▸ trivial
  split
  · exact nofun
  split
  · exact nofun
  split
  · split
    · exact nofun
    · exact hend
  split
  · split
    · exact fun token htoken => Option.some.inj htoken ▸ trivial
    · exact hend
  split
  · next hmark =>
    split
    · next body rest hscan =>
      rintro token ⟨⟩
      rw [scanTemplate?_eq hscan, hmark] at h
      exact h.tail.left
    · exact hend
  split
  · split
    · exact fun token htoken => Option.some.inj htoken ▸ trivial
    · rw [← scanNumber_eq (c :: cs)] at h
      exact h.left.shows
  split
  · exact fun token htoken => Option.some.inj htoken ▸ stands_ofWord _
  · split
    · exact fun token htoken => Option.some.inj htoken ▸ trivial
    · exact h.head.shows

/-- Lexemes that lie in the window in order, none of them before `floor`. -/
structure LexemesStand (w : Window) (floor : Nat) (lexemes : List Lexeme) : Prop where
  stands : ∀ lexeme ∈ lexemes, lexeme.Stands w
  ordered : lexemes.Pairwise fun a b => a.span.stop ≤ b.span.start
  floor_le : ∀ lexeme ∈ lexemes, floor ≤ lexeme.span.start

namespace LexemesStand

variable {floor : Nat} {lexeme : Lexeme} {lexemes : List Lexeme}

theorem nil : LexemesStand w floor [] := ⟨nofun, .nil, nofun⟩

theorem mono {floor' : Nat} (h : LexemesStand w floor lexemes) (hle : floor' ≤ floor) :
    LexemesStand w floor' lexemes :=
  ⟨h.stands, h.ordered, fun lexeme hlexeme => Nat.le_trans hle (h.floor_le lexeme hlexeme)⟩

theorem cons (hlexeme : lexeme.Stands w) (h : LexemesStand w lexeme.span.stop lexemes) :
    LexemesStand w lexeme.span.start (lexeme :: lexemes) where
  stands := List.forall_mem_cons.mpr ⟨hlexeme, h.stands⟩
  ordered := .cons h.floor_le h.ordered
  floor_le := List.forall_mem_cons.mpr
    ⟨Nat.le_refl _, fun other hother => Nat.le_trans hlexeme.span.ordered (h.floor_le other hother)⟩

theorem tail (h : LexemesStand w floor (lexeme :: lexemes)) :
    LexemesStand w lexeme.span.stop lexemes where
  stands := (List.forall_mem_cons.mp h.stands).2
  ordered := h.ordered.tail
  floor_le := fun _ hother => List.rel_of_pairwise_cons h.ordered hother

end LexemesStand

/-- **The lexemes of a text in the window lie there in order.** -/
theorem lexemes_outcome (h : w.Holds offset cs) :
    w.Outcome (LexemesStand w offset) (Lexeme.ofScript offset cs) := by
  fun_induction Lexeme.ofScript offset cs with
  | case1 => exact LexemesStand.nil
  | case2 offset c cs fault hread =>
    have hfault := readToken_outcome h
    rwa [hread] at hfault
  | case3 offset c cs token rest hread stop ih =>
    obtain ⟨passed, hcs, -, -⟩ := readToken_passage hread
    have hstop : stop = offset + byteLength passed := by
      show offset + (byteLength (c :: cs) - byteLength rest) = _
      rw [hcs, byteLength_append, Nat.add_sub_cancel]
    have htoken := readToken_outcome h
    rw [hread] at htoken
    rw [hcs] at h
    have hspan : w.Shows ⟨offset, stop⟩ := hstop ▸ h.left.shows
    refine (ih (hstop ▸ h.right)).map fun lexemes hlexemes => ?_
    cases token with
    | none => exact hlexemes.mono hspan.ordered
    | some token =>
      have hlexeme : Lexeme.Stands w ⟨token, ⟨offset, stop⟩⟩ := ⟨htoken token rfl, hspan⟩
      exact .cons hlexeme hlexemes

/-! ## Pieces of template literals -/

/-- A piece of a template literal that lies where it says, in front of the end of the literal. -/
def Script.RawPart.Stands (w : Window) (stop : Nat) : RawPart → Prop
  | .literal _ => True
  | .hole offset body => w.Holds offset body
  | .unclosed offset => w.Marks offset ∧ offset ≤ stop

theorem literalPart_stands {stop : Nat} (text : List Char) :
    ∀ part ∈ literalPart text, part.Stands w stop := by
  unfold literalPart
  split
  · exact nofun
  · exact fun part hpart => List.mem_singleton.mp hpart ▸ trivial

theorem rawPartsFrom_stand {stop : Nat} {seen : List Char} (h : w.Holds offset cs)
    (hstop : offset + byteLength cs ≤ stop) :
    ∀ part ∈ rawPartsFrom offset seen cs, part.Stands w stop := by
  fun_induction rawPartsFrom offset seen cs with
  | case1 => exact literalPart_stands _
  | case2 offset seen c cs ih =>
    refine ih h.tail.tail ?_
    simp only [byteLength_cons] at hstop
    have hslash : '\\'.utf8Size = 1 := rfl
    omega
  | case3 => exact literalPart_stands _
  | case4 offset seen cs hclose =>
    refine List.forall_mem_append.mpr ⟨literalPart_stands _, fun part hpart => ?_⟩
    rw [List.mem_singleton.mp hpart]
    exact ⟨h.marks, by omega⟩
  | case5 offset seen cs body rest hclose _ ih =>
    rw [closeHole?_eq hclose] at h hstop
    have hbody : w.Holds (offset + 2) (body ++ '\x7d' :: rest) := h.tail.tail
    have hrest : w.Holds (offset + 3 + byteLength body) rest := by
      have hrest := hbody.right.tail
      rwa [show offset + 2 + byteLength body + '\x7d'.utf8Size = offset + 3 + byteLength body by
        have : '\x7d'.utf8Size = 1 := rfl
        omega] at hrest
    refine List.forall_mem_append.mpr
      ⟨literalPart_stands _, List.forall_mem_cons.mpr ⟨hbody.left, ih hrest ?_⟩⟩
    simp only [byteLength_cons, byteLength_append] at hstop
    have hmarks : '$'.utf8Size = 1 ∧ '\x7b'.utf8Size = 1 ∧ '\x7d'.utf8Size = 1 := ⟨rfl, rfl, rfl⟩
    omega
  | case6 offset seen c cs _ _ _ ih =>
    refine ih h.tail ?_
    simp only [byteLength_cons] at hstop
    omega

/-- The pieces of the body of a template literal in the window lie there. -/
theorem rawParts_stand (h : w.Holds offset cs) :
    ∀ part ∈ rawParts offset cs, part.Stands w (offset + byteLength cs) := by
  have hparts := @rawPartsFrom_stand w offset cs _ [] h (Nat.le_refl _)
  unfold rawParts
  split
  · exact fun part hpart => List.mem_singleton.mp hpart ▸ trivial
  · exact hparts

end Stencil
