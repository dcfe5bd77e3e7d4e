import Mathlib.Data.List.Infix
import Stencil.Proofs.Script.Passage
import Stencil.Tag.Segment

/-!
# The search for a closing marker in a legible script

A closing marker is searched for before a script is cut into tokens, and the search knows less of
the language: it takes a quote for the start of a quoted text also where a line comment or a comment
in a hole says otherwise. A script is legible when nothing in its comments misleads the search. Then
the search goes over it in the steps of the lexer: behind every token and every comment both stand
at the same place.

* `Quiet`: a comment that does not mislead the search.
* `Legible`: a script, a hole or the body of a template literal whose comments are all quiet.
* `skipNested_text`: both find the same end of a quoted text.
* `bodyOf_pass`, `bodyOf_unclosed` and `bodyOf_hidden`: one step of the search.
* `Passage.skip_hole` and `Passage.skip_script`: one step of the lexer, in a hole and in a tag.
* `Script.Legible.agrees`: the search leaves holes and template literals where they end, and finds
  the marker right behind the script. The induction is on the script being legible, for the three
  places at once.
-/

namespace Stencil

open Script Text

/-! ## Legible scripts -/

namespace Script

/-- Where a piece of script stands. -/
inductive Place where
  /-- At the top of a tag. -/
  | script
  /-- In a hole of a template literal. -/
  | hole
  /-- In a template literal, between its marks and outside of its holes. -/
  | template
  deriving Repr, DecidableEq

/-- What the lexer passes over without reading a token, when a search for the closing marker does so
as well. At the top that is a block comment, or a piece in which nothing seems to start that hides
markers; in a hole it is a piece without quotes and braces. -/
def Quiet : Place → List Char → Prop
  | .script, cs => ['/', '*'] <+: cs ∨ (∀ c ∈ cs, isQuote c = false) ∧ ¬ ['/', '*'] <:+: cs
  | _, cs => ∀ c ∈ cs, isQuote c = false ∧ isBrace c = false

instance (place : Place) (cs : List Char) : Decidable (Quiet place cs) :=
  match place with
  | .script =>
    letI := List.decidableBAll (fun c => isQuote c = false) cs
    inferInstanceAs (Decidable (_ ∨ _ ∧ _))
  | .hole | .template => List.decidableBAll _ cs

/-- Scripts in which the comments are quiet. In the holes of template literals, and in the holes of
the literals in them, it is the same; no brace stands in a hole by itself and no backtick in the
text between holes. -/
inductive Legible : Place → List Char → Prop where
  | nil {place : Place} : Legible place []
  /-- A blank or a comment. -/
  | pass {place : Place} {c : Char} {passed rest : List Char} : place ≠ .template →
    readToken 0 c (passed ++ rest) = .ok (none, rest) → Quiet place (c :: passed) →
    Legible place rest → Legible place (c :: (passed ++ rest))
  /-- A token. -/
  | token {place : Place} {c : Char} {passed rest : List Char} {token : Token} :
    place ≠ .template → readToken 0 c (passed ++ rest) = .ok (some token, rest) →
    (place = .hole → token.isBrace = false) →
    (∀ body offset, token = .template body offset → Legible .template body) →
    Legible place rest → Legible place (c :: (passed ++ rest))
  /-- A character behind a backslash in a template literal. -/
  | escape {c : Char} {rest : List Char} : Legible .template rest →
    Legible .template ('\\' :: c :: rest)
  /-- A hole of a template literal. -/
  | hole {cs body rest : List Char} : closeHole? 0 cs = some (body, rest) → Legible .hole body →
    Legible .template rest → Legible .template ('$' :: '\x7b' :: cs)
  /-- Any other character of a template literal. -/
  | plain {c : Char} {rest : List Char} : c ≠ '\\' → c ≠ '`' →
    ¬ ['$', '\x7b'] <+: c :: rest → Legible .template rest → Legible .template (c :: rest)

end Script

/-! ## Nested constructs -/

variable {c : Char} {cs ds rest more : List Char} {outer : List Nest}

theorem skipNested_nil : skipNested [] cs = some cs := by rw [skipNested]

theorem skipNested_quoted {mark : Char} (h : c ≠ '\\') :
    skipNested (.quoted mark :: outer) (c :: cs) =
      skipNested (if c = mark then outer else .quoted mark :: outer) cs := by
  rw [skipNested]
  · exact fun hc _ => h hc
  · exact fun _ _ hc _ => h hc

theorem skipNested_template (h : c ≠ '\\') (hhole : ¬ ['$', '\x7b'] <+: c :: cs) :
    skipNested (.template :: outer) (c :: cs) =
      skipNested (if c = '`' then outer else .template :: outer) cs := by
  rw [skipNested]
  · exact fun hc _ => h hc
  · exact fun _ _ hc _ => h hc
  · rintro ds rfl rfl
    exact hhole (List.prefix_append ['$', '\x7b'] ds)

theorem skipNested_text {mark : Char} {text : List Char} (hmark : mark ≠ '\\')
    (h : scanText? mark cs = some (text, rest)) :
    skipNested (.quoted mark :: outer) (cs ++ more) = skipNested outer (rest ++ more) := by
  fun_induction scanText? mark cs generalizing text with
  | case1 => cases h
  | case2 c cs ih =>
    obtain ⟨⟨text', rest'⟩, htail, heq⟩ := Option.map_eq_some_iff.mp h
    obtain ⟨-, rfl⟩ := Prod.mk.inj heq
    rw [← ih htail]
    rfl
  | case3 => cases h
  | case4 =>
    obtain ⟨-, rfl⟩ := Prod.mk.inj (Option.some.inj h)
    rw [List.cons_append, skipNested_quoted hmark, if_pos rfl]
  | case5 => cases h
  | case6 c cs hescape hslash hne _ ih =>
    obtain ⟨⟨text', rest'⟩, htail, heq⟩ := Option.map_eq_some_iff.mp h
    obtain ⟨-, rfl⟩ := Prod.mk.inj heq
    rw [List.cons_append, skipNested_quoted (ne_backslash hescape hslash), if_neg hne, ih htail]

/-- In a hole, nothing happens at a character that is neither a quote nor a brace. -/
theorem skipNested_hole {braces : Nat}
    (h : ∀ c ∈ cs, isQuote c = false ∧ isBrace c = false) :
    skipNested (.hole braces :: outer) (cs ++ more) = skipNested (.hole braces :: outer) more := by
  induction cs with
  | nil => rfl
  | cons c cs ih =>
    rw [List.forall_mem_cons] at h
    simp only [isQuote, isBrace, Bool.or_eq_false_iff, decide_eq_false_iff_not] at h
    obtain ⟨⟨⟨⟨hquote, happostrophe⟩, hbacktick⟩, hopen, hclose⟩, hcs⟩ := h
    rw [List.cons_append, skipNested]
    simp only [hquote, happostrophe, hbacktick, hopen, hclose, decide_false, Bool.or_false,
      Bool.false_eq_true, if_false]
    exact ih fun d hd => by
      simpa [isQuote, isBrace, and_assoc] using hcs d hd

theorem Script.Passage.skip_hole {passed : List Char} {token : Option Token} {braces : Nat}
    (h : Passage rest passed token) (hquiet : token = none → Quiet .hole passed)
    (hbrace : ∀ t, token = some t → t.isBrace = false)
    (hbody : ∀ body offset, token = some (.template body offset) → ∀ outer more,
      skipNested (.template :: outer) (body ++ '`' :: more) = skipNested outer more) :
    skipNested (.hole braces :: outer) (passed ++ (rest ++ more)) =
      skipNested (.hole braces :: outer) (rest ++ more) := by
  cases h with
  | plain hquote _ hbraces =>
    refine skipNested_hole fun c hc => ⟨hquote c hc, Bool.eq_false_iff.mpr fun hbr => ?_⟩
    obtain ⟨t, htoken, ht⟩ := hbraces ⟨c, hc, hbr⟩
    exact absurd (ht.symm.trans (hbrace t htoken)) (by decide)
  | lineComment => exact skipNested_hole (hquiet rfl)
  | blockComment => exact skipNested_hole (hquiet rfl)
  | text hmark hscan =>
    rw [List.cons_append, ← List.append_assoc]
    rcases hmark with rfl | rfl
    · rw [← skipNested_text (by decide) hscan]
      rfl
    · rw [← skipNested_text (by decide) hscan]
      rfl
  | @template body offset =>
    rw [List.cons_append, List.append_assoc]
    exact hbody body offset rfl (.hole braces :: outer) (rest ++ more)

/-! ## Bodies -/

section Bodies

variable {tag : Tag} {opening : Span} {body passed after : List Char}

theorem ofStart?_eq_none (hquote : isQuote c = false) (hslash : c = '/' → cs.head? ≠ some '*') :
    Shield.ofStart? (c :: cs) = none := by
  simp only [isQuote, Bool.or_eq_false_iff, decide_eq_false_iff_not] at hquote
  unfold Shield.ofStart?
  split
  · next heq => exact absurd (List.cons.inj heq).1 hquote.1.1
  · next heq => exact absurd (List.cons.inj heq).1 hquote.1.2
  · next heq => exact absurd (List.cons.inj heq).1 hquote.2
  · next heq =>
    obtain ⟨hc, rfl⟩ := List.cons.inj heq
    exact absurd rfl (hslash hc)
  · rfl

/-- What hides a closing marker at the front of a body. -/
def Tag.shield? (tag : Tag) (cs : List Char) : Option Shield :=
  if tag.holdsScript then Shield.ofStart? cs else none

section Steps

variable {offset : Nat} {shield : Shield}
  (hmarker : tag.closeMark.toList.isPrefixOf? (c :: cs) = none)
include hmarker

/-- The search goes on behind a character at which nothing starts. -/
theorem bodyOf_pass (hshield : tag.shield? (c :: cs) = none) :
    bodyOf tag opening offset (c :: cs) =
      (bodyOf tag opening (offset + c.utf8Size) cs).map fun (body, rest) => (c :: body, rest) := by
  unfold Tag.shield? at hshield
  rw [bodyOf, hmarker]
  dsimp only
  rw [hshield]
  cases bodyOf tag opening (offset + c.utf8Size) cs <;> rfl

theorem bodyOf_unclosed (hshield : tag.shield? (c :: cs) = some shield)
    (hafter : shield.after? (c :: cs) = none) : bodyOf tag opening offset (c :: cs) =
      .error ⟨shield.unclosed, ⟨offset, offset + byteLength (c :: cs)⟩⟩ := by
  unfold Tag.shield? at hshield
  rw [bodyOf, hmarker]
  dsimp only
  split
  · next heq => cases hshield.symm.trans heq
  · next heq =>
    obtain rfl := Option.some.inj (hshield.symm.trans heq)
    split
    · rfl
    · next heq => cases hafter.symm.trans heq

theorem bodyOf_hidden {passed : List Char} (hshield : tag.shield? (c :: cs) = some shield)
    (hafter : shield.after? (c :: cs) = some after) (hsplit : c :: cs = passed ++ after) :
    bodyOf tag opening offset (c :: cs) =
      (bodyOf tag opening (offset + byteLength passed) after).map fun (body, rest) =>
        (passed ++ body, rest) := by
  have htake : (c :: cs).take ((c :: cs).length - after.length) = passed := by
    rw [hsplit, List.length_append, Nat.add_sub_cancel, List.take_left]
  unfold Tag.shield? at hshield
  rw [bodyOf, hmarker]
  dsimp only
  split
  · next heq => cases hshield.symm.trans heq
  · next heq =>
    obtain rfl := Option.some.inj (hshield.symm.trans heq)
    split
    · next heq => cases hafter.symm.trans heq
    · next heq =>
      obtain rfl := Option.some.inj (hafter.symm.trans heq)
      rw [htake]
      cases bodyOf tag opening (offset + byteLength passed) after <;> rfl

end Steps

/-- Behind a character at which nothing starts, in a search that ends. -/
theorem bodyOf_cons (hclose : tag.closeMark.toList.isPrefixOf? (c :: cs) = none)
    (hshield : Shield.ofStart? (c :: cs) = none)
    (h : ∀ offset, bodyOf tag opening offset cs = .ok (body, after)) (offset : Nat) :
    bodyOf tag opening offset (c :: cs) = .ok (c :: body, after) := by
  have hnone : tag.shield? (c :: cs) = none := by rw [Tag.shield?, hshield, ite_self]
  rw [bodyOf_pass hclose hnone, h]
  rfl

/-- The search goes over a piece without quotes in which no block comment starts. -/
theorem bodyOf_plain (hclose : ∀ suffix, suffix <:+ passed → suffix ≠ [] →
      tag.closeMark.toList.isPrefixOf? (suffix ++ more) = none)
    (hquote : ∀ c ∈ passed, isQuote c = false)
    (hslash : ∀ ds, '/' :: ds <:+ passed → (ds ++ more).head? ≠ some '*')
    (h : ∀ offset, bodyOf tag opening offset more = .ok (body, after)) (offset : Nat) :
    bodyOf tag opening offset (passed ++ more) = .ok (passed ++ body, after) := by
  induction passed generalizing offset with
  | nil => exact h offset
  | cons c cs ih =>
    have hcs : cs <:+ c :: cs := List.suffix_cons c cs
    have hshield : Shield.ofStart? (c :: (cs ++ more)) = none :=
      ofStart?_eq_none (hquote c List.mem_cons_self) fun hc => hslash cs (hc ▸ List.suffix_refl _)
    exact bodyOf_cons (hclose _ (List.suffix_refl _) (List.cons_ne_nil _ _)) hshield
      (ih (fun suffix hs => hclose suffix (hs.trans hcs))
        (fun d hd => hquote d (List.mem_cons_of_mem c hd)) fun ds hs => hslash ds (hs.trans hcs))
      offset

/-- Behind a construct that hides markers, in a search that ends. -/
theorem bodyOf_shield (shield : Shield) (hscript : tag.holdsScript = true)
    (hclose : tag.closeMark.toList.isPrefixOf? (c :: passed ++ more) = none)
    (hshield : Shield.ofStart? (c :: passed ++ more) = some shield)
    (hafter : shield.after? (c :: passed ++ more) = some more)
    (h : ∀ offset, bodyOf tag opening offset more = .ok (body, after)) (offset : Nat) :
    bodyOf tag opening offset (c :: passed ++ more) = .ok (c :: passed ++ body, after) := by
  have hsome : tag.shield? (c :: passed ++ more) = some shield := by
    rw [Tag.shield?, hscript, if_pos rfl, hshield]
  exact (bodyOf_hidden hclose hsome hafter rfl).trans (by rw [h]; rfl)

theorem head?_append_ne (hrest : rest.head? ≠ some c) (hmore : more.head? ≠ some c) :
    (rest ++ more).head? ≠ some c := by
  cases rest with
  | nil => exact hmore
  | cons d ds => exact hrest

theorem Script.Passage.skip_script {token : Option Token} (hscript : tag.holdsScript = true)
    (h : Passage rest passed token) (hquiet : token = none → Quiet .script passed)
    (hbody : ∀ body offset, token = some (.template body offset) → ∀ outer more,
      skipNested (.template :: outer) (body ++ '`' :: more) = skipNested outer more)
    (hclose : ∀ suffix, suffix <:+ passed → suffix ≠ [] →
      tag.closeMark.toList.isPrefixOf? (suffix ++ (rest ++ more)) = none)
    (hstar : more.head? ≠ some '*')
    (hmore : ∀ offset, bodyOf tag opening offset (rest ++ more) = .ok (body, after))
    (offset : Nat) :
    bodyOf tag opening offset (passed ++ (rest ++ more)) = .ok (passed ++ body, after) := by
  cases h with
  | plain hquote hslash =>
    refine bodyOf_plain hclose hquote (fun ds hsuffix => ?_) hmore offset
    obtain ⟨hpassed, hrest⟩ := hslash (hsuffix.mem List.mem_cons_self)
    rw [hpassed] at hsuffix
    obtain rfl : ds = [] := List.length_eq_zero_iff.mp (by simpa using hsuffix.length_le)
    rw [List.nil_append]
    exact head?_append_ne hrest hstar
  | @lineComment passed hrest =>
    rcases hquiet rfl with hblock | ⟨hquote, hinfix⟩
    · exact absurd hblock (by simp)
    refine bodyOf_plain hclose hquote (fun ds hsuffix => ?_) hmore offset
    cases ds with
    | nil =>
      rw [List.nil_append]
      exact head?_append_ne hrest hstar
    | cons e es =>
      intro he
      obtain rfl := Option.some.inj he
      exact hinfix (.trans ⟨[], es, rfl⟩ hsuffix.isInfix)
  | @blockComment passed hcut =>
    refine bodyOf_shield .comment hscript (hclose _ (List.suffix_refl _) nofun) rfl ?_ hmore offset
    have hlong := cutAt?_append_right hcut more
    rw [List.append_assoc] at hlong
    exact congrArg (Option.map (·.2)) hlong
  | @text mark passed text hmark hscan =>
    refine bodyOf_shield (.text mark) hscript (hclose _ (List.suffix_refl _) nofun) ?_ ?_ hmore
      offset
    · rcases hmark with rfl | rfl <;> rfl
    · have hne : mark ≠ '\\' := by rcases hmark with rfl | rfl <;> decide
      have hskip : skipNested [.quoted mark] (passed ++ rest ++ more) = some (rest ++ more) := by
        rw [skipNested_text hne hscan, skipNested_nil]
      rw [List.append_assoc] at hskip
      exact hskip
  | @template body' offset' =>
    refine bodyOf_shield .template hscript (hclose _ (List.suffix_refl _) nofun) rfl ?_ hmore offset
    have hskip := hbody body' offset' rfl [] (rest ++ more)
    rw [skipNested_nil] at hskip
    rw [List.cons_append, List.append_assoc]
    exact hskip

end Bodies

/-! ## Legible scripts -/

/-- No marker starts inside of a text that has a marker behind it. -/
def NoMarker (mark cs : List Char) : Prop :=
  ∀ suffix, suffix <:+ cs → suffix ≠ [] → mark.isPrefixOf? (suffix ++ mark) = none

instance (mark cs : List Char) : Decidable (NoMarker mark cs) :=
  decidable_of_iff
    (∀ suffix ∈ cs.tails, suffix ≠ [] → mark.isPrefixOf? (suffix ++ mark) = none)
    (forall_congr' fun _ => imp_congr_left (List.mem_tails _ _))

/-- What the search for the closing marker does at a piece of script: in a tag it finds the marker
right behind the script, and it leaves holes and template literals where they end. -/
def Agrees (tag : Tag) : Place → List Char → Prop
  | .script, cs => NoMarker tag.closeMark.toList cs → ∀ opening offset,
    bodyOf tag opening offset (cs ++ tag.closeMark.toList) = .ok (cs, [])
  | .hole, cs => ∀ braces outer more,
    skipNested (.hole braces :: outer) (cs ++ more) = skipNested (.hole braces :: outer) more
  | .template, cs => ∀ outer more,
    skipNested (.template :: outer) (cs ++ '`' :: more) = skipNested outer more

variable {tag : Tag}

theorem bodyOf_marker (hne : tag.closeMark.toList ≠ []) (opening : Span) (offset : Nat) :
    bodyOf tag opening offset tag.closeMark.toList = .ok ([], []) := by
  obtain ⟨c, cs, hmark⟩ := List.exists_cons_of_ne_nil hne
  have hprefix := isPrefixOf?_append tag.closeMark.toList []
  rw [List.append_nil, hmark] at hprefix
  rw [hmark, bodyOf, hmark, hprefix]

/-- One step of the lexer, in a tag or in a hole. -/
theorem Script.Passage.agrees {place : Place} {passed : List Char} {token : Option Token}
    (hscript : tag.holdsScript = true) (hstar : tag.closeMark.toList.head? ≠ some '*')
    (h : Passage rest passed token) (hplace : place ≠ .template)
    (hquiet : token = none → Quiet place passed)
    (hbrace : place = .hole → ∀ t, token = some t → t.isBrace = false)
    (hbody : ∀ body offset, token = some (.template body offset) → Agrees tag .template body)
    (hrest : Agrees tag place rest) : Agrees tag place (passed ++ rest) := by
  cases place with
  | template => exact absurd rfl hplace
  | hole =>
    intro braces outer more
    rw [List.append_assoc, h.skip_hole hquiet (hbrace rfl) hbody]
    exact hrest braces outer more
  | script =>
    intro hmarker opening offset
    rw [List.append_assoc]
    refine h.skip_script hscript hquiet hbody (fun suffix hsuffix hne => ?_) hstar
      (hrest (fun suffix hsuffix => hmarker suffix (hsuffix.trans (List.suffix_append _ _)))
        opening) offset
    obtain ⟨front, rfl⟩ := hsuffix
    rw [← List.append_assoc]
    exact hmarker (suffix ++ rest) ⟨front, (List.append_assoc _ _ _).symm⟩
      (List.append_ne_nil_of_left_ne_nil hne rest)

theorem Script.Legible.agrees (hscript : tag.holdsScript = true)
    (hne : tag.closeMark.toList ≠ []) (hstar : tag.closeMark.toList.head? ≠ some '*')
    {place : Place} (h : Legible place cs) : Agrees tag place cs := by
  induction h with
  | @nil place =>
    cases place with
    | script => exact fun _ => bodyOf_marker hne
    | hole => exact fun _ _ _ => rfl
    | template => exact fun _ _ => rfl
  | @pass place c passed rest hplace hread hquiet _ ih =>
    obtain ⟨passed', heq, -, hpassage⟩ := readToken_passage hread
    obtain rfl : c :: passed = passed' := List.append_cancel_right heq
    exact hpassage.agrees hscript hstar hplace (fun _ => hquiet) nofun nofun ih
  | @token place c passed rest token hplace hread hbrace _ _ ihbody ih =>
    obtain ⟨passed', heq, -, hpassage⟩ := readToken_passage hread
    obtain rfl : c :: passed = passed' := List.append_cancel_right heq
    refine hpassage.agrees hscript hstar hplace nofun (fun hhole t ht => ?_)
      (fun body offset ht => ?_) ih
    · exact Option.some.inj ht ▸ hbrace hhole
    · exact ihbody body offset (Option.some.inj ht)
  | escape _ ih => exact fun outer more => ih outer more
  | @hole cs body rest hclose _ _ ihhole ih =>
    intro outer more
    rw [closeHole?_eq hclose]
    show skipNested (.hole 1 :: .template :: outer) (body ++ '\x7d' :: rest ++ '`' :: more) = _
    rw [List.append_assoc, ihhole]
    exact ih outer more
  | @plain c rest hslash hbacktick hhole _ ih =>
    intro outer more
    have hhole' : ¬ ['$', '\x7b'] <+: c :: (rest ++ '`' :: more) := by
      rintro ⟨ds, heq⟩
      cases rest with
      | nil => exact absurd (List.cons.inj (List.cons.inj heq).2).1 (by decide)
      | cons d rest =>
        obtain ⟨rfl, htail⟩ := List.cons.inj heq
        obtain ⟨rfl, -⟩ := List.cons.inj htail
        exact hhole (List.prefix_append ['$', '\x7b'] rest)
    rw [List.cons_append, skipNested_template hslash hhole', if_neg hbacktick]
    exact ih outer more

end Stencil
