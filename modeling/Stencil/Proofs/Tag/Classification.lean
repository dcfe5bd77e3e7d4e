import Stencil.Program
import Stencil.Proofs.Script.Opening
import Stencil.Proofs.Script.Relocation
import Stencil.Proofs.Tag.Standard

/-!
# Plain bodies and their first statement

The class of a plain body is told from its first characters, before it is cut into tokens. Where a
script has a first statement, the class is right unless the statement opens in another way than the
characters show.

* `startsWithWord_iff` and `startsWithAssignment_iff`: what the classifier looks for.
* `OpensPlainly`: blanks, and then the statement in the form that the classifier knows.
* `classifyPlain_iff`: a body with a first statement holds statements exactly if it opens plainly.
* `plain_tag_executes_iff`: so the tag is executed exactly then, and an assignment or a branch that
  opens otherwise cannot be compiled.
* `not_classifyPlain_branch`: a branch that opens otherwise.
-/

namespace Stencil

open Script Text

variable {body cs : List Char} {s : Statement} {ss : List Statement}

/-! ## The classifier -/

namespace Tag

theorem startsWithWord_iff {word : List Char} : startsWithWord word cs = true ↔
    ∃ c rest, cs = word ++ c :: rest ∧ (isBlank c = true ∨ c = '(') := by
  unfold startsWithWord
  constructor
  · intro h
    split at h
    · next c rest hrest =>
      refine ⟨c, rest, (append_eq_of_isPrefixOf? hrest).symm, ?_⟩
      simpa using h
    · exact nomatch h
  · rintro ⟨c, rest, rfl, hc⟩
    rw [isPrefixOf?_append]
    simpa using hc

/-- No blank is a character of names, and no equals sign is one. -/
theorem isNameChar_gap {gap rest : List Char} (hgap : ∀ c ∈ gap, isBlank c = true) :
    ∀ c ∈ (gap ++ '=' :: rest).head?, isNameChar c = false := by
  cases gap with
  | nil => exact fun c hc => Option.some.inj hc ▸ by decide
  | cons d gap =>
    intro c hc
    rw [← Option.some.inj hc]
    have hblank := hgap d List.mem_cons_self
    exact eq_false_of_ne_true fun hname => by
      rw [isBlank_of_continuesName hname] at hblank
      exact nomatch hblank

/-- Neither a number nor a name goes on there. -/
theorem not_continues_gap {gap rest : List Char} (hgap : ∀ c ∈ gap, isBlank c = true) :
    ∀ c ∈ (gap ++ '=' :: rest).head?, continuesName c = false ∧ c ≠ '.' := by
  intro c hc
  refine ⟨isNameChar_gap hgap c hc, ?_⟩
  rintro rfl
  cases gap with
  | nil => exact nomatch hc
  | cons d gap =>
    have hblank := hgap d List.mem_cons_self
    rw [Option.some.inj hc] at hblank
    exact absurd hblank (by decide)

theorem startsWithAssignment_iff : startsWithAssignment cs = true ↔
    ∃ name gap rest, name ≠ [] ∧ (∀ c ∈ name, isNameChar c = true) ∧
      (∀ c ∈ gap, isBlank c = true) ∧ rest.head? ≠ some '=' ∧
      cs = name ++ (gap ++ '=' :: rest) := by
  unfold startsWithAssignment
  constructor
  · intro h
    split at h
    · exact nomatch h
    · next hname =>
      obtain ⟨rest, hrest, hsign⟩ : ∃ rest, rest.head? ≠ some '=' ∧
          trimStart (cs.dropWhile isNameChar) = '=' :: rest := by
        split at h
        · exact nomatch h
        · next rest hsingle heq =>
          refine ⟨rest, fun hhead => ?_, heq⟩
          obtain ⟨others, hothers⟩ := List.head?_eq_some_iff.mp hhead
          exact hsingle others hothers
        · exact nomatch h
      refine ⟨cs.takeWhile isNameChar, (cs.dropWhile isNameChar).takeWhile isBlank, rest,
        fun hnil => hname (List.isEmpty_iff.mpr hnil), List.all_eq_true.mp List.all_takeWhile,
        List.all_eq_true.mp List.all_takeWhile, hrest, ?_⟩
      rw [← hsign, trimStart, List.takeWhile_append_dropWhile, List.takeWhile_append_dropWhile]
  · rintro ⟨name, gap, rest, hne, hname, hgap, hrest, rfl⟩
    obtain ⟨htake, hdrop⟩ := Decimal.scan_append hname (gap ++ '=' :: rest) (isNameChar_gap hgap)
    have htrim : trimStart (gap ++ '=' :: rest) = '=' :: rest :=
      (Decimal.scan_append hgap ('=' :: rest) fun c hc => Option.some.inj hc ▸ by decide).2
    rw [htake, if_neg (fun hempty => hne (List.isEmpty_iff.mp hempty)), hdrop, htrim]
    split
    · next heq =>
      rw [(List.cons.inj heq).2] at hrest
      exact absurd rfl hrest
    · rfl
    · next hnot => exact absurd rfl (hnot rest)

theorem classifyPlain_eq_statements_iff : classifyPlain body = .statements ↔
    startsWithWord ['l', 'e', 't'] (trimStart body) = true ∨
      startsWithWord ['i', 'f'] (trimStart body) = true ∨
      startsWithAssignment (trimStart body) = true := by
  unfold classifyPlain
  dsimp only
  split
  · next h => simpa [or_assoc] using h
  · next h => exact iff_of_false (by decide) (by simpa [or_assoc] using h)

/-- What is not taken for statements is taken for an expression. -/
theorem classifyPlain_eq_expression (h : classifyPlain body ≠ .statements) :
    classifyPlain body = .expression := by
  unfold classifyPlain at h ⊢
  dsimp only at h ⊢
  split at h
  · exact absurd rfl h
  · next hnot => exact if_neg hnot

end Tag

/-! ## Plain openings -/

/-- Blanks and then the start of a statement in a form that the classifier knows: `let` with a blank
behind it, `if` with a blank or a parenthesis, or a name and a single equals sign with nothing but
blanks between them. -/
inductive Script.Statement.OpensPlainly (body : List Char) : Statement → Prop where
  | declare {blanks rest : List Char} {c : Char} {name : String} {value : Expr} {span : Span} :
    (∀ c ∈ blanks, isBlank c = true) → isBlank c = true →
    body = blanks ++ (['l', 'e', 't'] ++ c :: rest) →
    OpensPlainly body (.assign name value true span)
  | branch {blanks rest : List Char} {c : Char} {condition : Expr} {yes no : List Statement}
      {span : Span} :
    (∀ c ∈ blanks, isBlank c = true) → isBlank c = true ∨ c = '(' →
    body = blanks ++ (['i', 'f'] ++ c :: rest) →
    OpensPlainly body (.branch condition yes no span)
  | assign {blanks gap rest : List Char} {name : String} {value : Expr} {span : Span} :
    (∀ c ∈ blanks, isBlank c = true) → name ≠ "" →
    (∀ c ∈ name.toList, Tag.isNameChar c = true) → (∀ c ∈ gap, isBlank c = true) →
    rest.head? ≠ some '=' → body = blanks ++ (name.toList ++ (gap ++ '=' :: rest)) →
    OpensPlainly body (.assign name value false span)

/-- What opens plainly is an assignment or a branch. -/
theorem Script.Statement.OpensPlainly.isForm (h : s.OpensPlainly body) : s.isForm = true := by
  cases h <;> rfl

theorem trimStart_append {blanks : List Char} (hblanks : ∀ c ∈ blanks, isBlank c = true)
    (hcs : ∀ c ∈ cs.head?, isBlank c = false) : trimStart (blanks ++ cs) = cs :=
  (Decimal.scan_append hblanks cs hcs).2

/-- A body that opens plainly is taken for statements. -/
theorem Script.Statement.OpensPlainly.classifyPlain (h : s.OpensPlainly body) :
    Tag.classifyPlain body = .statements := by
  rw [Tag.classifyPlain_eq_statements_iff]
  cases h with
  | @declare blanks rest c _ _ _ hblanks hc hbody =>
    have htrim : trimStart body = ['l', 'e', 't'] ++ c :: rest :=
      hbody ▸ trimStart_append hblanks fun d hd => Option.some.inj hd ▸ by decide
    rw [htrim]
    exact .inl (Tag.startsWithWord_iff.mpr ⟨c, rest, rfl, .inl hc⟩)
  | @branch blanks rest c _ _ _ _ hblanks hc hbody =>
    have htrim : trimStart body = ['i', 'f'] ++ c :: rest :=
      hbody ▸ trimStart_append hblanks fun d hd => Option.some.inj hd ▸ by decide
    rw [htrim]
    exact .inr (.inl (Tag.startsWithWord_iff.mpr ⟨c, rest, rfl, hc⟩))
  | @assign blanks gap rest name _ _ hblanks hne hname hgap hrest hbody =>
    have hne' : name.toList ≠ [] := fun hnil => hne (String.toList_eq_nil_iff.mp hnil)
    rw [hbody, trimStart_append hblanks]
    · exact .inr (.inr (Tag.startsWithAssignment_iff.mpr
        ⟨name.toList, gap, rest, hne', hname, hgap, hrest, rfl⟩))
    · obtain ⟨c, cs, hcs⟩ := List.exists_cons_of_ne_nil hne'
      intro d hd
      rw [hcs] at hd hname
      exact Option.some.inj hd ▸ isBlank_of_continuesName (hname c List.mem_cons_self)

/-! ## The first statement of a body -/

theorem eq_of_ofWord {word name : String} (h : Token.ofWord word = .name name) : word = name := by
  unfold Token.ofWord at h
  repeat (split at h; · exact nomatch h)
  exact Token.name.inj h

section First

variable {c c' : Cursor} {ts : List Token} {d : Char} {rest : List Char}

theorem continuesName_of_isBlank_or (hd : isBlank d = true ∨ d = '(') :
    ∀ c ∈ (d :: rest).head?, continuesName c = false := by
  intro c hc
  rw [← Option.some.inj hc]
  obtain hblank | rfl := hd
  · exact eq_false_of_ne_true fun hname => by
      rw [isBlank_of_continuesName hname] at hblank
      exact nomatch hblank
  · decide

/-- A script that starts with `let` starts with a declaration; no parenthesis follows. -/
theorem declare_of_scans (h : Scans (['l', 'e', 't'] ++ d :: rest) ts)
    (hd : isBlank d = true ∨ d = '(') (hc : c.tokens = ts.dropWhile Token.isSeparator)
    (hstart : StartsAs c c' s) :
    isBlank d = true ∧ ∃ name value span, s = .assign name value true span := by
  obtain ⟨ts', rfl, hrest⟩ := Scans.keyword .declare h (continuesName_of_isBlank_or hd)
  cases hstart with
  | declare htokens =>
    refine ⟨hd.resolve_right fun hparen => ?_, _, _, _, rfl⟩
    subst hparen
    have hread (offset : Nat) :
        readToken offset '(' rest = .ok (some (.symbol .leftParen), rest) := rfl
    obtain ⟨ts₂, rfl, -⟩ := hrest.step hread
    exact nomatch (List.cons.inj (hc.symm.trans htokens)).2
  | branch htokens => exact nomatch (List.cons.inj (hc.symm.trans htokens)).1
  | assign htokens => exact nomatch (List.cons.inj (hc.symm.trans htokens)).1
  | expr hvalue => exact nomatch hvalue.head hc

/-- A script that starts with `if` starts with a branch. -/
theorem branch_of_scans (h : Scans (['i', 'f'] ++ d :: rest) ts)
    (hd : isBlank d = true ∨ d = '(') (hc : c.tokens = ts.dropWhile Token.isSeparator)
    (hstart : StartsAs c c' s) : ∃ condition yes no span, s = .branch condition yes no span := by
  obtain ⟨ts', rfl, -⟩ := Scans.keyword .branch h (continuesName_of_isBlank_or hd)
  cases hstart with
  | declare htokens => exact nomatch (List.cons.inj (hc.symm.trans htokens)).1
  | branch htokens => exact ⟨_, _, _, _, rfl⟩
  | assign htokens => exact nomatch (List.cons.inj (hc.symm.trans htokens)).1
  | expr hvalue => exact nomatch hvalue.head hc

/-- A script that starts with characters of names, blanks and an equals sign starts with the
assignment to the name that these characters are. -/
theorem assign_of_scans {name gap : List Char} (h : Scans (name ++ (gap ++ '=' :: rest)) ts)
    (hne : name ≠ []) (hname : ∀ c ∈ name, Tag.isNameChar c = true)
    (hgap : ∀ c ∈ gap, isBlank c = true) (hrest : rest.head? ≠ some '=')
    (hc : c.tokens = ts.dropWhile Token.isSeparator) (hstart : StartsAs c c' s)
    (hend : c'.atStatementEnd = true) {depth : Nat} {r : List Statement × Cursor}
    (hothers : readBody depth false c' = .ok r) :
    ∃ value span, s = .assign (String.ofList name) value false span := by
  obtain ⟨words, ts₁, rfl, hrun, hwords, hfirst⟩ := h.run (Tag.not_continues_gap hgap) hname
  obtain ⟨ts₂, rfl, hsign⟩ := hrun.blanks hgap
  obtain ⟨ts₃, rfl, -⟩ := hsign.assign hrest
  replace hfirst := hfirst hne
  have hkept : c.tokens =
      words ++ (List.replicate (gap.count '\n') .lineBreak ++ .symbol .assign :: ts₃) := by
    obtain ⟨w, others, rfl⟩ : ∃ w others, words = w :: others := by
      obtain rfl | ⟨value, others, rfl⟩ := hfirst
      · exact ⟨_, [], rfl⟩
      · exact ⟨_, others, rfl⟩
    have hseparator := isSeparator_of_isWord (hwords w List.mem_cons_self)
    rw [hc]
    exact List.dropWhile_cons_of_neg (ne_true_of_eq_false hseparator)
  obtain ⟨word, value, span, rfl, hword⟩ := hstart.assign_of_run hend hothers hkept hwords
    (hfirst.imp_left fun h => ⟨_, h⟩)
  obtain rfl | ⟨value, others, rfl⟩ := hfirst
  · rw [eq_of_ofWord (List.cons.inj hword).1]
    exact ⟨value, span, rfl⟩
  · exact nomatch (List.cons.inj hword).1

end First

/-- **A body that is taken for statements opens plainly** if it has a first statement. -/
theorem opensPlainly_of_classifyPlain (h : Statement.ofScript 0 body = .ok (s :: ss))
    (hclass : Tag.classifyPlain body = .statements) : s.OpensPlainly body := by
  obtain ⟨lexemes, depth, c, c', r, hlexemes, hc, hstart, hend, hothers⟩ := exists_first_statement h
  have hbody : body = body.takeWhile isBlank ++ trimStart body :=
    (List.takeWhile_append_dropWhile ..).symm
  have hblanks : ∀ c ∈ body.takeWhile isBlank, isBlank c = true :=
    List.all_eq_true.mp List.all_takeWhile
  have hscans := scans_of_lexemes hlexemes
  rw [hbody] at hscans
  obtain ⟨ts, hts, hscans⟩ := hscans.blanks hblanks
  rw [hts, List.dropWhile_append_of_pos fun t ht => List.eq_of_mem_replicate ht ▸ rfl] at hc
  rw [Tag.classifyPlain_eq_statements_iff] at hclass
  rcases hclass with hdeclare | hbranch | hassign
  · obtain ⟨d, rest, hscript, hd⟩ := Tag.startsWithWord_iff.mp hdeclare
    rw [hscript] at hscans hbody
    obtain ⟨hblank, name, value, span, rfl⟩ := declare_of_scans hscans hd hc hstart
    exact .declare hblanks hblank hbody
  · obtain ⟨d, rest, hscript, hd⟩ := Tag.startsWithWord_iff.mp hbranch
    rw [hscript] at hscans hbody
    obtain ⟨condition, yes, no, span, rfl⟩ := branch_of_scans hscans hd hc hstart
    exact .branch hblanks hd hbody
  · obtain ⟨name, gap, rest, hne, hname, hgap, hrest, hscript⟩ :=
      Tag.startsWithAssignment_iff.mp hassign
    rw [hscript] at hscans hbody
    obtain ⟨value, span, rfl⟩ :=
      assign_of_scans hscans hne hname hgap hrest hc hstart hend hothers
    rw [← String.toList_ofList (l := name)] at hname hbody
    exact .assign hblanks (fun hempty => hne (by simpa using hempty)) hname hgap hrest hbody

/-- **A body with a first statement is taken for statements exactly if it opens plainly.** -/
theorem classifyPlain_iff (h : Statement.ofScript 0 body = .ok (s :: ss)) :
    Tag.classifyPlain body = .statements ↔ s.OpensPlainly body :=
  ⟨opensPlainly_of_classifyPlain h, fun hopens => hopens.classifyPlain⟩

/-! ## Plain tags -/

/-- The standard tag for plain scripts. -/
def plainTag : Tag :=
  { openMark := "``", closeMark := "``", filter := true, classify := some Tag.classifyPlain }

theorem bodyStart_plainTag (start : Nat) :
    (⟨plainTag, start, body⟩ : FoundTag).bodyStart = start + 2 :=
  congrArg (start + ·) (show byteLength plainTag.openMark.toList = 2 by decide)

/-- A plain tag is executed if its body is taken for statements, and else its value is emitted. -/
theorem ofTag_plainTag (start : Nat) : Instruction.ofTag ⟨plainTag, start, body⟩ =
    if Tag.classifyPlain body = .statements then
      (Statement.ofScript (start + 2) body).map fun statements =>
        .execute statements (⟨plainTag, start, body⟩ : FoundTag).span
    else
      (Expr.ofScript (start + 2) body).map fun value =>
        .emit value true (⟨plainTag, start, body⟩ : FoundTag).span := by
  have hclassOf : plainTag.classOf body = Tag.classifyPlain body := rfl
  have hscript : plainTag.scriptOf body = body := rfl
  unfold Instruction.ofTag Instruction.ofScript
  dsimp only
  rw [bodyStart_plainTag, hscript, hclassOf]
  by_cases hclass : Tag.classifyPlain body = .statements
  · rw [if_pos hclass, hclass, if_pos (show BodyClass.statements.statement = true from rfl)]
    cases Statement.ofScript (start + 2) body <;> rfl
  · rw [if_neg hclass, Tag.classifyPlain_eq_expression hclass,
      if_neg (show ¬ BodyClass.expression.statement = true by decide)]
    cases Expr.ofScript (start + 2) body <;> rfl

/-- **Plain tags run the statements of their body exactly if it opens plainly.** Let a body be a
script with a first statement. It is taken for statements, and its tag is compiled to their
execution, exactly if this statement is an assignment or a branch and opens plainly. Where it is an
assignment or a branch that opens in another way, the tag cannot be compiled. -/
theorem plain_tag_executes_iff (h : Statement.ofScript 0 body = .ok (s :: ss)) (start : Nat) :
    (Tag.classifyPlain body = .statements ↔ s.OpensPlainly body) ∧
      (s.OpensPlainly body → s.isForm = true) ∧
      (Instruction.ofTag ⟨plainTag, start, body⟩ =
          .ok (.execute (shift (start + 2) (s :: ss)) (⟨plainTag, start, body⟩ : FoundTag).span) ↔
        s.OpensPlainly body) ∧
      (s.isForm = true → ¬ s.OpensPlainly body →
        (Instruction.ofTag ⟨plainTag, start, body⟩).isOk = false) := by
  have hclass := classifyPlain_iff h
  have hmoved : Statement.ofScript (start + 2) body = .ok (shift (start + 2) (s :: ss)) := by
    rw [← Nat.add_zero (start + 2), statements_shift, h]
    rfl
  refine ⟨hclass, fun hopens => hopens.isForm, ⟨fun htag => ?_, fun hopens => ?_⟩,
    fun hform hnot => ?_⟩
  · rw [← hclass]
    by_contra hnot
    rw [ofTag_plainTag, if_neg hnot] at htag
    obtain ⟨value, -, hvalue⟩ := map_eq_ok_iff.mp htag
    exact nomatch hvalue
  · rw [ofTag_plainTag, if_pos (hclass.mpr hopens), hmoved]
    rfl
  · rw [ofTag_plainTag, if_neg fun hstatements => hnot (hclass.mp hstatements)]
    have hform' : (shift (start + 2) s).isForm = true := by
      cases s <;> first | rfl | exact nomatch hform
    cases hvalue : Expr.ofScript (start + 2) body with
    | error fault => rfl
    | ok value => exact absurd hvalue (not_expr_of_isForm hmoved hform' value)

/-- A declaration with a blank behind `let`. -/
theorem plain_tag_executes_let : ∃ s ss, Statement.ofScript 0 "let x = y".toList = .ok (s :: ss) ∧
    Tag.classifyPlain "let x = y".toList = .statements ∧
    Instruction.ofTag ⟨plainTag, 0, "let x = y".toList⟩ =
      .ok (.execute (shift 2 (s :: ss)) ⟨0, 13⟩) := by
  have hread : Statement.ofScript 0 "let x = y".toList =
      .ok [.assign "x" (.identifier "y" ⟨8, 9⟩) true ⟨0, 9⟩] := by cbv
  obtain ⟨hclass, -, htag, -⟩ := plain_tag_executes_iff hread 0
  have hopens := hclass.mp (by decide)
  exact ⟨_, _, hread, hclass.mpr hopens, htag.mpr hopens⟩

/-- A branch with its condition right behind `if` is taken for an expression, unless the condition
starts with a parenthesis. -/
theorem not_classifyPlain_branch : ¬ ∀ (body : List Char) (s : Statement) (ss : List Statement),
    Statement.ofScript 0 body = .ok (s :: ss) →
    (Tag.classifyPlain body = .statements ↔ s.isForm = true) := by
  intro h
  have hread : Statement.ofScript 0 "if!x \x7b y \x7d".toList =
      .ok [.branch (.unary .not (.identifier "x" ⟨3, 4⟩))
        [.expr (.identifier "y" ⟨7, 8⟩) ⟨7, 8⟩] [] ⟨0, 10⟩] := by cbv
  exact absurd ((h _ _ _ hread).mpr rfl) (by decide)

end Stencil
