import Stencil.Helper.Standard
import Stencil.Proofs.Eval.Effects
import Stencil.Proofs.Tag.Agreement
import Stencil.Proofs.Tag.Expansion
import Stencil.Proofs.Tag.Standard

/-!
# Links in a tag

The body of a tag for links is data: it is trimmed, quoted and read back, and what is printed is the
trimmed body between the brackets of the link.

* `bodyOf_expanded`: in a tag whose body is no script nothing hides the closing marker.
* `LinkForm` are the two kinds of links, with their tags; `compile_linkTag` compiles one.
* `execute_step`: what it is compiled to prints the link.
* `shortForms_data`: both together, and what the scripts of all short forms are read as.
-/

namespace Stencil

open Script Text

/-- In a tag whose body is no script the first closing marker ends it. -/
theorem bodyOf_expanded {tag : Tag} (hscript : tag.holdsScript = false)
    (hmark : tag.closeMark.toList ≠ []) (opening : Span) {body : List Char}
    (h : NoMarker tag.closeMark.toList body) (offset : Nat) :
    bodyOf tag opening offset (body ++ tag.closeMark.toList) = .ok (body, []) := by
  induction body generalizing offset with
  | nil => exact bodyOf_marker hmark opening offset
  | cons c cs ih =>
    have hclose : tag.closeMark.toList.isPrefixOf? (c :: (cs ++ tag.closeMark.toList)) = none :=
      h (c :: cs) (List.suffix_refl _) (List.cons_ne_nil _ _)
    have hcs : NoMarker tag.closeMark.toList cs :=
      fun suffix hsuffix => h suffix (hsuffix.trans (List.suffix_cons c cs))
    have hshield : tag.shield? (c :: (cs ++ tag.closeMark.toList)) = none := by
      rw [Tag.shield?, hscript, if_neg Bool.false_ne_true]
    rw [List.cons_append, bodyOf_pass hclose hshield, ih hcs]
    rfl

/-! ## Links -/

/-- The kinds of links that have a tag. -/
inductive LinkForm where
  | page
  | block

namespace LinkForm

/-- What stands in front of the name in a link. -/
def left : LinkForm → List Char
  | page => ['[', '[']
  | block => ['(', '(']

/-- What stands behind the name in a link. -/
def right : LinkForm → List Char
  | page => [']', ']']
  | block => [')', ')']

/-- The link that the body of a tag makes. -/
def link (form : LinkForm) (body : List Char) : List Char := form.left ++ trim body ++ form.right

/-- The standard tag for links. -/
def tag : LinkForm → Tag
  | page =>
    { openMark := "``[[", closeMark := "]]``", filter := true, expand := some Tag.expandPage }
  | block =>
    { openMark := "``((", closeMark := "))``", filter := true, expand := some Tag.expandBlock }

variable (form : LinkForm) (body : List Char)

theorem ofList_link : String.ofList (form.link body) =
    String.ofList form.left ++ String.ofList (trim body) ++ String.ofList form.right := by
  rw [link, String.ofList_append, String.ofList_append]

theorem openMark_tag : form.tag.openMark.toList = ['`', '`'] ++ form.left := by
  cases form <;> decide

theorem scriptOf_tag : form.tag.scriptOf body = Tag.callWithText "ref" (form.link body) := by
  cases form <;> rfl

theorem rejects_tag (h : '\n' ∉ body) : form.tag.rejects body = false := by
  unfold Tag.rejects
  rw [Bool.and_eq_false_iff]
  exact .inl (Bool.eq_false_iff.mpr fun hmem => h (List.contains_iff_mem.mp hmem))

theorem mem_standard : form.tag ∈ TagSet.standard.tags := by
  cases form <;> simp [TagSet.tags_standard, tag]

/-- No other opening marker is as long. -/
theorem foundAt?_tag (rest : List Char) :
    TagSet.standard.foundAt? (form.tag.openMark.toList ++ rest) = some (form.tag, rest) := by
  have hplain : "``".toList.isPrefixOf? (form.tag.openMark.toList ++ rest) =
      some (form.left ++ rest) := by
    rw [openMark_tag, List.append_assoc]
    exact isPrefixOf?_append ['`', '`'] _
  have hshorter : rest.length < (form.left ++ rest).length := by
    cases form <;> simp [left]
  refine TagSet.foundAt?_of_longest form.mem_standard fun other hother => ?_
  rw [TagSet.tags_standard] at hother
  simp only [List.mem_cons, List.not_mem_nil, or_false] at hother
  rw [openMark_tag]
  cases form
  all_goals rcases hother with rfl | rfl | rfl | rfl | rfl | rfl
  case page.inr.inr.inl | block.inr.inr.inr.inl => exact .inl rfl
  case page.inr.inr.inr.inr.inr | block.inr.inr.inr.inr.inr =>
    exact .inr fun after hafter => Option.some.inj (hplain.symm.trans hafter) ▸ hshorter
  all_goals exact .inr nofun

theorem exists_ends : ∃ c cs d, isBlank c = false ∧ isBlank d = false ∧
    form.link body = c :: (cs ++ [d]) := by
  cases form with
  | page => exact ⟨'[', '[' :: trim body ++ [']'], ']', rfl, rfl, by simp [link, left, right]⟩
  | block => exact ⟨'(', '(' :: trim body ++ [')'], ')', rfl, rfl, by simp [link, left, right]⟩

theorem trim_link : trim (form.link body) = form.link body := by
  obtain ⟨c, cs, d, hc, hd, hlink⟩ := form.exists_ends body
  rw [hlink, trim_of_ends hc hd]

theorem isLink_link : Helper.isLink (form.link body) = true := by
  have hsuffix : form.right.isSuffixOf (form.link body) = true :=
    List.isSuffixOf_iff_suffix.mpr ⟨form.left ++ trim body, rfl⟩
  unfold Helper.isLink
  cases form with
  | page => exact Bool.or_eq_true_iff.mpr (.inl hsuffix)
  | block => exact Bool.or_eq_true_iff.mpr (.inr hsuffix)

/-- The step of a link's tag that is the whole source. -/
def step : Instruction :=
  .emit (.call (.identifier "ref" ⟨4, 7⟩) [.text (String.ofList (form.link body))]
    ⟨4, 4 + byteLength (form.tag.scriptOf body)⟩) true ⟨0, 4 + byteLength body + 4⟩

theorem ofTag_linkTag : Instruction.ofTag ⟨form.tag, 0, body⟩ = .ok (form.step body) := by
  have hopen : byteLength form.tag.openMark.toList = 4 := by cases form <;> decide
  have hclose : byteLength form.tag.closeMark.toList = 4 := by cases form <;> decide
  have hstart : (⟨form.tag, 0, body⟩ : FoundTag).bodyStart = 4 := by
    rw [FoundTag.bodyStart, hopen]
  have hspan : (⟨form.tag, 0, body⟩ : FoundTag).span = ⟨0, 4 + byteLength body + 4⟩ := by
    rw [FoundTag.span, hstart, hclose]
  have hclass : (form.tag.classOf body).statement = false := by cases form <;> rfl
  have hfilter : form.tag.filter = true := by cases form <;> rfl
  have hcall := Tag.ofScript_callRef 4 (form.link body)
  rw [← scriptOf_tag] at hcall
  rw [Instruction.ofTag, Instruction.ofScript, hstart, hspan]
  dsimp only
  rw [if_neg (Bool.eq_false_iff.mp hclass), hcall, hfilter]
  rfl

/-- **A link's tag compiles** to a call of the helper for links with the link as its argument. -/
theorem compile_linkTag {form : LinkForm} {body : String} (hfeed : '\n' ∉ body.toList)
    (hmark : NoMarker form.tag.closeMark.toList body.toList) (file : Nat) :
    Program.compile .standard (form.tag.openMark ++ body ++ form.tag.closeMark) file =
      .ok ⟨[form.step body.toList], file⟩ := by
  have hscript : form.tag.holdsScript = false := by cases form <;> rfl
  have hopen : form.tag.openMark.toList ≠ [] := by cases form <;> decide
  have hclose : form.tag.closeMark.toList ≠ [] := by cases form <;> decide
  refine compile_of_tag TagSet.refusal?_standard ?_ (form.ofTag_linkTag body.toList) file
  rw [String.toList_append, String.toList_append, List.append_assoc]
  exact segments_of_tag hopen (TagSet.foundAt?_standard_eq_none nofun) (form.foundAt?_tag _)
    (fun opening => bodyOf_expanded hscript hclose opening hmark) (form.rejects_tag _ hfeed)

/-! ## Printing -/

theorem get?_ref : Helper.standard.get? "ref" = some Helper.reference := by
  simp [Helper.standard, Dictionary.ofList, Dictionary.get?_insert]

theorem ofCallee?_ref (span : Span) : Target.ofCallee? Helper.standard (.identifier "ref" span) =
    some (.function Helper.reference) := by
  have hbuiltin : Builtin.ofName? "ref" = none := by decide
  show Target.ofPath? Helper.standard "ref" = _
  rw [Target.ofPath?, hbuiltin, get?_ref]
  rfl

/-- The helper for links gives a link back as it is. -/
theorem reference_link (settings : Settings) :
    Helper.reference [.text (String.ofList (form.link body))] settings =
      .ok (.text (String.ofList (form.link body))) := by
  have htrimmed : trimmed (String.ofList (form.link body)) = String.ofList (form.link body) := by
    rw [trimmed, String.toList_ofList, trim_link]
  show Except.ok (Value.text (if Helper.isLink (trimmed (String.ofList (form.link body))).toList
    then _ else _)) = _
  rw [htrimmed, String.toList_ofList, isLink_link, if_pos rfl]

/-- The call of the helper in a tag gives the link. -/
theorem evaluate_callRef (settings : Settings) (file : Nat) (env : Environment)
    (s t span : Span) (effects : Effects) :
    (Expr.call (.identifier "ref" s) [.text (String.ofList (form.link body))] t).evaluate
      ⟨Helper.standard, settings, file⟩ env 0 span effects =
        (.ok (.text (String.ofList (form.link body))), effects) := by
  let argument : Expr := .text (String.ofList (form.link body))
  have hargument : evaluateList ⟨Helper.standard, settings, file⟩ env 1 t [argument] =
      pure [.text (String.ofList (form.link body))] := by
    rw [evaluateList, Expr.evaluate, if_neg (by decide)]
    rfl
  unfold Expr.evaluate
  rw [if_neg (by decide)]
  dsimp only
  rw [ofCallee?_ref]
  dsimp only
  rw [hargument, pure_bind, Action.callHelper, reference_link]
  rfl

/-- **A link's tag prints its link**, whatever the environment is, and does nothing else. -/
theorem execute_step (file : Nat) (settings : Settings) (env : Environment) :
    Program.execute ⟨[form.step body], file⟩ Helper.standard settings env =
      (.ok ⟨String.ofList (form.link body), {}⟩, env) := by
  have hvalue : Run.evaluate ⟨Helper.standard, settings, file⟩ ⟨0, 4 + byteLength body + 4⟩
      (.call (.identifier "ref" ⟨4, 7⟩) [.text (String.ofList (form.link body))]
        ⟨4, 4 + byteLength (form.tag.scriptOf body)⟩) ⟨env.push, {}⟩ =
      (.ok (.text (String.ofList (form.link body))), ⟨env.push, {}⟩) := by
    unfold Run.evaluate
    rw [evaluate_callRef]
  have hsteps : runSteps ⟨Helper.standard, settings, file⟩ [form.step body] ⟨env.push, {}⟩ =
      (.ok (String.ofList (form.link body) ++ ""), ⟨env.push, {}⟩) := by
    rw [runSteps, bind_apply, step, Instruction.run, bind_apply, hvalue]
    rfl
  unfold Program.execute Run.inScope
  rw [hsteps, String.append_empty]
  rfl

end LinkForm

/-- Whether a source compiles, and prints a text and does nothing else when it is run with the
standard helpers, whatever the settings and the environment are. -/
def Prints (source text : String) : Prop :=
  ∀ (file : Nat) (settings : Settings) (env : Environment), ∃ program,
    Program.compile .standard source file = .ok program ∧
      program.execute Helper.standard settings env = (.ok ⟨text, {}⟩, env)

theorem LinkForm.prints {form : LinkForm} {body : String} (hfeed : '\n' ∉ body.toList)
    (hmark : NoMarker form.tag.closeMark.toList body.toList) :
    Prints (form.tag.openMark ++ body ++ form.tag.closeMark)
      (String.ofList (form.link body.toList)) :=
  fun file settings env => ⟨⟨[form.step body.toList], file⟩, compile_linkTag hfeed hmark file,
    form.execute_step body.toList file settings env⟩

/-- **The bodies of short forms are data.** Whatever characters a body has, the script that it is
expanded to is read as the call of a helper with one text, in which the body stands trimmed. So a
tag for links prints the trimmed body between the brackets, unless a line feed in the body makes it
plain text or the closing marker starts inside of the body. -/
theorem shortForms_data :
    (∀ (offset : Nat) (body : List Char),
      Expr.ofScript offset (Tag.expandPage body) =
        .ok (.call (.identifier "ref" ⟨offset, offset + 3⟩)
          [.text ("[[" ++ String.ofList (trim body) ++ "]]")]
          ⟨offset, offset + byteLength (Tag.expandPage body)⟩) ∧
      Expr.ofScript offset (Tag.expandBlock body) =
        .ok (.call (.identifier "ref" ⟨offset, offset + 3⟩)
          [.text ("((" ++ String.ofList (trim body) ++ "))")]
          ⟨offset, offset + byteLength (Tag.expandBlock body)⟩) ∧
      Expr.ofScript offset (Tag.expandDate body) =
        .ok (.call (.member (.identifier "date" ⟨offset, offset + 4⟩) "nlp" ⟨offset, offset + 8⟩)
          [.text (String.ofList (trim body))]
          ⟨offset, offset + byteLength (Tag.expandDate body)⟩)) ∧
    ∀ body : String, '\n' ∉ body.toList →
      (NoMarker "]]``".toList body.toList →
        Prints ("``[[" ++ body ++ "]]``") ("[[" ++ trimmed body ++ "]]")) ∧
      (NoMarker "))``".toList body.toList →
        Prints ("``((" ++ body ++ "))``") ("((" ++ trimmed body ++ "))")) := by
  have hpage (body : List Char) : String.ofList (LinkForm.page.link body) =
      "[[" ++ String.ofList (trim body) ++ "]]" := LinkForm.page.ofList_link body
  have hblock (body : List Char) : String.ofList (LinkForm.block.link body) =
      "((" ++ String.ofList (trim body) ++ "))" := LinkForm.block.ofList_link body
  refine ⟨fun offset body => ⟨?_, ?_, Tag.ofScript_callDate offset (trim body)⟩,
    fun body hfeed => ⟨fun hmark => ?_, fun hmark => ?_⟩⟩
  · rw [← hpage]
    exact Tag.ofScript_callRef offset _
  · rw [← hblock]
    exact Tag.ofScript_callRef offset _
  · rw [trimmed, ← hpage]
    exact @LinkForm.prints .page body hfeed hmark
  · rw [trimmed, ← hblock]
    exact @LinkForm.prints .block body hfeed hmark

/-- A body with quotes, a backslash, the start of a hole and most of a closing marker. -/
theorem shortForms_data_quotes :
    let body := " a\"b\\ $\x7b// ]]` ] "
    '\n' ∉ body.toList ∧ NoMarker "]]``".toList body.toList ∧
      Prints ("``[[" ++ body ++ "]]``") ("[[" ++ "a\"b\\ $\x7b// ]]` ]" ++ "]]") := by
  intro body
  have hfeed : '\n' ∉ body.toList := by decide
  have hmark : NoMarker "]]``".toList body.toList := by decide
  have htrim : trimmed body = "a\"b\\ $\x7b// ]]` ]" := by decide
  exact ⟨hfeed, hmark, htrim ▸ (shortForms_data.2 body hfeed).1 hmark⟩

end Stencil
