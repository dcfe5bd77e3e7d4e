import Stencil.CommandLine.Run
import Stencil.Proofs.Result
import Stencil.Proofs.Text.Search
import Stencil.Proofs.Text.Trim

/-!
# The text of a reference to a template

A reference is read off a text of one of three forms, and blanks around the text and around the name
in it do not count. Written again it has none of them, and it is read as what it was.

* `pageMark.isPrefixOf?` and `enclosed?` tell the three forms apart: `ofTrimmed_page`,
  `ofTrimmed_block` and `ofTrimmed_named`.
* `IsCanonical`: a reference whose text is not one of another form. Exactly these are read back from
  their text (`ofText_toText_iff`), and no others are ever read (`isCanonical_ofText`).
* `exists_ofArgs_render`: what is read off the arguments of a render, whatever the template is.
* `template_references_canonical`: so the text of a reference names the same template on the command
  line as the text that the reference was read off.
-/

namespace Stencil

open Text

namespace TemplateReference

/-! ## The three forms -/

variable {cs name uuid : List Char}

/-- The text of a reference to a block. -/
def enclosed (uuid : List Char) : List Char := '(' :: '(' :: (uuid ++ [')', ')'])

theorem enclosed?_eq_some_iff : enclosed? cs = some uuid ↔ cs = enclosed uuid := by
  constructor
  · intro h
    unfold enclosed? at h
    split at h
    · next rest =>
      split at h
      · next hsuffix =>
        obtain ⟨before, rfl⟩ := List.isSuffixOf_iff_suffix.mp hsuffix
        rw [List.length_append, List.length_cons, List.length_singleton, Nat.add_sub_cancel,
          List.take_left] at h
        rw [Option.some.inj h, enclosed]
      · cases h
    · cases h
  · rintro rfl
    have hsuffix : [')', ')'].isSuffixOf (uuid ++ [')', ')']) = true :=
      List.isSuffixOf_iff_suffix.mpr (List.suffix_append _ _)
    rw [enclosed, enclosed?, if_pos hsuffix, List.length_append, List.length_cons,
      List.length_singleton, Nat.add_sub_cancel, List.take_left]

theorem isPrefixOf?_pageMark_eq_none (h : ¬ pageMark <+: cs) : pageMark.isPrefixOf? cs = none := by
  refine Option.eq_none_iff_forall_ne_some.mpr fun name hname => h ⟨name, ?_⟩
  exact append_eq_of_isPrefixOf? hname

theorem ofTrimmed_page (name : List Char) :
    ofTrimmed (pageMark ++ name) = .page (String.ofList (trim name)) := by
  rw [ofTrimmed, isPrefixOf?_append]

theorem ofTrimmed_block (uuid : List Char) :
    ofTrimmed (enclosed uuid) = .block (String.ofList (trim uuid)) := by
  have hpage : pageMark.isPrefixOf? (enclosed uuid) = none :=
    isPrefixOf?_cons_ne (by decide) _ _
  rw [ofTrimmed, hpage, enclosed?_eq_some_iff.mpr rfl]

theorem ofTrimmed_named (hpage : ¬ pageMark <+: cs) (hblock : ∀ uuid, cs ≠ enclosed uuid) :
    ofTrimmed cs = .named (String.ofList cs) := by
  have hnone : enclosed? cs = none :=
    Option.eq_none_iff_forall_ne_some.mpr fun uuid h => hblock uuid (enclosed?_eq_some_iff.mp h)
  rw [ofTrimmed, isPrefixOf?_pageMark_eq_none hpage, hnone]

/-! ## References that are read back -/

/-- Whether a reference is told from its text: there are no blanks at the ends of the name in it,
and the name of a template is not the text of a reference to a page or a block. -/
def IsCanonical : TemplateReference → Prop
  | .page name => trim name.toList = name.toList
  | .named name => trim name.toList = name.toList ∧ ¬ pageMark <+: name.toList ∧
      ∀ uuid, name.toList ≠ enclosed uuid
  | .block uuid => trim uuid.toList = uuid.toList

theorem isCanonical_ofTrimmed (h : trim cs = cs) : (ofTrimmed cs).IsCanonical := by
  by_cases hpage : pageMark <+: cs
  · obtain ⟨name, rfl⟩ := hpage
    rw [ofTrimmed_page, IsCanonical, String.toList_ofList, trim_trim]
  · by_cases hblock : ∃ uuid, cs = enclosed uuid
    · obtain ⟨uuid, rfl⟩ := hblock
      rw [ofTrimmed_block, IsCanonical, String.toList_ofList, trim_trim]
    · have hblock : ∀ uuid, cs ≠ enclosed uuid := fun uuid heq => hblock ⟨uuid, heq⟩
      rw [ofTrimmed_named hpage hblock, IsCanonical, String.toList_ofList]
      exact ⟨h, hpage, hblock⟩

/-- Only canonical references are read. -/
theorem isCanonical_ofText (text : String) : (ofText text).IsCanonical :=
  isCanonical_ofTrimmed (trim_trim _)

/-- No blank stands at the ends of the text of a canonical reference. -/
theorem trim_page (h : trim name = name) : trim (pageMark ++ name) = pageMark ++ name := by
  refine trim_of_head_getLast (fun c hc => Option.some.inj hc ▸ by decide) fun c hc => ?_
  cases hlast : name.getLast? with
  | none =>
    rw [List.getLast?_eq_none_iff.mp hlast, List.append_nil] at hc
    exact Option.some.inj hc ▸ by decide
  | some d =>
    rw [List.getLast?_append, hlast] at hc
    exact (trim_eq_self_iff.mp h).2 c (hlast.trans hc)

theorem trim_enclosed (uuid : List Char) : trim (enclosed uuid) = enclosed uuid := by
  have hends := trim_of_ends (c := '(') (d := ')') (by decide) (by decide) ('(' :: (uuid ++ [')']))
  rwa [List.cons_append, List.append_assoc] at hends

/-- A canonical reference is read off its text. -/
theorem IsCanonical.ofText_toText {r : TemplateReference} (h : r.IsCanonical) :
    ofText r.toText = r := by
  cases r with
  | page name =>
    have htext : (toText (.page name)).toList = pageMark ++ name.toList := by
      rw [toText, String.toList_append, String.toList_ofList]
    rw [ofText, htext, trim_page h, ofTrimmed_page, h, String.ofList_toList]
  | named name =>
    obtain ⟨htrim, hpage, hblock⟩ := h
    rw [ofText, toText, htrim, ofTrimmed_named hpage hblock, String.ofList_toList]
  | block uuid =>
    have htext : (toText (.block uuid)).toList = enclosed uuid.toList := by
      rw [toText, String.toList_append, String.toList_append]
      rfl
    rw [ofText, htext, trim_enclosed, ofTrimmed_block, h, String.ofList_toList]

/-- **The references that are read back from their text.** -/
theorem ofText_toText_iff {r : TemplateReference} : ofText r.toText = r ↔ r.IsCanonical :=
  ⟨fun h => h ▸ isCanonical_ofText r.toText, IsCanonical.ofText_toText⟩

theorem ofText_toText_ofText (text : String) : ofText (ofText text).toText = ofText text :=
  (isCanonical_ofText text).ofText_toText

end TemplateReference

/-! ## Renders on the command line -/

namespace CommandLine

/-- The options of a render and those of all commands. -/
def renderOptions : List Known := Command.ofRender ++ Command.common

/-- The option that names the template of a render. -/
def templateOption : Known :=
  { long := "template", short := some 't', valueName := some "TEMPLATE" }

/-- The argument that names a template by a text. -/
def templateArgument (text : String) : String := "--template=" ++ text

theorem toList_templateArgument (text : String) : (templateArgument text).toList =
    '-' :: '-' :: ("template".toList ++ '=' :: text.toList) := by
  rw [templateArgument, String.toList_append]
  rfl

theorem ofWord_templateArgument (text : String) :
    Given.ofWord renderOptions (templateArgument text) =
      .ok ([.value templateOption text], none) := by
  have hletters : "template".toList.all (· ≠ '=') = true := by decide
  have hname : ("template".toList ++ '=' :: text.toList).takeWhile (· ≠ '=') = "template".toList :=
    List.takeWhile_append_of_pos (List.all_eq_true.mp hletters)
  have hrest : ("template".toList ++ '=' :: text.toList).dropWhile (· ≠ '=') = '=' :: text.toList :=
    List.dropWhile_append_of_pos (List.all_eq_true.mp hletters)
  have hfind : renderOptions.find? (fun k => k.long = "template") = some templateOption := by
    decide
  rw [Given.ofWord, toList_templateArgument]
  show Given.ofLong renderOptions _ = _
  rw [Given.ofLong, hname, hrest, String.ofList_toList, hfind]
  dsimp only [templateOption]
  rw [String.ofList_toList]

theorem scan_templateArgument (text : String) (args : List String) :
    Given.scan renderOptions none (templateArgument text :: args) =
      (Given.scan renderOptions none args).map (.value templateOption text :: ·) := by
  have hword : templateArgument text ≠ "--" := by
    intro h
    have hlist := toList_templateArgument text
    rw [h] at hlist
    cases hlist
  rw [Given.scan, if_neg hword, ofWord_templateArgument]
  show (Given.scan renderOptions none args >>= fun more => .ok (_ :: more)) = _
  cases Given.scan renderOptions none args <;> rfl

/-- What is read off the options of a render does not depend on the template but for its text. -/
theorem exists_readRender (given : List Given) :
    (∃ e, ∀ text, Command.readRender (.value templateOption text :: given) = .error e) ∨
      ∃ graph target configuration json more, ∀ text,
        Command.readRender (.value templateOption text :: given) =
          .ok (.render graph text target configuration json more) := by
  have hread : ∀ text, Command.readRender (.value templateOption text :: given) = (do
      let graph ← Command.onlyWord "<GRAPH>" (Given.words given)
      let target ← Command.required "--target <TARGET>" (Given.value? given "target")
      if Given.value? given "config" = some "" then .error (.noValue "--config <CONFIG>")
      else .ok (.render graph text target (Given.value? given "config") (Given.has given "json")
        (Given.trailings given))) := fun _ => rfl
  simp only [hread]
  cases Command.onlyWord "<GRAPH>" (Given.words given) with
  | error e => exact .inl ⟨e, fun _ => rfl⟩
  | ok graph =>
    cases Command.required "--target <TARGET>" (Given.value? given "target") with
    | error e => exact .inl ⟨e, fun _ => rfl⟩
    | ok target =>
      by_cases hempty : Given.value? given "config" = some ""
      · exact .inl ⟨_, fun _ => if_pos hempty⟩
      · exact .inr ⟨_, _, _, _, _, fun _ => if_neg hempty⟩

/-- **The template of a render is the text it is named by**, and nothing else depends on it. -/
theorem exists_ofArgs_render (args : List String) :
    (∃ e, ∀ text, Request.ofArgs ("render" :: templateArgument text :: args) = .error e) ∨
      ∃ graph target configuration json more plain, ∀ text,
        Request.ofArgs ("render" :: templateArgument text :: args) =
          .ok ⟨.render graph text target configuration json more, plain⟩ := by
  have hargs : ∀ text, Request.ofArgs ("render" :: templateArgument text :: args) = (do
      let given ← Given.scan renderOptions none args
      Given.checkRepeated renderOptions (.value templateOption "" :: given)
      let command ← Command.readRender (.value templateOption text :: given)
      return ⟨command, Given.has given "no-color"⟩) := by
    intro text
    show (Given.scan renderOptions none (templateArgument text :: args) >>= _) = _
    rw [scan_templateArgument]
    cases Given.scan renderOptions none args <;> rfl
  simp only [hargs]
  cases Given.scan renderOptions none args with
  | error e => exact .inl ⟨e, fun _ => rfl⟩
  | ok given =>
    dsimp only [bind, Except.bind]
    cases Given.checkRepeated renderOptions (.value templateOption "" :: given) with
    | error e => exact .inl ⟨e, fun _ => rfl⟩
    | ok _ =>
      rcases exists_readRender given with ⟨e, he⟩ | ⟨graph, target, configuration, json, more, hok⟩
      · exact .inl ⟨e, fun text => by rw [he]⟩
      · exact .inr ⟨graph, target, configuration, json, more, Given.has given "no-color",
          fun text => by rw [hok]; rfl⟩

end CommandLine

open CommandLine TemplateReference

/-- A template is rendered alike under all texts that name it. -/
theorem rendered_eq_of_ofText_eq {template other : String} (h : ofText template = ofText other)
    (g : Graph) (settings : Settings) (target : String) (json : Bool) (args : List String) :
    g.rendered settings template target json args = g.rendered settings other target json args := by
  rw [Graph.rendered, Graph.rendered, h]

/-- A render does the same under all texts that name its template. -/
theorem run_eq_of_ofText_eq {template other : String} (h : ofText template = ofText other)
    {m : Type → Type} [Monad m] (host : Host m) (args : List String) :
    CommandLine.run host ("render" :: templateArgument template :: args) =
      CommandLine.run host ("render" :: templateArgument other :: args) := by
  unfold CommandLine.run
  rcases exists_ofArgs_render args with ⟨e, he⟩ |
    ⟨graph, target, configuration, json, more, plain, hok⟩
  · rw [he, he]
  · rw [hok, hok]
    dsimp only [Host.run]
    simp only [rendered_eq_of_ofText_eq h]

/-- **References to templates have a canonical text.** Whatever text a reference is read off, it is
read back from its own text, and no other reference has this text. So the text names the same
template on the command line as the one that the reference was read off. -/
theorem template_references_canonical (text : String) :
    ofText (ofText text).toText = ofText text ∧
      (∀ other, (ofText other).toText = (ofText text).toText ↔ ofText other = ofText text) ∧
      ∀ (m : Type → Type) [Monad m] (host : Host m) (args : List String),
        CommandLine.run host ("render" :: templateArgument (ofText text).toText :: args) =
          CommandLine.run host ("render" :: templateArgument text :: args) := by
  refine ⟨ofText_toText_ofText text, fun other => ⟨fun h => ?_, congrArg _⟩, ?_⟩
  · calc ofText other = ofText (ofText other).toText := (ofText_toText_ofText other).symm
      _ = ofText (ofText text).toText := by rw [h]
      _ = ofText text := ofText_toText_ofText text
  · intro m _ host args
    exact run_eq_of_ofText_eq (ofText_toText_ofText text) host args

end Stencil
