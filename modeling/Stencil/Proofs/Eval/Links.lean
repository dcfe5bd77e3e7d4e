import Stencil.Proofs.Eval.Effects
import Stencil.Proofs.Program.Unfiltered

/-!
# What asking for links changes

A value has a text with links and one without, and a tag says which of them it emits. The two differ
where a page, a block or a date occurs: everything else is shown alike, and nothing else in a run
depends on it.

* `Value.links`: the pages, blocks and dates in a value, in order. Lists are gone through to any
  depth; what is in a record does not show, but for its name.
* `AlikeBut`: two texts that are the same but for some values, each shown with or without its link.
  So are the two texts of a value, but for its links (`Value.shown_alike`).
* `Value.Plain`: a value without links. Its two texts are the same (`Value.Plain.shown_eq`).
* `Program.values`: the values that a run emits, which do not depend on what is asked for.
* `execute_alike`: the results of two programs that differ in what they ask for have the same
  failure, or the same effects and texts that are the same but for links.
* `links_alone_depend_on_filter`: so tags that ask for other links show the links in the emitted
  values in another way, and change nothing where there are none.
-/

namespace Stencil

namespace Value

/-- The text of a value, with links or without. -/
def shown (pattern : String) (filter : Bool) (v : Value) : String :=
  if filter then v.linkText pattern else v.display

/-- Whether a value is shown as a link where links are wanted. -/
inductive IsLink : Value → Prop where
  | page (fields : Dictionary Value) : IsLink (.record .page fields)
  | block (fields : Dictionary Value) : IsLink (.record .block fields)
  | date (d : Calendar.Date) : IsLink (.date d)

mutual

/-- The pages, blocks and dates in a value. -/
def links : Value → List Value
  | .list items => linksAll items
  | .record .page fields => [.record .page fields]
  | .record .block fields => [.record .block fields]
  | .date d => [.date d]
  | .record .plain _ | .number _ | .flag _ | .text _ | .null | .args _ => []

/-- The pages, blocks and dates in values. -/
def linksAll : List Value → List Value
  | [] => []
  | v :: vs => links v ++ linksAll vs

end

/-- A value without pages, blocks and dates. -/
inductive Plain : Value → Prop where
  | number (x : Float) : Plain (.number x)
  | flag (b : Bool) : Plain (.flag b)
  | text (s : String) : Plain (.text s)
  | null : Plain .null
  | args (a : Arguments) : Plain (.args a)
  | record (fields : Dictionary Value) : Plain (.record .plain fields)
  | list {items : List Value} (h : ∀ v ∈ items, Plain v) : Plain (.list items)

theorem linksAll_eq_flatMap : ∀ vs : List Value, linksAll vs = vs.flatMap links
  | [] => rfl
  | v :: vs => by rw [linksAll, List.flatMap_cons, linksAll_eq_flatMap vs]

theorem linkTexts_eq_map (pattern : String) : ∀ vs : List Value,
    linkTexts pattern vs = vs.map (linkText pattern)
  | [] => rfl
  | v :: vs => by rw [linkTexts, List.map_cons, linkTexts_eq_map pattern vs]

theorem displayAll_eq_map : ∀ vs : List Value, displayAll vs = vs.map display
  | [] => rfl
  | v :: vs => by rw [displayAll, List.map_cons, displayAll_eq_map vs]

theorem shown_list (pattern : String) (filter : Bool) (items : List Value) :
    shown pattern filter (.list items) = ", ".intercalate (items.map (shown pattern filter)) := by
  cases filter with
  | true =>
    show linkText pattern (.list items) = ", ".intercalate (items.map (linkText pattern))
    rw [linkText, linkTexts_eq_map]
  | false =>
    show display (.list items) = ", ".intercalate (items.map display)
    rw [display, displayAll_eq_map]

mutual

theorem isLink_of_mem_links : ∀ {v w : Value}, w ∈ v.links → w.IsLink
  | .list _, _, h => isLink_of_mem_linksAll h
  | .record .page fields, _, h => List.mem_singleton.mp h ▸ .page fields
  | .record .block fields, _, h => List.mem_singleton.mp h ▸ .block fields
  | .date d, _, h => List.mem_singleton.mp h ▸ .date d

theorem isLink_of_mem_linksAll : ∀ {vs : List Value} {w : Value}, w ∈ linksAll vs → w.IsLink
  | _ :: _, _, h => (List.mem_append.mp h).elim isLink_of_mem_links isLink_of_mem_linksAll

end

theorem Plain.links_eq_nil {v : Value} (h : v.Plain) : v.links = [] := by
  induction h with
  | list h ih =>
    rw [links, linksAll_eq_flatMap, List.flatMap_eq_nil_iff]
    exact ih
  | _ => rfl

mutual

theorem plain_of_links : ∀ v : Value, v.links = [] → v.Plain
  | .list items, h => .list (plain_of_linksAll items h)
  | .record .plain fields, _ => .record fields
  | .record .page _, h => nomatch h
  | .record .block _, h => nomatch h
  | .date _, h => nomatch h
  | .number x, _ => .number x
  | .flag b, _ => .flag b
  | .text s, _ => .text s
  | .null, _ => .null
  | .args a, _ => .args a

theorem plain_of_linksAll : ∀ vs : List Value, linksAll vs = [] → ∀ v ∈ vs, v.Plain
  | w :: vs, h, v, hv => by
    obtain ⟨hfirst, hrest⟩ := List.append_eq_nil_iff.mp h
    rcases List.mem_cons.mp hv with heq | hv
    · exact heq ▸ plain_of_links w hfirst
    · exact plain_of_linksAll vs hrest v hv

end

/-- A value is plain exactly if there are no links in it. -/
theorem links_eq_nil_iff {v : Value} : v.links = [] ↔ v.Plain :=
  ⟨plain_of_links v, Plain.links_eq_nil⟩

end Value

/-! ## Texts that are the same but for links -/

/-- Whether two texts are the same but for values, in order, each of which is shown with or without
its link. -/
inductive AlikeBut (pattern : String) : List Value → String → String → Prop where
  | text (s : String) : AlikeBut pattern [] s s
  | link (v : Value) (filter filter' : Bool) :
    AlikeBut pattern [v] (v.shown pattern filter) (v.shown pattern filter')
  | append {links links' : List Value} {s s' t t' : String} : AlikeBut pattern links s s' →
    AlikeBut pattern links' t t' → AlikeBut pattern (links ++ links') (s ++ t) (s' ++ t')

namespace AlikeBut

variable {pattern : String} {links links' : List Value} {s s' t t' : String}

/-- But for nothing, texts are alike only if they are the same. -/
theorem eq (h : AlikeBut pattern links s s') (hnone : links = []) : s = s' := by
  induction h with
  | text => rfl
  | link => cases hnone
  | append _ _ ih ih' =>
    obtain ⟨hlinks, hlinks'⟩ := List.append_eq_nil_iff.mp hnone
    rw [ih hlinks, ih' hlinks']

/-- Texts stay alike when the same text is put in front of both. -/
theorem prepend (h : AlikeBut pattern links s s') (front : String) :
    AlikeBut pattern links (front ++ s) (front ++ s') := .append (.text front) h

end AlikeBut

namespace Value

variable {pattern : String}

mutual

/-- **The texts of a value are the same but for its links.** -/
theorem shown_alike (filter filter' : Bool) : ∀ v : Value,
    AlikeBut pattern v.links (v.shown pattern filter) (v.shown pattern filter')
  | .list items => by
    rw [shown_list, shown_list]
    exact intercalate_alike filter filter' items
  | .record .page fields => .link (.record .page fields) filter filter'
  | .record .block fields => .link (.record .block fields) filter filter'
  | .date d => .link (.date d) filter filter'
  | .record .plain _ | .number _ | .flag _ | .text _ | .null | .args _ => by
    cases filter <;> cases filter' <;> exact .text _

theorem intercalate_alike (filter filter' : Bool) : ∀ vs : List Value,
    AlikeBut pattern (linksAll vs) (", ".intercalate (vs.map (shown pattern filter)))
      (", ".intercalate (vs.map (shown pattern filter')))
  | [] => .text _
  | [v] => by
    rw [linksAll, linksAll, List.append_nil, List.map_singleton, List.map_singleton,
      String.intercalate_singleton, String.intercalate_singleton]
    exact shown_alike filter filter' v
  | v :: w :: vs => by
    have hrest := intercalate_alike filter filter' (w :: vs)
    rw [linksAll]
    simp only [List.map_cons, String.intercalate_cons_cons, String.append_assoc] at hrest ⊢
    exact .append (shown_alike filter filter' v) (hrest.prepend ", ")

end

/-- **The texts of a value without links are the same.** -/
theorem Plain.shown_eq {v : Value} (h : v.Plain) (pattern : String) (filter filter' : Bool) :
    v.shown pattern filter = v.shown pattern filter' :=
  (shown_alike filter filter' v).eq h.links_eq_nil

end Value

/-! ## Emitted values -/

/-- The values that a step emits. -/
def Instruction.values (site : Site) : Instruction → Memory → List Value
  | .emit value _ span, m =>
    match Run.evaluate site span value m with
    | (.error _, _) => []
    | (.ok v, _) => [v]
  | .literal _, _ | .execute _ _, _ => []

/-- The values that steps emit in order, as far as they come. -/
def stepValues (site : Site) : List Instruction → Memory → List Value
  | [], _ => []
  | step :: steps, m => step.values site m ++
    match step.run site m with
    | (.error _, _) => []
    | (.ok _, m) => stepValues site steps m

/-- The values that a program emits in its scope. -/
def Program.values (p : Program) (helpers : Helpers) (settings : Settings) (env : Environment) :
    List Value := stepValues ⟨helpers, settings, p.file⟩ p.steps ⟨env.push, {}⟩

/-! ## Runs that are the same but for links -/

/-- Two runs with the same failure, or with texts that are the same but for links. -/
inductive TextsAlike (pattern : String) (links : List Value) :
    Except Failure String → Except Failure String → Prop where
  | failed (failure : Failure) : TextsAlike pattern links (.error failure) (.error failure)
  | ok {s s' : String} (h : AlikeBut pattern links s s') :
    TextsAlike pattern links (.ok s) (.ok s')

/-- Two results with the same failure, or with the same effects and with texts that are the same but
for links. -/
inductive Rendered.AlikeBut (pattern : String) (links : List Value) :
    Except Failure Rendered → Except Failure Rendered → Prop where
  | failed (failure : Failure) : AlikeBut pattern links (.error failure) (.error failure)
  | ok {s s' : String} (effects : Effects) (h : Stencil.AlikeBut pattern links s s') :
    AlikeBut pattern links (.ok ⟨s, effects⟩) (.ok ⟨s', effects⟩)

section Runs

variable (site : Site)

/-- What a step does but for links does not depend on which of them are asked for. -/
theorem step_alike {step step' : Instruction} (h : step.unfiltered = step'.unfiltered)
    (m : Memory) :
    step.values site m = step'.values site m ∧ (step.run site m).2 = (step'.run site m).2 ∧
      TextsAlike site.settings.dateFormat ((step.values site m).flatMap Value.links)
        (step.run site m).1 (step'.run site m).1 := by
  cases step with
  | literal text =>
    cases step' with
    | literal text' =>
      cases h
      exact ⟨rfl, rfl, .ok (.text _)⟩
    | emit | execute => cases h
  | emit value filter span =>
    cases step' with
    | emit value' filter' span' =>
      cases h
      rw [Instruction.run, Instruction.run, bind_apply, bind_apply, Instruction.values,
        Instruction.values]
      cases Run.evaluate site span value m with
      | mk result m' =>
        cases result with
        | error failure => exact ⟨rfl, rfl, .failed failure⟩
        | ok v =>
          refine ⟨rfl, rfl, .ok ?_⟩
          rw [List.flatMap_singleton]
          exact v.shown_alike filter filter'
    | literal | execute => cases h
  | execute body span =>
    cases step' with
    | execute body' span' =>
      cases h
      refine ⟨rfl, rfl, ?_⟩
      rw [Instruction.run, bind_apply]
      cases runAll site body m with
      | mk result m' =>
        cases result with
        | error failure => exact .failed failure
        | ok _ => exact .ok (.text _)
    | literal | emit => cases h

theorem runSteps_alike {steps steps' : List Instruction}
    (h : steps.map Instruction.unfiltered = steps'.map .unfiltered) (m : Memory) :
    stepValues site steps m = stepValues site steps' m ∧
      (runSteps site steps m).2 = (runSteps site steps' m).2 ∧
      TextsAlike site.settings.dateFormat ((stepValues site steps m).flatMap Value.links)
        (runSteps site steps m).1 (runSteps site steps' m).1 := by
  induction steps generalizing steps' m with
  | nil =>
    obtain rfl := List.map_eq_nil_iff.mp h.symm
    exact ⟨rfl, rfl, .ok (.text "")⟩
  | cons step steps ih =>
    obtain ⟨step', rest, rfl, hstep, hrest⟩ := List.map_eq_cons_iff.mp h.symm
    obtain ⟨hvalues, hmemory, htexts⟩ := step_alike site hstep.symm m
    rw [runSteps, runSteps, bind_apply, bind_apply, stepValues, stepValues, ← hvalues]
    cases hrun : step.run site m with
    | mk result m' =>
      cases hrun' : step'.run site m with
      | mk result' m'' =>
        rw [hrun, hrun'] at hmemory htexts
        dsimp only at hmemory htexts
        subst hmemory
        cases htexts with
        | failed failure =>
          rw [List.append_nil]
          exact ⟨rfl, rfl, .failed failure⟩
        | ok htext =>
          dsimp only
          obtain ⟨hvalues', hmemory', htexts'⟩ := ih hrest.symm m'
          rw [bind_apply, bind_apply, ← hvalues', List.flatMap_append]
          cases hruns : runSteps site steps m' with
          | mk text end₁ =>
            cases hruns' : runSteps site rest m' with
            | mk text' end₂ =>
              rw [hruns, hruns'] at hmemory' htexts'
              dsimp only at hmemory' htexts'
              subst hmemory'
              cases htexts' with
              | failed failure => exact ⟨rfl, rfl, .failed failure⟩
              | ok htext' => exact ⟨rfl, rfl, .ok (htext.append htext')⟩

/-- Programs that differ in the links that they ask for emit the same values, leave the same
environment and have the same results but for links. -/
theorem execute_alike {p q : Program} (h : p.unfiltered = q.unfiltered) (helpers : Helpers)
    (settings : Settings) (env : Environment) :
    (p.execute helpers settings env).2 = (q.execute helpers settings env).2 ∧
      Rendered.AlikeBut settings.dateFormat
        ((p.values helpers settings env).flatMap Value.links)
        (p.execute helpers settings env).1 (q.execute helpers settings env).1 := by
  obtain ⟨steps, file⟩ := p
  obtain ⟨steps', file'⟩ := q
  obtain ⟨hsteps, rfl⟩ := Program.mk.inj h
  obtain ⟨-, hmemory, htexts⟩ :=
    runSteps_alike ⟨helpers, settings, file⟩ hsteps ⟨env.push, {}⟩
  unfold Program.execute Program.values Run.inScope
  dsimp only at hmemory htexts ⊢
  cases hrun : runSteps ⟨helpers, settings, file⟩ steps ⟨env.push, {}⟩ with
  | mk text m =>
    cases hrun' : runSteps ⟨helpers, settings, file⟩ steps' ⟨env.push, {}⟩ with
    | mk text' m' =>
      rw [hrun, hrun'] at hmemory htexts
      dsimp only at hmemory htexts
      subst hmemory
      cases htexts with
      | failed failure => exact ⟨rfl, .failed failure⟩
      | ok htext => exact ⟨rfl, .ok m.effects htext⟩

/-- But for nothing, results are alike only if they are the same. -/
theorem Rendered.AlikeBut.eq {pattern : String} {links : List Value}
    {result result' : Except Failure Rendered}
    (h : Rendered.AlikeBut pattern links result result') (hnone : links = []) :
    result = result' := by
  cases h with
  | failed failure => rfl
  | ok effects htext => rw [htext.eq hnone]

end Runs

/-- Tags that differ in the links that they ask for are at fault in the same sources, and there
alike, and give programs that differ in the same way. -/
theorem compile_alike {t u : TagSet} (h : t.unfiltered = u.unfiltered) (source : String)
    (file : Nat) :
    (∃ e, Program.compile t source file = .error e ∧ Program.compile u source file = .error e) ∨
      ∃ p q, Program.compile t source file = .ok p ∧ Program.compile u source file = .ok q ∧
        p.unfiltered = q.unfiltered := by
  have hcompile : (Program.compile t source file).map Program.unfiltered =
      (Program.compile u source file).map Program.unfiltered := by
    rw [← compile_unfiltered, ← compile_unfiltered, h]
  cases hp : Program.compile t source file with
  | error e =>
    cases hq : Program.compile u source file with
    | error e' =>
      rw [hp, hq] at hcompile
      exact .inl ⟨e, rfl, congrArg _ (Except.error.inj hcompile).symm⟩
    | ok q =>
      rw [hp, hq] at hcompile
      cases hcompile
  | ok p =>
    cases hq : Program.compile u source file with
    | error e =>
      rw [hp, hq] at hcompile
      cases hcompile
    | ok q =>
      rw [hp, hq] at hcompile
      exact .inr ⟨p, q, rfl, rfl, Except.ok.inj hcompile⟩

/-- **Asking for links changes links only.** The text of a value with links is the text without them
where the value is made of numbers, truth values, texts, nothing, arguments, plain records and lists
of all these. In general the two are the same but for the pages, blocks and dates in the value. So
tags that ask for other links are found in the same places and are at fault where the others are;
and running the programs that are compiled with them leaves the same environment and fails alike, or
has the same effects and a text that is the same but for the links in the values that are emitted.
-/
theorem links_alone_depend_on_filter :
    (∀ (pattern : String) (v : Value), v.Plain → v.linkText pattern = v.display) ∧
      (∀ (pattern : String) (v : Value),
        AlikeBut pattern v.links v.display (v.linkText pattern) ∧ (∀ w ∈ v.links, w.IsLink) ∧
          (v.links = [] ↔ v.Plain)) ∧
      ∀ t u : TagSet, t.unfiltered = u.unfiltered → ∀ (source : String) (file : Nat),
        (∀ e, Program.compile t source file = .error e ↔
          Program.compile u source file = .error e) ∧
        ∀ p q, Program.compile t source file = .ok p → Program.compile u source file = .ok q →
          ∀ (helpers : Helpers) (settings : Settings) (env : Environment),
            (p.execute helpers settings env).2 = (q.execute helpers settings env).2 ∧
              Rendered.AlikeBut settings.dateFormat
                ((p.values helpers settings env).flatMap Value.links)
                (p.execute helpers settings env).1 (q.execute helpers settings env).1 ∧
              ((∀ v ∈ p.values helpers settings env, v.Plain) →
                p.execute helpers settings env = q.execute helpers settings env) := by
  refine ⟨fun pattern v h => h.shown_eq pattern true false, fun pattern v => ?_,
    fun t u htags source file => ?_⟩
  · exact ⟨v.shown_alike false true, fun w => Value.isLink_of_mem_links, Value.links_eq_nil_iff⟩
  · rcases compile_alike htags source file with ⟨e, ht, hu⟩ | ⟨p, q, ht, hu, hprograms⟩
    · rw [ht, hu]
      exact ⟨fun _ => Iff.rfl, nofun⟩
    · rw [ht, hu]
      refine ⟨fun e => ⟨nofun, nofun⟩, ?_⟩
      rintro _ _ ⟨⟩ ⟨⟩ helpers settings env
      obtain ⟨henv, hresult⟩ := execute_alike hprograms helpers settings env
      refine ⟨henv, hresult, fun hplain => Prod.ext (hresult.eq ?_) henv⟩
      exact List.flatMap_eq_nil_iff.mpr fun v hv => (hplain v hv).links_eq_nil

/-- The standard tags, of which the plain one does not ask for links. -/
def unlinkedTags : TagSet := TagSet.standard.push { plainTag with filter := false }

/-- A list that is emitted shows the same text, whether the plain tag asks for links or not: there
are no links in the list. -/
theorem links_alone_depend_on_filter_list :
    Value.Plain (.list [.text "a", .list [], .flag true]) ∧
      (∀ pattern, Value.linkText pattern (.list [.text "a", .list [], .flag true]) =
        Value.display (.list [.text "a", .list [], .flag true])) ∧
      TagSet.standard.unfiltered = unlinkedTags.unfiltered ∧
      ∃ p q, Program.compile .standard "``['a', [], true]``" 0 = .ok p ∧
        Program.compile unlinkedTags "``['a', [], true]``" 0 = .ok q ∧
        (p.execute .empty { today := .epoch } .empty).1 = .ok ⟨"a, , true", {}⟩ ∧
        p.execute .empty { today := .epoch } .empty =
          q.execute .empty { today := .epoch } .empty := by
  have hplain : Value.Plain (.list [.text "a", .list [], .flag true]) :=
    Value.links_eq_nil_iff.mp rfl
  have htags : TagSet.standard.unfiltered = unlinkedTags.unfiltered := rfl
  have hp : Program.compile .standard "``['a', [], true]``" 0 =
      .ok ⟨[.emit (.list [.text "a", .list [], .flag true]) true ⟨0, 19⟩], 0⟩ := by cbv
  have hq : Program.compile unlinkedTags "``['a', [], true]``" 0 =
      .ok ⟨[.emit (.list [.text "a", .list [], .flag true]) false ⟨0, 19⟩], 0⟩ := by cbv
  have hsame := (links_alone_depend_on_filter.2.2 _ _ htags _ 0).2 _ _ hp hq
    .empty { today := .epoch } .empty
  refine ⟨hplain, fun pattern => links_alone_depend_on_filter.1 pattern _ hplain, htags, _, _, hp,
    hq, by cbv, hsame.2.2 fun v hv => ?_⟩
  exact List.mem_singleton.mp hv ▸ hplain

end Stencil
