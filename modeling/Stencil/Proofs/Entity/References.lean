import Mathlib.Data.List.Induction
import Stencil.Entity.Property
import Stencil.Proofs.Text.Case
import Stencil.Proofs.Text.Search

/-!
# The pages a property refers to

A property can list pages, each as a link `[[name]]` or as a tag `#[[name]]`. The links find every
name, since the brackets of a tag are those of a link. The tags are looked for in single words, and
the first word of a tag is taken for a name too when there is a blank behind it.

* `PageName` and `Mention`: the names and their two forms. `Mention.writtenAll`: the list as it is
  written.
* `linksIn_writtenAll`: the links are the names. `tagsIn_writtenAll`: the tags are the first words.
* `refs_written`: the references of a list. They are the names exactly if every first word of a tag
  is a name of its own.
* `not_refs_written_tag`: a tag with two words.
-/

namespace Stencil

open Text PropertyValue

/-! ## Names -/

/-- Whether there are no brackets, commas and hash signs in a text. -/
def NoMarks (chars : List Char) : Prop :=
  ∀ c ∈ chars, c ≠ '[' ∧ c ≠ ']' ∧ c ≠ ',' ∧ c ≠ '#'

instance (chars : List Char) : Decidable (NoMarks chars) := List.decidableBAll _ _

/-- The name of a page that can stand between brackets. -/
structure PageName where
  chars : List Char
  not_blank : allBlank chars = false
  noMarks : NoMarks chars

namespace PageName

variable (name : PageName)

/-- The name that a page is looked up by: trimmed and in lower case. -/
def key : String := String.ofList (lower (trim name.chars))

/-- The characters in front of the first blank. -/
def firstWord : List Char := name.chars.takeWhile fun c => !isBlank c

theorem notMem_of_mark {c : Char} (h : c = '[' ∨ c = ']' ∨ c = ',' ∨ c = '#') :
    c ∉ name.chars := by
  intro hc
  obtain ⟨h₁, h₂, h₃, h₄⟩ := name.noMarks c hc
  rcases h with h | h | h | h
  · exact h₁ h
  · exact h₂ h
  · exact h₃ h
  · exact h₄ h

theorem notMem_firstWord {c : Char} (h : c ∉ name.chars) : c ∉ name.firstWord := fun hc =>
  h ((List.takeWhile_sublist _).mem hc)

theorem isBlank_of_mem_firstWord {c : Char} (h : c ∈ name.firstWord) : isBlank c = false := by
  simpa using List.all_eq_true.mp (List.all_takeWhile (l := name.chars)) c h

/-- The first word is all of the name, or there is a blank behind it. -/
theorem eq_firstWord : name.chars = name.firstWord ∨
    ∃ c rest, name.chars = name.firstWord ++ c :: rest ∧ isBlank c = true := by
  have hparts : name.firstWord ++ name.chars.dropWhile (fun c => !isBlank c) = name.chars :=
    List.takeWhile_append_dropWhile
  have hhead := List.head?_dropWhile_not (fun c => !isBlank c) name.chars
  cases hrest : name.chars.dropWhile fun c => !isBlank c with
  | nil =>
    rw [hrest, List.append_nil] at hparts
    exact .inl hparts.symm
  | cons c rest =>
    rw [hrest] at hparts hhead
    exact .inr ⟨c, rest, hparts.symm, by simpa using hhead⟩

/-- When there are no blanks in a name, but around it, its first word is all of it, or nothing when
there is a blank in front of it. -/
theorem firstWord_of_one_word (h : (trim name.chars).any isBlank = false) :
    name.firstWord = [] ∨ name.firstWord = trim name.chars := by
  obtain ⟨before, after, heq, hbefore, hafter⟩ := exists_eq_trim name.chars
  have hsplit : name.firstWord = (before ++ (trim name.chars ++ after)).takeWhile fun c =>
      !isBlank c := congrArg (List.takeWhile _) heq
  cases before with
  | nil =>
    right
    have hnone : after.takeWhile (fun c => !isBlank c) = [] := by
      cases after with
      | nil => rfl
      | cons c after => simp [hafter c List.mem_cons_self]
    have hall : ∀ c ∈ trim name.chars, (!isBlank c) = true := by
      simpa using List.any_eq_false.mp h
    rw [hsplit, List.nil_append, List.takeWhile_append_of_pos hall, hnone, List.append_nil]
  | cons c before =>
    left
    rw [hsplit]
    simp [hbefore c List.mem_cons_self]

theorem lower_trim_ne_nil : lower (trim name.chars) ≠ [] := by
  rw [Ne, lower_eq_nil_iff, trim_eq_nil_iff, name.not_blank]
  exact Bool.false_ne_true

end PageName

/-! ## Mentions -/

/-- A page that is referred to, by a link or by a tag. -/
inductive Mention where
  | link (name : PageName)
  | tag (name : PageName)

namespace Mention

/-- The page that is referred to. -/
def name : Mention → PageName
  | .link name | .tag name => name

/-- What stands in front of the brackets. -/
def mark : Mention → List Char
  | .link _ => []
  | .tag _ => ['#']

/-- The name between brackets. -/
def written (m : Mention) : List Char := m.mark ++ '[' :: '[' :: (m.name.chars ++ [']', ']'])

/-- The list of the mentions. -/
def writtenAll (mentions : List Mention) : List Char :=
  joinWith [',', ' '] (mentions.map written)

/-- The first word of a tag that begins with one. -/
def firstWord? : Mention → Option (List Char)
  | .link _ => none
  | .tag name => if name.firstWord = [] then none else some name.firstWord

/-- The mentions behind the first one. -/
def writtenMore (mentions : List Mention) : List Char :=
  mentions.flatMap fun m => ',' :: ' ' :: m.written

theorem writtenAll_cons (m : Mention) (mentions : List Mention) :
    writtenAll (m :: mentions) = m.written ++ writtenMore mentions := by
  induction mentions generalizing m with
  | nil => exact (List.append_nil _).symm
  | cons next mentions ih =>
    have hrest := ih next
    unfold writtenAll writtenMore at hrest ⊢
    rw [List.map_cons, List.map_cons, joinWith, List.flatMap_cons, ← List.map_cons, hrest]
    · simp
    · exact fun h => List.cons_ne_nil _ _ h

end Mention

/-! ## Links -/

theorem linksIn_append {before name : List Char} (hbefore : '[' ∉ before) (hname : ']' ∉ name)
    (limit : Nat) (rest : List Char) :
    linksIn (limit + 1) (before ++ '[' :: '[' :: (name ++ ']' :: ']' :: rest)) =
      name :: linksIn limit rest := by
  have hopen : cutAt? ['[', '['] (before ++ '[' :: '[' :: (name ++ ']' :: ']' :: rest)) =
      some (before, name ++ ']' :: ']' :: rest) := cutAt?_append hbefore _
  have hclose : cutAt? [']', ']'] (name ++ ']' :: ']' :: rest) = some (name, rest) :=
    cutAt?_append hname rest
  rw [linksIn, hopen]
  dsimp only
  rw [hclose]

theorem linksIn_nil (limit : Nat) : linksIn limit [] = [] := by
  cases limit <;> rfl

namespace Mention

theorem linksIn_written_append {before : List Char} (hbefore : '[' ∉ before) (m : Mention)
    (limit : Nat) (rest : List Char) :
    linksIn (limit + 1) (before ++ (m.written ++ rest)) = m.name.chars :: linksIn limit rest := by
  have hmark : '[' ∉ before ++ m.mark := by
    cases m <;> simpa [mark] using hbefore
  have hname : ']' ∉ m.name.chars := m.name.notMem_of_mark (.inr (.inl rfl))
  have hlinks := linksIn_append hmark hname limit rest
  simpa [written] using hlinks

theorem linksIn_writtenMore {mentions : List Mention} {limit : Nat}
    (h : mentions.length ≤ limit) :
    linksIn limit (writtenMore mentions) = mentions.map fun m => m.name.chars := by
  induction mentions generalizing limit with
  | nil => exact linksIn_nil limit
  | cons m mentions ih =>
    obtain ⟨k, rfl⟩ : ∃ k, limit = k + 1 := ⟨limit - 1, by rw [List.length_cons] at h; omega⟩
    have hseparator : '[' ∉ [',', ' '] := by decide
    have hlinks := linksIn_written_append hseparator m k (writtenMore mentions)
    rw [ih (Nat.le_of_succ_le_succ h)] at hlinks
    exact hlinks

theorem length_le_writtenMore (mentions : List Mention) :
    mentions.length ≤ (writtenMore mentions).length := by
  induction mentions with
  | nil => exact Nat.le_refl _
  | cons m mentions ih =>
    unfold writtenMore at ih ⊢
    rw [List.flatMap_cons, List.length_append, List.length_cons, List.length_cons]
    omega

/-- **The links are the names**, whichever form they have. -/
theorem linksIn_writtenAll (mentions : List Mention) :
    linksIn (writtenAll mentions).length (writtenAll mentions) =
      mentions.map fun m => m.name.chars := by
  cases mentions with
  | nil => rfl
  | cons m mentions =>
    have hlength := length_le_writtenMore mentions
    obtain ⟨k, hk, hmore⟩ : ∃ k, (writtenAll (m :: mentions)).length = k + 1 ∧
        mentions.length ≤ k := by
      refine ⟨(writtenAll (m :: mentions)).length - 1, ?_, ?_⟩ <;>
      · rw [writtenAll_cons, written]
        simp only [List.length_append, List.length_cons]
        omega
    rw [hk, writtenAll_cons, ← List.nil_append (m.written ++ writtenMore mentions),
      linksIn_written_append List.not_mem_nil, linksIn_writtenMore hmore]
    rfl

end Mention

/-! ## Tags -/

/-- Whether a character parts the words in which tags are looked for. -/
def partsTags (c : Char) : Bool := isBlank c || c = ','

theorem tagsIn_append_cons {c : Char} (hc : partsTags c = true) (before after : List Char) :
    tagsIn (before ++ c :: after) = tagsIn before ++ tagsIn after := by
  have hsplit : splitWhere partsTags (before ++ c :: after) =
      splitWhere partsTags before ++ splitWhere partsTags after :=
    splitWhere_append_cons hc before after
  exact (congrArg (List.filterMap tagName?) hsplit).trans List.filterMap_append

theorem tagsIn_of_word {cs : List Char} (h : ∀ c ∈ cs, partsTags c = false) :
    tagsIn cs = (tagName? cs).toList := by
  have hsplit : splitWhere partsTags cs = [cs] := splitWhere_eq_singleton h
  refine (congrArg (List.filterMap tagName?) hsplit).trans ?_
  rw [List.filterMap_cons, List.filterMap_nil]
  cases tagName? cs <;> rfl

/-- A text without hash signs has no tags. -/
theorem tagsIn_of_no_hash {cs : List Char} (h : '#' ∉ cs) : tagsIn cs = [] := by
  refine List.filterMap_eq_nil_iff.mpr fun piece hpiece => ?_
  unfold tagName?
  split
  · exact absurd (mem_of_mem_splitWhere hpiece List.mem_cons_self) h
  · rfl

/-- The brackets around the name of a tag do not count, nor do those in front of its first word. -/
theorem tagName?_bracketed {word close : List Char} (hopen : '[' ∉ word) (hclose : ']' ∉ word)
    (h : close = [] ∨ close = [']', ']']) :
    tagName? ('#' :: '[' :: '[' :: (word ++ close)) = if word = [] then none else some word := by
  have hno : '[' ∉ word ++ close := by
    rcases h with rfl | rfl <;> simpa using hopen
  have hstart : stripStart ['[', '['] ('[' :: '[' :: (word ++ close)) = word ++ close :=
    stripStart_twice hno
  have hend : stripEnd [']', ']'] (word ++ close) = word := by
    rcases h with rfl | rfl
    · rw [List.append_nil]
      exact stripEnd_of_notMem hclose
    · exact stripEnd_twice hclose
  simp only [tagName?, hstart, hend]
  cases word <;> rfl

namespace Mention

/-- The tag in a mention is its first word. -/
theorem tagsIn_written (m : Mention) : tagsIn m.written = m.firstWord?.toList := by
  cases m with
  | link name =>
    have hhash : '#' ∉ name.chars := name.notMem_of_mark (.inr (.inr (.inr rfl)))
    exact tagsIn_of_no_hash (by simpa [written, mark, Mention.name] using hhash)
  | tag name =>
    have hopen := name.notMem_firstWord (name.notMem_of_mark (.inl rfl))
    have hclose := name.notMem_firstWord (name.notMem_of_mark (.inr (.inl rfl)))
    have hcomma := name.notMem_firstWord (name.notMem_of_mark (.inr (.inr (.inl rfl))))
    have hhash : '#' ∉ name.chars := name.notMem_of_mark (.inr (.inr (.inr rfl)))
    have hopening : ∀ c ∈ '#' :: '[' :: '[' :: name.firstWord, partsTags c = false := by
      simp only [List.forall_mem_cons]
      refine ⟨by decide, by decide, by decide, fun c hc => ?_⟩
      rw [partsTags, name.isBlank_of_mem_firstWord hc, Bool.false_or]
      exact decide_eq_false fun heq => hcomma (heq ▸ hc)
    -- Either the closing brackets belong to the first word, or a blank parts them from it.
    obtain hwhole | ⟨c, rest, hchars, hblank⟩ := name.eq_firstWord
    · have hwritten : (Mention.tag name).written =
          '#' :: '[' :: '[' :: (name.firstWord ++ [']', ']']) := by rw [← hwhole]; rfl
      have hall : ∀ c ∈ '#' :: '[' :: '[' :: (name.firstWord ++ [']', ']']),
          partsTags c = false := by
        simp only [← List.cons_append, List.forall_mem_append]
        exact ⟨hopening, List.forall_mem_cons.mpr ⟨by decide, List.forall_mem_singleton.mpr
          (by decide)⟩⟩
      rw [hwritten, tagsIn_of_word hall, tagName?_bracketed hopen hclose (.inr rfl)]
      rfl
    · have hc : partsTags c = true := by rw [partsTags, hblank, Bool.true_or]
      have hwritten : (Mention.tag name).written =
          ('#' :: '[' :: '[' :: (name.firstWord ++ [])) ++ c :: (rest ++ [']', ']']) := by
        simp [written, mark, Mention.name, hchars]
      have hno : '#' ∉ rest ++ [']', ']'] := by
        intro hmem
        obtain hmem | hmem := List.mem_append.mp hmem
        · exact hhash (hchars ▸ List.mem_append_right _ (List.mem_cons_of_mem c hmem))
        · exact absurd hmem (by decide)
      have hall : ∀ c ∈ '#' :: '[' :: '[' :: (name.firstWord ++ []), partsTags c = false := by
        rwa [List.append_nil]
      rw [hwritten, tagsIn_append_cons hc, tagsIn_of_no_hash hno, tagsIn_of_word hall,
        tagName?_bracketed hopen hclose (.inl rfl), List.append_nil]
      rfl

theorem tagsIn_append_writtenMore (cs : List Char) (mentions : List Mention) :
    tagsIn (cs ++ writtenMore mentions) = tagsIn cs ++ mentions.filterMap firstWord? := by
  induction mentions generalizing cs with
  | nil =>
    show tagsIn (cs ++ []) = _
    rw [List.append_nil, List.filterMap_nil, List.append_nil]
  | cons m mentions ih =>
    have hmore : writtenMore (m :: mentions) = ',' :: ' ' :: (m.written ++ writtenMore mentions) :=
      rfl
    have hblank : tagsIn (' ' :: (m.written ++ writtenMore mentions)) =
        tagsIn (m.written ++ writtenMore mentions) := tagsIn_append_cons (c := ' ') (by decide) [] _
    rw [hmore, tagsIn_append_cons (c := ',') (by decide), hblank, ih, tagsIn_written]
    cases hfirst : m.firstWord? <;> simp [hfirst]

/-- **The tags are the first words** of the tags that begin with one. -/
theorem tagsIn_writtenAll (mentions : List Mention) :
    tagsIn (writtenAll mentions) = mentions.filterMap firstWord? := by
  cases mentions with
  | nil => rfl
  | cons m mentions =>
    rw [writtenAll_cons, tagsIn_append_writtenMore, tagsIn_written]
    cases hfirst : m.firstWord? <;> simp [hfirst]

end Mention

/-! ## References -/

theorem eraseDups_concat (names : List String) (name : String) :
    (names ++ [name]).eraseDups =
      if name ∈ names then names.eraseDups else names.eraseDups ++ [name] := by
  have hone : [name].eraseDups = [name] := rfl
  rw [List.eraseDups_append]
  by_cases h : name ∈ names <;> simp [List.removeAll, h, hone]

/-- Names are kept where they occur first. -/
theorem foldl_addName {names : List (List Char)} (h : ∀ name ∈ names, name ≠ []) :
    names.foldl addName [] = (names.map String.ofList).eraseDups := by
  induction names using List.reverseRecOn with
  | nil => rfl
  | append_singleton names name ih =>
    have hnames : ∀ name ∈ names, name ≠ [] := fun n hn => h n (List.mem_append_left _ hn)
    have hempty : (String.ofList name).isEmpty = false := by
      simpa using h name (List.mem_append_right _ List.mem_cons_self)
    rw [List.foldl_concat, ih hnames, List.map_append, List.map_singleton, eraseDups_concat,
      addName]
    simp only [hempty, Bool.false_or, List.contains_iff_mem, List.mem_eraseDups]

/-- What comes behind a list adds nothing to it exactly if all of it is there. -/
theorem eraseDups_append_eq_iff {names more : List String} :
    (names ++ more).eraseDups = names.eraseDups ↔ ∀ name ∈ more, name ∈ names := by
  rw [List.eraseDups_append, List.append_right_eq_self, List.eq_nil_iff_forall_not_mem]
  simp [List.mem_eraseDups, List.removeAll]

namespace Mention

theorem getLast?_append_written (cs : List Char) (m : Mention) :
    (cs ++ m.written).getLast? = some ']' := by
  have hwritten : cs ++ m.written =
      (cs ++ m.mark ++ '[' :: '[' :: (m.name.chars ++ [']'])) ++ [']'] := by simp [written]
  rw [hwritten, List.getLast?_concat]

theorem getLast?_append_writtenMore {cs : List Char} (h : cs.getLast? = some ']')
    (mentions : List Mention) : (cs ++ writtenMore mentions).getLast? = some ']' := by
  induction mentions generalizing cs with
  | nil =>
    show (cs ++ []).getLast? = _
    rwa [List.append_nil]
  | cons m mentions ih =>
    have hmore : cs ++ writtenMore (m :: mentions) =
        (cs ++ [',', ' '] ++ m.written) ++ writtenMore mentions := by simp [writtenMore]
    rw [hmore]
    exact ih (getLast?_append_written _ m)

/-- The list begins and ends with a bracket or a hash sign, so it is trimmed. -/
theorem trim_writtenAll (mentions : List Mention) :
    trim (writtenAll mentions) = writtenAll mentions := by
  cases mentions with
  | nil => rfl
  | cons m mentions =>
    have hlast : m.written.getLast? = some ']' := getLast?_append_written [] m
    rw [writtenAll_cons]
    refine trim_of_head_getLast (fun c hc => ?_) fun c hc => ?_
    · cases m <;> exact Option.some.inj hc ▸ by decide
    · rw [getLast?_append_writtenMore hlast] at hc
      exact Option.some.inj hc ▸ by decide

/-- The name that the first word of a tag is taken for. -/
def fragment? (m : Mention) : Option String :=
  m.firstWord?.map fun word => String.ofList (lower word)

theorem firstWord?_eq_some_iff {name : PageName} {word : List Char} :
    (Mention.tag name).firstWord? = some word ↔ name.firstWord ≠ [] ∧ name.firstWord = word := by
  rw [firstWord?]
  split <;> simp_all

theorem firstWord?_ne_nil {m : Mention} {word : List Char} (h : m.firstWord? = some word) :
    word ≠ [] := by
  cases m with
  | link => cases h
  | tag name =>
    obtain ⟨hne, rfl⟩ := firstWord?_eq_some_iff.mp h
    exact hne

/-- What is found in the list: the names, then the first words of the tags. -/
theorem foldl_addName_writtenAll (mentions : List Mention) :
    ((mentions.map fun m => lower (trim m.name.chars)) ++
        (mentions.filterMap firstWord?).map lower).foldl addName [] =
      (mentions.map (·.name.key) ++ mentions.filterMap fragment?).eraseDups := by
  have hne : ∀ name ∈ (mentions.map fun m => lower (trim m.name.chars)) ++
      (mentions.filterMap firstWord?).map lower, name ≠ [] := by
    intro name hname
    obtain hname | hname := List.mem_append.mp hname
    · obtain ⟨m, -, rfl⟩ := List.mem_map.mp hname
      exact m.name.lower_trim_ne_nil
    · obtain ⟨word, hword, rfl⟩ := List.mem_map.mp hname
      obtain ⟨m, -, hm⟩ := List.mem_filterMap.mp hword
      exact fun hnil => firstWord?_ne_nil hm (lower_eq_nil_iff.mp hnil)
  rw [foldl_addName hne, List.map_append, List.map_map, List.map_map, List.map_filterMap]
  rfl

/-- The references are the names and then the first words, each where it occurs first. -/
theorem refs_ofText (mentions : List Mention) :
    (ofText (String.ofList (writtenAll mentions))).refs =
      (mentions.map (·.name.key) ++ mentions.filterMap fragment?).eraseDups := by
  have hrefs : (ofText (String.ofList (writtenAll mentions))).refs =
      refsIn (writtenAll mentions) := by
    rw [ofText, String.toList_ofList, trim_writtenAll]
  have hnames : (((linksIn (writtenAll mentions).length (writtenAll mentions)).map fun link =>
      lower (trim link)) ++ (tagsIn (writtenAll mentions)).map lower).foldl addName [] =
        (mentions.map (·.name.key) ++ mentions.filterMap fragment?).eraseDups := by
    rw [linksIn_writtenAll, tagsIn_writtenAll, List.map_map]
    exact foldl_addName_writtenAll mentions
  rw [hrefs, refsIn, hnames]
  cases mentions with
  | nil => rfl
  | cons m mentions =>
    -- One name was found, so the text is not read as a list of bare names.
    rw [List.map_cons, List.cons_append, List.eraseDups_cons]
    rfl

/-- The first word of a tag is its name when there is no blank in the name. -/
theorem fragment?_of_one_word {name : PageName} (h : (trim name.chars).any isBlank = false) :
    ∀ fragment ∈ (Mention.tag name).fragment?, fragment = name.key := by
  intro fragment hfragment
  obtain ⟨word, hword, rfl⟩ := Option.map_eq_some_iff.mp hfragment
  obtain ⟨hne, rfl⟩ := firstWord?_eq_some_iff.mp hword
  obtain hnil | hwhole := name.firstWord_of_one_word h
  · exact absurd hnil hne
  · rw [hwhole, PageName.key]

/-- **The references of a list of pages** are the names, each where it occurs first, and then the
first words of the tags that are no names. So they are the names and nothing else exactly if each
first word of a tag is a name, as it is when every tag has one word. -/
theorem refs_written (mentions : List Mention) :
    let names := mentions.map (·.name.key)
    let refs := (ofText (String.ofList (writtenAll mentions))).refs
    refs = (names ++ mentions.filterMap fragment?).eraseDups ∧
      (refs = names.eraseDups ↔ ∀ fragment ∈ mentions.filterMap fragment?, fragment ∈ names) ∧
      ((∀ name, .tag name ∈ mentions → (trim name.chars).any isBlank = false) →
        refs = names.eraseDups) := by
  intro names refs
  have hrefs : refs = (names ++ mentions.filterMap fragment?).eraseDups := refs_ofText mentions
  have hiff : refs = names.eraseDups ↔
      ∀ fragment ∈ mentions.filterMap fragment?, fragment ∈ names := by
    rw [hrefs, eraseDups_append_eq_iff]
  refine ⟨hrefs, hiff, fun honeWord => hiff.mpr fun fragment hfragment => ?_⟩
  obtain ⟨m, hm, hmem⟩ := List.mem_filterMap.mp hfragment
  cases m with
  | link name => cases hmem
  | tag name =>
    rw [fragment?_of_one_word (honeWord name hm) fragment hmem]
    exact List.mem_map.mpr ⟨_, hm, rfl⟩

/-- The links may have several words. -/
theorem refs_written_links :
    (ofText "#[[Ideas]], [[Reading List]], [[ ideas ]]").refs = ["ideas", "reading list"] := by
  let ideas : PageName := ⟨"Ideas".toList, by decide, by decide⟩
  let readingList : PageName := ⟨"Reading List".toList, by decide, by decide⟩
  let padded : PageName := ⟨" ideas ".toList, by decide, by decide⟩
  have honeWord : ∀ name, Mention.tag name ∈ [.tag ideas, .link readingList, .link padded] →
      (trim name.chars).any isBlank = false := by
    intro name hname
    have hideas : name = ideas := by simpa using hname
    rw [hideas]
    decide
  exact (refs_written [.tag ideas, .link readingList, .link padded]).2.2 honeWord

/-- The tag `#[[a b]]` refers to the page `a` as well. -/
theorem not_refs_written_tag :
    ¬ ∀ mentions : List Mention, (ofText (String.ofList (writtenAll mentions))).refs =
      (mentions.map (·.name.key)).eraseDups := by
  intro h
  have htag := h [.tag ⟨"a b".toList, by decide, by decide⟩]
  exact absurd htag (by decide)

end Mention

end Stencil
