import Stencil.Arguments
import Stencil.Proofs.Decimal.Numeral
import Stencil.Proofs.Text.Trim

/-!
# Writing arguments

Any text can be given as an argument, at a position or under a name: it is written between double
quotes with nothing in it changed, behind a colon, the name and a blank if it has a name. The quotes
at the ends keep the text from being trimmed, from being a placeholder and from naming an argument,
and only they are taken off, so the text may hold quotes itself.

* `ArgumentName`: the names of arguments; `exists_argumentName_of_readArgument`: there are no
  others.
* `GivenArgument.written` and `GivenArgument.entry`: how an argument is written, and what it stands
  for. A name with an empty text is switched off.
* `readArgument_written`: one argument is read back.
* `entries_ofRaw_written`: all arguments of an invocation are, in their order.
-/

namespace Stencil

open Text

/-! ## Names -/

/-- A name that an argument can have. -/
structure ArgumentName where
  value : String
  ne_empty : value ≠ ""
  isArgumentChar : ∀ c ∈ value.toList, isArgumentChar c = true

/-- A name is cut off up to the blank behind it. -/
theorem cutName?_name (name : ArgumentName) {c : Char} (hc : isBlank c = true) (rest : List Char) :
    cutName? (':' :: (name.value.toList ++ c :: rest)) =
      some (name.value.toList, trim (c :: rest)) := by
  have hend : isArgumentChar c = false := by
    unfold isArgumentChar
    rw [isWordChar_of_isBlank hc, Bool.false_or, Bool.or_eq_false_iff]
    constructor
    · exact decide_eq_false fun heq => absurd hc (by rw [heq]; decide)
    · exact decide_eq_false fun heq => absurd hc (by rw [heq]; decide)
  obtain ⟨htake, hdrop⟩ := Decimal.scan_append name.isArgumentChar (c :: rest)
    fun d hd => Option.some.inj hd ▸ hend
  have hne : name.value.toList.isEmpty = false :=
    List.isEmpty_eq_false_iff.mpr fun hnil => name.ne_empty (String.toList_eq_nil_iff.mp hnil)
  unfold cutName?
  simp only [htake, hdrop, hne, hc, if_true]

theorem exists_argumentName_of_cutName? {cs name rest : List Char}
    (h : cutName? cs = some (name, rest)) : ∃ n : ArgumentName, n.value = String.ofList name := by
  unfold cutName? at h
  split at h
  · next body =>
    have hall : ∀ c ∈ body.takeWhile isArgumentChar, isArgumentChar c = true :=
      List.all_eq_true.mp List.all_takeWhile
    have hname : (body.takeWhile isArgumentChar).isEmpty = false ∧
        body.takeWhile isArgumentChar = name := by
      dsimp only at h
      split at h
      · exact nomatch h
      · next hempty _ => exact ⟨hempty, (Prod.mk.inj (Option.some.inj h)).1⟩
      · next hempty _ =>
        split at h
        · exact ⟨hempty, (Prod.mk.inj (Option.some.inj h)).1⟩
        · exact nomatch h
    obtain ⟨hempty, rfl⟩ := hname
    refine ⟨⟨String.ofList (body.takeWhile isArgumentChar), fun hnil => ?_, ?_⟩, rfl⟩
    · rw [String.ofList_eq_empty_iff] at hnil
      exact absurd hnil (List.isEmpty_eq_false_iff.mp hempty)
    · rw [String.toList_ofList]
      exact hall
  · exact nomatch h

/-- Whatever an argument looks like, the name that is read from it is one of these. -/
theorem exists_argumentName_of_readArgument {raw name : String}
    (h : (readArgument raw).1 = some name) : ∃ n : ArgumentName, n.value = name := by
  unfold readArgument at h
  dsimp only at h
  split at h
  · next hcut => exact Option.some.inj h ▸ exists_argumentName_of_cutName? hcut
  · exact nomatch h

/-! ## Arguments -/

/-- An argument that someone wants to give. -/
inductive GivenArgument where
  | positional (text : String)
  | named (name : ArgumentName) (text : String)

namespace GivenArgument

/-- The argument as it is written. -/
def written : GivenArgument → String
  | .positional text => "\"" ++ text ++ "\""
  | .named name text => ":" ++ name.value ++ " \"" ++ text ++ "\""

/-- The name and the value that the argument stands for. -/
def entry : GivenArgument → Option String × Argument
  | .positional text => (none, .text text)
  | .named name text => (some name.value, if text = "" then .flag false else .text text)

end GivenArgument

/-- A text between two quotes has no blank at its ends. -/
theorem trim_quoted (cs : List Char) : trim ('"' :: (cs ++ ['"'])) = '"' :: (cs ++ ['"']) :=
  trim_of_ends (by decide) (by decide) cs

/-- The quotes are the outermost ones, whatever stands between them. -/
theorem unquote_quoted (cs : List Char) : unquote ('"' :: (cs ++ ['"'])) = cs := by
  unfold unquote
  rw [trim_quoted]
  simp

theorem namedValue_quoted (text : String) :
    namedValue ('"' :: (text.toList ++ ['"'])) =
      if text = "" then .flag false else .text text := by
  unfold namedValue
  rw [unquote_quoted]
  by_cases h : text = ""
  · simp [h]
  · have hne : text.toList ≠ [] := fun hnil => h (String.toList_eq_nil_iff.mp hnil)
    simp [h, hne]

/-- An argument is read back as what it stands for. -/
theorem readArgument_written (given : GivenArgument) :
    readArgument given.written = given.entry := by
  cases given with
  | positional text =>
    have hchars : ("\"" ++ text ++ "\"").toList = '"' :: (text.toList ++ ['"']) := by simp
    have hfill : fillPlaceholder ('"' :: (text.toList ++ ['"'])) =
        '"' :: (text.toList ++ ['"']) := rfl
    have hname : cutName? ('"' :: (text.toList ++ ['"'])) = none := rfl
    simp only [readArgument, GivenArgument.written, GivenArgument.entry, hchars, trim_quoted,
      hfill, hname, unquote_quoted, String.ofList_toList]
  | named name text =>
    have hchars : (":" ++ name.value ++ " \"" ++ text ++ "\"").toList =
        ':' :: (name.value.toList ++ ' ' :: ('"' :: (text.toList ++ ['"']))) := by simp
    have htrim : trim (':' :: (name.value.toList ++ ' ' :: ('"' :: (text.toList ++ ['"'])))) =
        ':' :: (name.value.toList ++ ' ' :: ('"' :: (text.toList ++ ['"']))) := by
      have hends := trim_of_ends (c := ':') (d := '"') (by decide) (by decide)
        (name.value.toList ++ ' ' :: ('"' :: text.toList))
      simpa using hends
    have hfill : fillPlaceholder
        (':' :: (name.value.toList ++ ' ' :: ('"' :: (text.toList ++ ['"'])))) =
          ':' :: (name.value.toList ++ ' ' :: ('"' :: (text.toList ++ ['"']))) := rfl
    have hrest : trim (' ' :: ('"' :: (text.toList ++ ['"']))) = '"' :: (text.toList ++ ['"']) := by
      have hstart : trimStart (' ' :: ('"' :: (text.toList ++ ['"']))) =
          trimStart ('"' :: (text.toList ++ ['"'])) := rfl
      rw [trim, hstart, ← trim, trim_quoted]
    simp only [readArgument, GivenArgument.written, GivenArgument.entry, hchars, htrim, hfill,
      cutName?_name name (show isBlank ' ' = true by decide), hrest, namedValue_quoted,
      String.ofList_toList]

/-! ## Invocations -/

namespace Arguments

theorem entries_foldl_add (entries : List (Option String × Argument)) (a : Arguments) :
    (entries.foldl add a).entries = a.entries ++ entries := by
  induction entries generalizing a with
  | nil => simp
  | cons entry entries ih =>
    rw [List.foldl_cons, ih]
    simp [add]

/-- The entries are the arguments, each read on its own. -/
theorem entries_ofRaw (raw : List String) : (ofRaw raw).entries = raw.map readArgument :=
  (entries_foldl_add (raw.map readArgument) empty).trans (List.nil_append _)

/-- **Arguments are read back as they were given.** However many there are, positional and named,
and whatever their texts hold, the entries that are read have the same order, names and values. No
argument is ever read with a name that could not be given in this way. -/
theorem entries_ofRaw_written :
    (∀ given : List GivenArgument,
      (ofRaw (given.map GivenArgument.written)).entries = given.map GivenArgument.entry) ∧
    ∀ raw, ∀ entry ∈ (ofRaw raw).entries, ∀ name ∈ entry.1,
      ∃ n : ArgumentName, n.value = name := by
  constructor
  · intro given
    rw [entries_ofRaw, List.map_map]
    exact List.map_congr_left fun argument _ => readArgument_written argument
  · intro raw entry hentry name hname
    rw [entries_ofRaw] at hentry
    obtain ⟨text, -, rfl⟩ := List.mem_map.mp hentry
    exact exists_argumentName_of_readArgument hname

/-- Texts that would not survive on their own: a placeholder, and one with quotes and blanks at its
ends. -/
example : (ofRaw (List.map GivenArgument.written
      [.positional "$1", .positional " 'x\" "])).entries =
    [(none, .text "$1"), (none, .text " 'x\" ")] := by cbv

end Arguments

end Stencil
