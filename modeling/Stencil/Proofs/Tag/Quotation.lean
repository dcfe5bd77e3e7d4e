import Stencil.Proofs.Script.Braced
import Stencil.Proofs.Tag.Bytes

/-!
# Quoted texts in characters and in bytes

The lexer reads a quoted text character by character. The search for a closing marker only has to
get over it, and can do so in the bytes of the source: behind a backslash it jumps over one byte,
which is the first of several when the protected character is not an ASCII character.

* `quoteEnd?` is the search in bytes, from an offset of the source on; `quoteEnd?_eq`: it ends where
  `skipNested` does.
* `lineFeed_mem_of_scanText?_eq_none`: the lexer gives up a quoted text that has an end only at a
  line feed.
* `quoted_texts_end_alike`: behind a quote, lexer and search find the same end.
-/

namespace Stencil

open Script

open Text

/-! ## The search in bytes -/

/-- The offset behind the closing mark of a quoted text, looked for in bytes from an offset on. A
backslash protects the byte behind it. -/
def quoteEnd? (mark : UInt8) (bytes : List UInt8) (offset : Nat) : Option Nat :=
  if h : offset < bytes.length then
    if bytes[offset] = '\\'.toUInt8 then quoteEnd? mark bytes (offset + 2)
    else if bytes[offset] = mark then some (offset + 1)
    else quoteEnd? mark bytes (offset + 1)
  else none
termination_by bytes.length - offset

/-- The search is the scan of the bytes from its offset on. -/
theorem quoteEnd?_eq_skipQuoted (mark : UInt8) (bytes : List UInt8) (offset : Nat) :
    quoteEnd? mark bytes offset =
      (skipQuoted mark (bytes.drop offset)).map fun rest => bytes.length - rest.length := by
  fun_induction quoteEnd? mark bytes offset with
  | case1 offset hlt hslash ih =>
    rw [List.drop_eq_getElem_cons hlt, skipQuoted, if_pos hslash, List.tail_drop]
    exact ih
  | case2 offset hlt hslash hmark =>
    rw [List.drop_eq_getElem_cons hlt, skipQuoted, if_neg hslash, if_pos hmark, Option.map_some,
      List.length_drop]
    congr 1
    omega
  | case3 offset hlt hslash hmark ih =>
    rw [List.drop_eq_getElem_cons hlt, skipQuoted, if_neg hslash, if_neg hmark]
    exact ih
  | case4 offset hlt => rw [List.drop_of_length_le (Nat.le_of_not_lt hlt), skipQuoted]; rfl

variable {mark : Char} {cs rest : List Char}

/-- The search in bytes ends where the search in characters does. -/
theorem quoteEnd?_eq (hmark : mark.utf8Size = 1) (hslash : mark ≠ '\\') (before cs : List Char) :
    quoteEnd? mark.toUInt8 (utf8 (before ++ cs)) (byteLength before) =
      (skipNested [.quoted mark] cs).map fun rest =>
        byteLength (before ++ cs) - byteLength rest := by
  have hdrop : (utf8 (before ++ cs)).drop (byteLength before) = utf8 cs := by
    rw [utf8_append, ← length_utf8, List.drop_left]
  rw [quoteEnd?_eq_skipQuoted, hdrop, skipQuoted_utf8 hmark hslash, Option.map_map]
  simp only [Function.comp_def, length_utf8]

/-! ## The lexer and the search -/

/-- The lexer gives up a quoted text that has an end only at a line feed. -/
theorem lineFeed_mem_of_scanText?_eq_none (h : skipNested [.quoted mark] cs = some rest)
    (hscan : scanText? mark cs = none) : ∃ passed, cs = passed ++ rest ∧ '\n' ∈ passed := by
  fun_induction scanText? mark cs with
  | case1 => cases h
  | case2 c cs ih =>
    obtain ⟨passed, rfl, hmem⟩ := ih h (Option.map_eq_none_iff.mp hscan)
    exact ⟨'\\' :: c :: passed, rfl, List.mem_cons_of_mem _ (List.mem_cons_of_mem _ hmem)⟩
  | case3 => cases h
  | case4 => cases hscan
  | case5 cs hescape hslash hne =>
    rw [skipNested_quoted (by decide), if_neg hne] at h
    obtain ⟨passed, rfl⟩ := skipNested_suffix h
    exact ⟨'\n' :: passed, rfl, List.mem_cons_self⟩
  | case6 c cs hescape hslash hne _ ih =>
    rw [skipNested_quoted (ne_backslash hescape hslash), if_neg hne] at h
    obtain ⟨passed, rfl, hmem⟩ := ih h (Option.map_eq_none_iff.mp hscan)
    exact ⟨c :: passed, rfl, List.mem_cons_of_mem _ hmem⟩

/-- Behind a quote, the search in bytes ends where the search in characters does. -/
theorem quoteEnd?_behind (hmark : mark.utf8Size = 1) (hslash : mark ≠ '\\')
    (before after : List Char) :
    quoteEnd? mark.toUInt8 (utf8 (before ++ mark :: after)) (byteLength before + 1) =
      (skipNested [.quoted mark] after).map fun rest =>
        byteLength (before ++ mark :: after) - byteLength rest := by
  have hstart : byteLength before + 1 = byteLength (before ++ [mark]) := by
    rw [byteLength_append, byteLength_cons, hmark, byteLength_nil]
  rw [List.append_cons before mark after, hstart]
  exact quoteEnd?_eq hmark hslash (before ++ [mark]) after

/-- What the search passes over, the quote included, stands between two offsets. -/
theorem byteLength_passed (before passed rest : List Char) :
    byteLength (before ++ mark :: (passed ++ rest)) - byteLength rest =
      byteLength before + byteLength (mark :: passed) := by
  simp only [byteLength_append, byteLength_cons]
  omega

theorem skipNested_eq_some_of_scanText? {text : List Char} (hslash : mark ≠ '\\')
    (h : scanText? mark cs = some (text, rest)) : skipNested [.quoted mark] cs = some rest := by
  have hskip : skipNested [.quoted mark] (cs ++ []) = skipNested [] (rest ++ []) :=
    skipNested_text hslash h
  rwa [List.append_nil, List.append_nil, skipNested_nil] at hskip

/-- At an offset of a source that holds the byte of a quote, the search for a closing marker goes
over its bytes to where it goes over its characters. When the lexer reads a quoted text there, the
search ends at the end of it. The search only ends between two characters, and it goes over a line
feed when the lexer finds no end. -/
theorem quoted_texts_end_alike {source : List Char} {start : Nat}
    (hquote : mark = '"' ∨ mark = '\'') (hat : (utf8 source)[start]? = some mark.toUInt8) :
    (Shield.text mark).after? (dropBytes source start) =
        (quoteEnd? mark.toUInt8 (utf8 source) (start + 1)).map (dropBytes source) ∧
      (∀ text rest, scanText? mark (dropBytes source (start + 1)) = some (text, rest) →
        quoteEnd? mark.toUInt8 (utf8 source) (start + 1) =
          some (byteLength source - byteLength rest)) ∧
      ∀ stop, quoteEnd? mark.toUInt8 (utf8 source) (start + 1) = some stop →
        IsBoundary source stop ∧
          (scanText? mark (dropBytes source (start + 1)) = none →
            '\n' ∈ slice source start stop) := by
  have hmark : mark.utf8Size = 1 := by rcases hquote with rfl | rfl <;> decide
  have hslash : mark ≠ '\\' := by rcases hquote with rfl | rfl <;> decide
  obtain ⟨before, after, rfl, rfl⟩ := eq_append_of_utf8_getElem? hmark hat
  have hfront : dropBytes (before ++ mark :: after) (byteLength before) = mark :: after :=
    dropBytes_byteLength_append before (mark :: after)
  have hdrop : dropBytes (before ++ mark :: after) (byteLength before + 1) = after := by
    have hstart := dropBytes_byteLength_append (before ++ [mark]) after
    rwa [byteLength_append, byteLength_cons, hmark, byteLength_nil, ← List.append_cons] at hstart
  rw [hfront, hdrop, quoteEnd?_behind hmark hslash]
  refine ⟨?_, ?_, ?_⟩
  · show skipNested [.quoted mark] after = _
    cases hskip : skipNested [.quoted mark] after with
    | none => rfl
    | some rest =>
      have hsuffix : rest <:+ before ++ mark :: after :=
        ((skipNested_suffix hskip).trans (List.suffix_cons mark after)).trans
          (List.suffix_append before _)
      rw [Option.map_some, Option.map_some, dropBytes_of_suffix hsuffix]
  · intro text rest htext
    rw [skipNested_eq_some_of_scanText? hslash htext, Option.map_some]
  · intro stop hstop
    obtain ⟨rest, hskip, rfl⟩ := Option.map_eq_some_iff.mp hstop
    obtain ⟨passed, rfl⟩ := skipNested_suffix hskip
    rw [byteLength_passed]
    refine ⟨⟨before ++ mark :: passed, rest, ?_, (byteLength_append before _).symm⟩, ?_⟩
    · rw [List.append_assoc, List.cons_append]
    · intro hnone
      obtain ⟨passed', heq, hmem⟩ := lineFeed_mem_of_scanText?_eq_none hskip hnone
      obtain rfl := List.append_cancel_right heq
      have hslice := slice_append before (mark :: passed) rest
      rw [List.cons_append] at hslice
      rw [hslice]
      exact List.mem_cons_of_mem mark hmem

/-- The jump behind the backslash ends in the middle of the accented letter. The quoted text with
the line feed ends for the search only. -/
theorem quoted_texts_end_alike_accent :
    (utf8 ['x', '"', '\\', 'é', '"', 'y'])[1]? = some '"'.toUInt8 ∧
      quoteEnd? '"'.toUInt8 (utf8 ['x', '"', '\\', 'é', '"', 'y']) 2 = some 6 ∧
      (utf8 ['\'', '\n', '\'', 'y'])[0]? = some '\''.toUInt8 ∧
      scanText? '\'' ['\n', '\'', 'y'] = none ∧
      ∃ stop, quoteEnd? '\''.toUInt8 (utf8 ['\'', '\n', '\'', 'y']) 1 = some stop ∧
        dropBytes ['\'', '\n', '\'', 'y'] stop = ['y'] ∧
        '\n' ∈ slice ['\'', '\n', '\'', 'y'] 0 stop := by
  have haccent : (utf8 ['x', '"', '\\', 'é', '"', 'y'])[1]? = some '"'.toUInt8 := by decide
  have hfeed : (utf8 ['\'', '\n', '\'', 'y'])[0]? = some '\''.toUInt8 := by decide
  obtain ⟨-, hends, -⟩ := quoted_texts_end_alike (Or.inl rfl) haccent
  obtain ⟨hsearch, -, hfails⟩ := quoted_texts_end_alike (Or.inr rfl) hfeed
  obtain ⟨stop, hstop, hrest⟩ := Option.map_eq_some_iff.mp
    (hsearch.symm.trans (show _ = some ['y'] by decide))
  exact ⟨haccent, hends ['é'] ['y'] (by decide), hfeed, by decide, stop, hstop, hrest,
    (hfails stop hstop).2 (by decide)⟩

end Stencil
