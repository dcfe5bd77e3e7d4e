import Stencil.Proofs.Tag.Agreement
import Stencil.Proofs.Tag.Partition

/-!
# The search for a closing marker in bytes

The search for a closing marker goes over the bytes of a source. It enters quoted texts, template
literals and comments through one byte and leaves them through another, and jumps over the byte
behind a backslash, which is the first of several when the protected character is not an ASCII
character. It is the same search as the one over characters, because the byte of an ASCII character
stands for that character only and no marker starts in the middle of a character.

* `Text.utf8` are the bytes of a text. `mem_utf8EncodeChar_iff` and `utf8_prefix_iff`: what can be
  told from them.
* `skipQuoted`, `skipTemplate`, `skipHole` and `skipComment` are the bytes behind a construct. Their
  agreement with `skipNested` and `cutAt?` goes character by character: `PassesHigh` takes a scan
  over the characters of several bytes.
* `closeOf` is the offset of the closing marker; `closeOf_utf8`: `bodyOf` finds the same marker, or
  is at fault in the same way and at the same place.
-/

namespace Stencil

open Script

/-! ## Bytes -/

namespace Text

variable {mark c : Char} {cs : List Char} {start : Nat}

/-- The bytes of a text. -/
def utf8 (text : List Char) : List UInt8 := (String.ofList text).toUTF8.data.toList

theorem utf8_eq_flatMap (text : List Char) : utf8 text = text.flatMap String.utf8EncodeChar := by
  rw [utf8, String.toUTF8_eq_toByteArray, String.toByteArray_ofList, List.utf8Encode,
    List.toList_data_toByteArray]

@[simp]
theorem utf8_nil : utf8 [] = [] := by rw [utf8_eq_flatMap, List.flatMap_nil]

@[simp]
theorem utf8_append (cs ds : List Char) : utf8 (cs ++ ds) = utf8 cs ++ utf8 ds := by
  simp only [utf8_eq_flatMap, List.flatMap_append]

@[simp]
theorem utf8_cons (c : Char) (cs : List Char) :
    utf8 (c :: cs) = String.utf8EncodeChar c ++ utf8 cs := by
  simp only [utf8_eq_flatMap, List.flatMap_cons]

theorem utf8_ne_nil (c : Char) (cs : List Char) : utf8 (c :: cs) ≠ [] := by
  rw [utf8_cons]
  exact List.append_ne_nil_of_left_ne_nil String.utf8EncodeChar_ne_nil _

@[simp]
theorem length_utf8 (text : List Char) : (utf8 text).length = byteLength text := by
  induction text with
  | nil => rfl
  | cons c cs ih =>
    rw [utf8_cons, List.length_append, String.length_utf8EncodeChar, ih, byteLength_cons]

theorem utf8EncodeChar_of_ascii (h : c.utf8Size = 1) : String.utf8EncodeChar c = [c.toUInt8] :=
  String.utf8EncodeChar_eq_singleton h

theorem toNat_toUInt8 (h : c.utf8Size = 1) : c.toUInt8.toNat = c.toNat ∧ c.toNat < 128 := by
  have hlow : c.toNat ≤ 127 := UInt32.le_iff_toNat_le.mp (Char.utf8Size_eq_one_iff.mp h)
  have hmod : c.toUInt8.toNat = c.toNat % 256 := UInt32.toNat_toUInt8 c.val
  omega

/-- The bytes of a character that takes several of them are above the ASCII range. -/
theorem high_of_mem_utf8EncodeChar (h : c.utf8Size ≠ 1) :
    ∀ b ∈ String.utf8EncodeChar c, 128 ≤ b.toNat := by
  have hhigh : ¬ c.val.toNat ≤ 127 := fun hle =>
    h (Char.utf8Size_eq_one_iff.mpr (UInt32.le_iff_toNat_le.mpr hle))
  intro b hb
  simp only [String.utf8EncodeChar, if_neg hhigh] at hb
  split_ifs at hb <;> simp only [List.mem_cons, List.not_mem_nil, or_false] at hb
  · rcases hb with rfl | rfl <;> rw [UInt8.toNat_ofNat'] <;> omega
  · rcases hb with rfl | rfl | rfl <;> rw [UInt8.toNat_ofNat'] <;> omega
  · rcases hb with rfl | rfl | rfl | rfl <;> rw [UInt8.toNat_ofNat'] <;> omega

/-- The byte of an ASCII character stands for that character only. -/
theorem mem_utf8EncodeChar_iff (hmark : mark.utf8Size = 1) :
    mark.toUInt8 ∈ String.utf8EncodeChar c ↔ c = mark := by
  obtain ⟨hbyte, hlow⟩ := toNat_toUInt8 hmark
  constructor
  · intro hmem
    by_cases hc : c.utf8Size = 1
    · rw [utf8EncodeChar_of_ascii hc, List.mem_singleton] at hmem
      apply Char.toNat_inj.mp
      rw [← (toNat_toUInt8 hc).1, ← hmem, hbyte]
    · have := high_of_mem_utf8EncodeChar hc _ hmem
      omega
  · rintro rfl
    rw [utf8EncodeChar_of_ascii hmark]
    exact List.mem_singleton_self _

/-- Where the byte of an ASCII character is found, that character stands. -/
theorem eq_append_of_utf8_getElem? (hmark : mark.utf8Size = 1)
    (h : (utf8 cs)[start]? = some mark.toUInt8) :
    ∃ before after, cs = before ++ mark :: after ∧ start = byteLength before := by
  induction cs generalizing start with
  | nil => cases h
  | cons c cs ih =>
    rw [utf8_cons] at h
    by_cases hin : start < (String.utf8EncodeChar c).length
    · rw [List.getElem?_append_left hin] at h
      obtain rfl : c = mark := (mem_utf8EncodeChar_iff hmark).mp (List.mem_of_getElem? h)
      rw [String.length_utf8EncodeChar, hmark] at hin
      exact ⟨[], cs, rfl, Nat.lt_one_iff.mp hin⟩
    · rw [List.getElem?_append_right (Nat.le_of_not_lt hin), String.length_utf8EncodeChar] at h
      rw [String.length_utf8EncodeChar] at hin
      obtain ⟨before, after, rfl, hstart⟩ := ih h
      refine ⟨c :: before, after, rfl, ?_⟩
      rw [byteLength_cons]
      omega

/-- Characters of one byte are told apart by it. -/
theorem toUInt8_eq_iff {d : Char} (hc : c.utf8Size = 1) (hd : d.utf8Size = 1) :
    c.toUInt8 = d.toUInt8 ↔ c = d := by
  rw [← mem_utf8EncodeChar_iff hd, utf8EncodeChar_of_ascii hc, List.mem_singleton, eq_comm]

/-- Only the first byte of a character can be the first of a text. -/
theorem not_isUTF8FirstByte_of_mem_tail {b : UInt8} (h : b ∈ (String.utf8EncodeChar c).tail) :
    ¬ b.IsUTF8FirstByte := by
  obtain ⟨i, hi, rfl⟩ := List.mem_iff_getElem.mp h
  rw [List.getElem_tail, UInt8.isUTF8FirstByte_getElem_utf8EncodeChar]
  exact Nat.succ_ne_zero i

/-- The bytes of a character behind the first are above the ASCII range. -/
theorem high_of_mem_tail {b : UInt8} (h : b ∈ (String.utf8EncodeChar c).tail) : 128 ≤ b.toNat := by
  by_cases hc : c.utf8Size = 1
  · rw [utf8EncodeChar_of_ascii hc] at h
    cases h
  · exact high_of_mem_utf8EncodeChar hc b (List.mem_of_mem_tail h)

theorem utf8_prefix_iff {ds : List Char} : utf8 ds <+: utf8 cs ↔ ds <+: cs := by
  constructor
  · rintro ⟨rest, heq⟩
    apply List.isPrefix_of_utf8Encode_append_eq_utf8Encode rest.toByteArray
    rw [List.utf8Encode, List.utf8Encode, ← utf8_eq_flatMap, ← utf8_eq_flatMap, ← heq,
      List.toByteArray_append]
  · rintro ⟨rest, rfl⟩
    rw [utf8_append]
    exact List.prefix_append _ _

/-- No text starts in the middle of a character. -/
theorem not_utf8_isPrefix_cons {ds : List Char} {b : UInt8} {bytes : List UInt8} (hds : ds ≠ [])
    (hb : ¬ b.IsUTF8FirstByte) : ¬ utf8 ds <+: b :: bytes := by
  obtain ⟨d, ds, rfl⟩ := List.exists_cons_of_ne_nil hds
  rintro ⟨rest, heq⟩
  apply hb
  have hzero := @UInt8.isUTF8FirstByte_getElem_zero_utf8EncodeChar d
  cases hbytes : String.utf8EncodeChar d with
  | nil => exact absurd hbytes String.utf8EncodeChar_ne_nil
  | cons a tail =>
    rw [utf8_cons, hbytes] at heq
    simp only [hbytes, List.getElem_cons_zero] at hzero
    rwa [(List.cons.inj heq).1] at hzero

theorem head?_utf8_eq_iff {d : Char} (hd : d.utf8Size = 1) :
    (utf8 cs).head? = some d.toUInt8 ↔ cs.head? = some d := by
  cases cs with
  | nil => exact ⟨nofun, nofun⟩
  | cons c cs =>
    rw [utf8_cons, List.head?_cons, Option.some_inj]
    constructor
    · intro hhead
      apply (mem_utf8EncodeChar_iff hd).mp
      rw [List.head?_append_of_ne_nil _ String.utf8EncodeChar_ne_nil] at hhead
      exact List.mem_of_head? hhead
    · rintro rfl
      rw [utf8EncodeChar_of_ascii hd]
      rfl

end Text

open Text

/-! ## Scans -/

/-- The bytes behind the closing mark of a quoted text. A backslash protects the byte behind it. -/
def skipQuoted (mark : UInt8) : List UInt8 → Option (List UInt8)
  | [] => none
  | b :: bytes =>
    if b = '\\'.toUInt8 then skipQuoted mark bytes.tail
    else if b = mark then some bytes
    else skipQuoted mark bytes
termination_by bytes => bytes.length
decreasing_by
  · simp only [List.length_tail, List.length_cons]
    omega
  · exact Nat.lt_succ_self _

mutual

/-- The bytes behind the closing mark of a template literal. -/
def skipTemplate : List UInt8 → Option (List UInt8)
  | [] => none
  | b :: bytes =>
    if b = '\\'.toUInt8 then skipTemplate bytes.tail
    else if b = '`'.toUInt8 then some bytes
    else if b = '$'.toUInt8 ∧ bytes.head? = some '\x7b'.toUInt8 then
      (skipHole 1 bytes.tail).bind fun rest =>
        if rest.length ≤ bytes.length then skipTemplate rest else none
    else skipTemplate bytes
termination_by bytes => bytes.length
decreasing_by
  · simp only [List.length_tail, List.length_cons]
    omega
  · simp only [List.length_tail, List.length_cons]
    omega
  · simp only [List.length_cons]
    omega
  · exact Nat.lt_succ_self _

/-- The bytes behind the brace that closes a hole in which `braces` braces are open, its own
included. -/
def skipHole (braces : Nat) : List UInt8 → Option (List UInt8)
  | [] => none
  | b :: bytes =>
    if b = '"'.toUInt8 ∨ b = '\''.toUInt8 then
      (skipQuoted b bytes).bind fun rest =>
        if rest.length ≤ bytes.length then skipHole braces rest else none
    else if b = '`'.toUInt8 then
      (skipTemplate bytes).bind fun rest =>
        if rest.length ≤ bytes.length then skipHole braces rest else none
    else if b = '\x7b'.toUInt8 then skipHole (braces + 1) bytes
    else if b = '\x7d'.toUInt8 then
      if braces ≤ 1 then some bytes else skipHole (braces - 1) bytes
    else skipHole braces bytes
termination_by bytes => bytes.length
decreasing_by
  · simp only [List.length_cons]
    omega
  · exact Nat.lt_succ_self _
  · simp only [List.length_cons]
    omega
  · exact Nat.lt_succ_self _
  · exact Nat.lt_succ_self _
  · exact Nat.lt_succ_self _

end

/-- The bytes behind the end of a block comment. -/
def skipComment : List UInt8 → Option (List UInt8)
  | b :: c :: bytes =>
    if b = '*'.toUInt8 ∧ c = '/'.toUInt8 then some bytes else skipComment (c :: bytes)
  | _ => none

/-! ## A character a step -/

/-- A scan that does nothing at a byte above the ASCII range. -/
def PassesHigh {α : Type} (scan : List UInt8 → α) : Prop :=
  ∀ (b : UInt8) (bytes : List UInt8), 128 ≤ b.toNat → scan (b :: bytes) = scan bytes

section Scans

variable {α : Type} {scan : List UInt8 → α} {mark c : Char} {cs : List Char}

theorem PassesHigh.append (h : PassesHigh scan) {front : List UInt8}
    (hfront : ∀ b ∈ front, 128 ≤ b.toNat) (rest : List UInt8) :
    scan (front ++ rest) = scan rest := by
  induction front with
  | nil => rfl
  | cons b front ih =>
    rw [List.forall_mem_cons] at hfront
    rw [List.cons_append, h b _ hfront.1, ih hfront.2]

/-- A scan that is taken into a character goes on behind it. -/
theorem PassesHigh.tail (h : PassesHigh scan) (cs : List Char) :
    scan (utf8 cs).tail = scan (utf8 cs.tail) := by
  cases cs with
  | nil => rfl
  | cons c cs =>
    rw [utf8_cons, List.tail_append_of_ne_nil String.utf8EncodeChar_ne_nil, List.tail_cons]
    exact h.append (fun b hb => high_of_mem_tail hb) _

/-- A scan goes over a character of several bytes. -/
theorem PassesHigh.cons (h : PassesHigh scan) (hc : c.utf8Size ≠ 1) (cs : List Char) :
    scan (utf8 (c :: cs)) = scan (utf8 cs) := by
  rw [utf8_cons]
  exact h.append (high_of_mem_utf8EncodeChar hc) _

theorem utf8_cons_of_ascii (hc : c.utf8Size = 1) (cs : List Char) :
    utf8 (c :: cs) = c.toUInt8 :: utf8 cs := by
  rw [utf8_cons, utf8EncodeChar_of_ascii hc]
  rfl

/-- A byte above the ASCII range is not that of an ASCII character. -/
theorem ne_toUInt8_of_high {b : UInt8} (hb : 128 ≤ b.toNat) (hmark : mark.utf8Size = 1) :
    b ≠ mark.toUInt8 := by
  rintro rfl
  have hlow := toNat_toUInt8 hmark
  omega

theorem passesHigh_skipQuoted (hmark : mark.utf8Size = 1) :
    PassesHigh (skipQuoted mark.toUInt8) := by
  intro b bytes hb
  rw [skipQuoted, if_neg (ne_toUInt8_of_high hb (by decide)), if_neg (ne_toUInt8_of_high hb hmark)]

theorem passesHigh_skipTemplate : PassesHigh skipTemplate := by
  intro b bytes hb
  have hne {c : Char} (hc : c.utf8Size = 1) : b ≠ c.toUInt8 := ne_toUInt8_of_high hb hc
  rw [skipTemplate, if_neg (hne (by decide)), if_neg (hne (by decide)),
    if_neg fun h => hne (by decide) h.1]

theorem passesHigh_skipHole (braces : Nat) : PassesHigh (skipHole braces) := by
  intro b bytes hb
  have hne {c : Char} (hc : c.utf8Size = 1) : b ≠ c.toUInt8 := ne_toUInt8_of_high hb hc
  rw [skipHole, if_neg (not_or.mpr ⟨hne (by decide), hne (by decide)⟩), if_neg (hne (by decide)),
    if_neg (hne (by decide)), if_neg (hne (by decide))]

/-! ## Agreement -/

/-- What stands inside is left before what stands around it. -/
theorem skipNested_bind (inner outer : List Nest) (cs : List Char) :
    skipNested (inner ++ outer) cs = (skipNested inner cs).bind (skipNested outer) := by
  fun_induction skipNested inner cs with
  | case1 => rfl
  | case2 | case3 | case6 => rfl
  | case4 | case7 | case8 =>
    rename_i ih
    exact ih
  | case5 mark inner c cs hend hescape ih =>
    rw [List.cons_append, skipNested_quoted (ne_backslash hescape hend), ← ih]
    split <;> rfl
  | case9 inner c cs hend hescape hopen ih =>
    have hhole : ¬ ['$', '\x7b'] <+: c :: cs := by
      rintro ⟨ds, heq⟩
      obtain ⟨hdollar, htail⟩ := List.cons.inj heq
      exact hopen ds hdollar.symm htail.symm
    rw [List.cons_append, skipNested_template (ne_backslash hescape hend) hhole, ← ih]
    split <;> rfl
  | case10 braces inner c cs next ih =>
    rw [List.cons_append, skipNested, ← ih]
    congr 1
    dsimp only [next]
    repeat' split
    all_goals rfl

end Scans

section Agreement

variable {mark c : Char} {cs : List Char} {braces : Nat}

theorem skipQuoted_cons (hc : c.utf8Size = 1) (hmark : mark.utf8Size = 1) (cs : List Char) :
    skipQuoted mark.toUInt8 (utf8 (c :: cs)) =
      if c = '\\' then skipQuoted mark.toUInt8 (utf8 cs).tail
      else if c = mark then some (utf8 cs)
      else skipQuoted mark.toUInt8 (utf8 cs) := by
  rw [utf8_cons_of_ascii hc, skipQuoted]
  simp only [toUInt8_eq_iff hc hmark, toUInt8_eq_iff (d := '\\') hc (by decide)]

/-- **Bytes and characters agree on the end of a quoted text.** -/
theorem skipQuoted_utf8 (hmark : mark.utf8Size = 1) (hslash : mark ≠ '\\') (cs : List Char) :
    skipQuoted mark.toUInt8 (utf8 cs) = (skipNested [.quoted mark] cs).map utf8 := by
  have hpass := passesHigh_skipQuoted hmark
  match cs with
  | [] => rw [skipNested, utf8_nil, skipQuoted, Option.map_none]
  | c :: cs =>
    by_cases hc : c.utf8Size = 1
    · rw [skipQuoted_cons hc hmark]
      split
      · next heq =>
        subst heq
        rw [hpass.tail, skipQuoted_utf8 hmark hslash]
        cases cs <;> rfl
      · next hne =>
        rw [skipNested_quoted hne]
        split
        · rw [skipNested_nil]
          rfl
        · exact skipQuoted_utf8 hmark hslash cs
    · have hne : ∀ {d : Char}, d.utf8Size = 1 → c ≠ d := fun hd heq => hc (heq ▸ hd)
      rw [hpass.cons hc, skipNested_quoted (hne (by decide)), if_neg (hne hmark)]
      exact skipQuoted_utf8 hmark hslash cs
termination_by cs.length
decreasing_by
  · exact Nat.lt_succ_self _
  · exact Nat.lt_succ_of_le (List.tail_sublist cs).length_le
  · exact Nat.lt_succ_self _

theorem skipTemplate_cons (hc : c.utf8Size = 1) (cs : List Char) :
    skipTemplate (utf8 (c :: cs)) =
      if c = '\\' then skipTemplate (utf8 cs).tail
      else if c = '`' then some (utf8 cs)
      else if c = '$' ∧ cs.head? = some '\x7b' then
        (skipHole 1 (utf8 cs).tail).bind fun rest =>
          if rest.length ≤ (utf8 cs).length then skipTemplate rest else none
      else skipTemplate (utf8 cs) := by
  have hbyte {d : Char} (hd : d.utf8Size = 1) : c.toUInt8 = d.toUInt8 ↔ c = d :=
    toUInt8_eq_iff hc hd
  rw [utf8_cons_of_ascii hc, skipTemplate]
  simp only [hbyte (d := '\\') (by decide), hbyte (d := '`') (by decide),
    hbyte (d := '$') (by decide), head?_utf8_eq_iff (d := '\x7b') (by decide)]

theorem skipHole_cons (hc : c.utf8Size = 1) (cs : List Char) :
    skipHole braces (utf8 (c :: cs)) =
      if c = '"' ∨ c = '\'' then
        (skipQuoted c.toUInt8 (utf8 cs)).bind fun rest =>
          if rest.length ≤ (utf8 cs).length then skipHole braces rest else none
      else if c = '`' then
        (skipTemplate (utf8 cs)).bind fun rest =>
          if rest.length ≤ (utf8 cs).length then skipHole braces rest else none
      else if c = '\x7b' then skipHole (braces + 1) (utf8 cs)
      else if c = '\x7d' then
        if braces ≤ 1 then some (utf8 cs) else skipHole (braces - 1) (utf8 cs)
      else skipHole braces (utf8 cs) := by
  have hbyte {d : Char} (hd : d.utf8Size = 1) : c.toUInt8 = d.toUInt8 ↔ c = d :=
    toUInt8_eq_iff hc hd
  rw [utf8_cons_of_ascii hc, skipHole]
  simp only [hbyte (d := '"') (by decide), hbyte (d := '\'') (by decide),
    hbyte (d := '`') (by decide), hbyte (d := '\x7b') (by decide),
    hbyte (d := '\x7d') (by decide)]

theorem length_utf8_le {rest : List Char} (h : rest <:+ cs) :
    (utf8 rest).length ≤ (utf8 cs).length := by
  obtain ⟨passed, rfl⟩ := h
  rw [utf8_append, List.length_append]
  exact Nat.le_add_left _ _

/-- What a scan gives when it goes on behind a construct. -/
theorem onward_utf8 {inner outer : List Nest} {scan : List UInt8 → Option (List UInt8)} {n : Nat}
    (hn : (utf8 cs).length ≤ n)
    (h : ∀ rest, rest <:+ cs → scan (utf8 rest) = (skipNested outer rest).map utf8) :
    (((skipNested inner cs).map utf8).bind fun rest =>
      if rest.length ≤ n then scan rest else none) = (skipNested (inner ++ outer) cs).map utf8 := by
  rw [skipNested_bind]
  cases hskip : skipNested inner cs with
  | none => rfl
  | some rest =>
    have hrest := skipNested_suffix hskip
    rw [Option.map_some, Option.bind_some, Option.bind_some,
      if_pos ((length_utf8_le hrest).trans hn)]
    exact h rest hrest

theorem prefix_hole_iff : ['$', '\x7b'] <+: c :: cs ↔ c = '$' ∧ cs.head? = some '\x7b' := by
  cases cs with
  | nil => simp
  | cons d cs => simp [eq_comm]

mutual

/-- **Bytes and characters agree on the end of a template literal.** -/
theorem skipTemplate_utf8 (cs : List Char) :
    skipTemplate (utf8 cs) = (skipNested [.template] cs).map utf8 := by
  match cs with
  | [] => rw [skipNested, utf8_nil, skipTemplate, Option.map_none]
  | c :: cs =>
    by_cases hc : c.utf8Size = 1
    · rw [skipTemplate_cons hc]
      split
      · next heq =>
        subst heq
        rw [passesHigh_skipTemplate.tail, skipTemplate_utf8]
        cases cs <;> rfl
      · next hslash =>
        split
        · next heq =>
          have hopen : ¬ ['$', '\x7b'] <+: c :: cs := by
            rw [prefix_hole_iff, heq]
            exact fun h => absurd h.1 (by decide)
          rw [skipNested_template hslash hopen, if_pos heq, skipNested_nil]
          rfl
        · next hmark =>
          split
          · next hhole =>
            obtain ⟨ds, hcs⟩ := List.head?_eq_some_iff.mp hhole.2
            have hds : ds <:+ cs := hcs ▸ List.suffix_cons _ ds
            have hskip : skipNested [.template] (c :: cs) =
                skipNested ([.hole 1] ++ [.template]) ds := by
              rw [hhole.1, hcs]
              rfl
            have htail : cs.tail = ds := by rw [hcs, List.tail_cons]
            rw [(passesHigh_skipHole 1).tail, htail, skipHole_utf8 1 ds, hskip]
            exact onward_utf8 (length_utf8_le hds) fun rest hrest => skipTemplate_utf8 rest
          · next hopen =>
            rw [skipNested_template hslash (mt prefix_hole_iff.mp hopen), if_neg hmark]
            exact skipTemplate_utf8 cs
    · have hne {d : Char} (hd : d.utf8Size = 1) : c ≠ d := fun heq => hc (heq ▸ hd)
      have hopen : ¬ ['$', '\x7b'] <+: c :: cs := fun h =>
        hne (by decide) (prefix_hole_iff.mp h).1
      rw [passesHigh_skipTemplate.cons hc, skipNested_template (hne (by decide)) hopen,
        if_neg (hne (by decide))]
      exact skipTemplate_utf8 cs
termination_by cs.length
decreasing_by
  · exact Nat.lt_succ_self _
  · exact Nat.lt_succ_of_le hds.length_le
  · exact Nat.lt_succ_of_le (hrest.trans hds).length_le
  · exact Nat.lt_succ_of_le (List.tail_sublist cs).length_le
  · exact Nat.lt_succ_self _

/-- **Bytes and characters agree on the end of a hole.** -/
theorem skipHole_utf8 (braces : Nat) (cs : List Char) :
    skipHole braces (utf8 cs) = (skipNested [.hole braces] cs).map utf8 := by
  match cs with
  | [] => rw [skipNested, utf8_nil, skipHole, Option.map_none]
  | c :: cs =>
    have hgo : ∀ rest, rest <:+ cs → skipHole braces (utf8 rest) =
        (skipNested [.hole braces] rest).map utf8 := fun rest hrest => skipHole_utf8 braces rest
    by_cases hc : c.utf8Size = 1
    · rw [skipHole_cons hc, skipNested]
      simp only [Bool.or_eq_true, decide_eq_true_eq]
      split
      · next hquote =>
        have hslash : c ≠ '\\' := by rcases hquote with rfl | rfl <;> decide
        rw [skipQuoted_utf8 hc hslash]
        exact onward_utf8 (Nat.le_refl _) hgo
      split
      · rw [skipTemplate_utf8]
        exact onward_utf8 (Nat.le_refl _) hgo
      split
      · exact skipHole_utf8 (braces + 1) cs
      split
      · split
        · rw [skipNested_nil]
          rfl
        · exact skipHole_utf8 (braces - 1) cs
      · exact skipHole_utf8 braces cs
    · have hne {d : Char} (hd : d.utf8Size = 1) : c ≠ d := fun heq => hc (heq ▸ hd)
      have hplain : isQuote c = false ∧ isBrace c = false := by
        simp only [isQuote, isBrace, Bool.or_eq_false_iff, decide_eq_false_iff_not]
        exact ⟨⟨⟨hne (by decide), hne (by decide)⟩, hne (by decide)⟩, hne (by decide),
          hne (by decide)⟩
      have hskip : skipNested [.hole braces] ([c] ++ cs) = skipNested [.hole braces] cs :=
        skipNested_hole fun d hd => List.mem_singleton.mp hd ▸ hplain
      rw [List.singleton_append] at hskip
      rw [(passesHigh_skipHole braces).cons hc, hskip]
      exact skipHole_utf8 braces cs
termination_by cs.length
decreasing_by
  · exact Nat.lt_succ_of_le hrest.length_le
  · exact Nat.lt_succ_self _
  · exact Nat.lt_succ_self _
  · exact Nat.lt_succ_self _
  · exact Nat.lt_succ_self _
  · exact Nat.lt_succ_self _

end

end Agreement

/-! ## Comments -/

theorem skipComment_cons (b : UInt8) (bytes : List UInt8) :
    skipComment (b :: bytes) =
      if b = '*'.toUInt8 ∧ bytes.head? = some '/'.toUInt8 then some bytes.tail
      else skipComment bytes := by
  cases bytes with
  | nil => exact (if_neg fun h => nomatch h.2).symm
  | cons c bytes => simp only [skipComment, List.head?_cons, Option.some_inj, List.tail_cons]

theorem cutAt?_comment (c : Char) (cs : List Char) :
    cutAt? ['*', '/'] (c :: cs) =
      if c = '*' ∧ cs.head? = some '/' then some ([], cs.tail)
      else (cutAt? ['*', '/'] cs).map fun (before, after) => (c :: before, after) := by
  rw [cutAt?]
  cases cs with
  | nil =>
    rw [if_neg fun h => Option.some_ne_none _ h.2.symm]
    by_cases hc : c = '*'
    · subst hc
      rfl
    · simp [List.isPrefixOf?, Ne.symm hc]
  | cons d ds =>
    by_cases h : c = '*' ∧ (d :: ds).head? = some '/'
    · obtain ⟨rfl, hd⟩ := h
      obtain rfl := Option.some.inj hd
      rfl
    · rw [if_neg h]
      have hnone : ['*', '/'].isPrefixOf? (c :: d :: ds) = none := by
        simp only [List.head?_cons, Option.some_inj, not_and] at h
        simp only [List.isPrefixOf?, beq_iff_eq]
        split
        · next hstar => rw [if_neg (Ne.symm (h hstar.symm))]
        · rfl
      rw [hnone]

/-- **Bytes and characters agree on the end of a block comment.** -/
theorem skipComment_utf8 (cs : List Char) :
    skipComment (utf8 cs) = (cutAt? ['*', '/'] cs).map fun (_, rest) => utf8 rest := by
  have hpass : PassesHigh skipComment := fun b bytes hb => by
    rw [skipComment_cons, if_neg fun h => ne_toUInt8_of_high hb (by decide) h.1]
  induction cs with
  | nil => rfl
  | cons c cs ih =>
    have hmap : (cutAt? ['*', '/'] cs).map (fun (_, rest) => utf8 rest) =
        ((cutAt? ['*', '/'] cs).map fun (before, after) => (c :: before, after)).map
          fun (_, rest) => utf8 rest := by
      rw [Option.map_map]
      rfl
    rw [cutAt?_comment]
    by_cases hc : c.utf8Size = 1
    · rw [utf8_cons_of_ascii hc, skipComment_cons]
      simp only [toUInt8_eq_iff (d := '*') hc (by decide),
        head?_utf8_eq_iff (d := '/') (by decide)]
      split
      · next hend =>
        obtain ⟨ds, rfl⟩ := List.head?_eq_some_iff.mp hend.2
        rw [utf8_cons_of_ascii (by decide)]
        rfl
      · rw [ih, hmap]
    · have hne : c ≠ '*' := fun heq => hc (heq ▸ by decide)
      rw [hpass.cons hc, if_neg fun h => hne h.1, ih, hmap]

/-! ## The closing marker -/

namespace Shield

/-- The construct at the front of the bytes of a script. -/
def ofBytes? : List UInt8 → Option Shield
  | [] => none
  | b :: bytes =>
    if b = '"'.toUInt8 then some (.text '"')
    else if b = '\''.toUInt8 then some (.text '\'')
    else if b = '`'.toUInt8 then some .template
    else if b = '/'.toUInt8 ∧ bytes.head? = some '*'.toUInt8 then some .comment
    else none

/-- The bytes behind the construct at the front. -/
def afterBytes? (shield : Shield) (bytes : List UInt8) : Option (List UInt8) :=
  match shield with
  | .text mark => skipQuoted mark.toUInt8 bytes.tail
  | .template => skipTemplate bytes.tail
  | .comment => skipComment bytes.tail.tail

end Shield

theorem length_of_skipQuoted {mark : UInt8} {bytes rest : List UInt8}
    (h : skipQuoted mark bytes = some rest) : rest.length < bytes.length := by
  fun_induction skipQuoted mark bytes with
  | case1 => cases h
  | case2 bytes ih =>
    exact Nat.lt_succ_of_lt ((ih h).trans_le (List.tail_sublist bytes).length_le)
  | case3 =>
    obtain rfl := Option.some.inj h
    exact Nat.lt_succ_self _
  | case4 b bytes _ _ ih => exact Nat.lt_succ_of_lt (ih h)

theorem length_of_skipComment {bytes rest : List UInt8}
    (h : skipComment bytes = some rest) : rest.length < bytes.length := by
  fun_induction skipComment bytes with
  | case1 =>
    obtain rfl := Option.some.inj h
    exact Nat.lt_succ_of_lt (Nat.lt_succ_self _)
  | case2 b c bytes _ ih => exact Nat.lt_succ_of_lt (ih h)
  | case3 => cases h

theorem length_of_skipTemplate {bytes rest : List UInt8}
    (h : skipTemplate bytes = some rest) : rest.length < bytes.length := by
  match bytes with
  | [] =>
    rw [skipTemplate] at h
    cases h
  | b :: bytes =>
    have htail := (List.tail_sublist bytes).length_le
    rw [skipTemplate] at h
    split at h
    · exact Nat.lt_succ_of_lt ((length_of_skipTemplate h).trans_le htail)
    split at h
    · obtain rfl := Option.some.inj h
      exact Nat.lt_succ_self _
    split at h
    · obtain ⟨after, -, hafter⟩ := Option.bind_eq_some_iff.mp h
      split at hafter
      · next hle => exact Nat.lt_succ_of_lt ((length_of_skipTemplate hafter).trans_le hle)
      · cases hafter
    · exact Nat.lt_succ_of_lt (length_of_skipTemplate h)
termination_by bytes.length
decreasing_by
  · exact Nat.lt_succ_self _
  · exact Nat.lt_succ_of_le ‹after.length ≤ bytes.length›
  · exact Nat.lt_succ_of_le htail

theorem Shield.length_of_afterBytes? {shield : Shield} {b : UInt8} {bytes rest : List UInt8}
    (h : shield.afterBytes? (b :: bytes) = some rest) : rest.length ≤ bytes.length := by
  cases shield with
  | text mark => exact (length_of_skipQuoted h).le
  | template => exact (length_of_skipTemplate h).le
  | comment => exact (length_of_skipComment h).le.trans (List.tail_sublist _).length_le

/-- The offset of the first closing marker that counts, looked for in bytes. `offset` is where the
bytes stand and `opening` the span of the opening marker. -/
def closeOf (tag : Tag) (opening : Span) (offset : Nat) (bytes : List UInt8) : Except Fault Nat :=
  match bytes with
  | [] => .error ⟨.unterminatedTag tag.closeMark, opening⟩
  | b :: bytes =>
    if utf8 tag.closeMark.toList <+: b :: bytes then .ok offset
    else
      match if tag.holdsScript then Shield.ofBytes? (b :: bytes) else none with
      | none => closeOf tag opening (offset + 1) bytes
      | some shield =>
        match _h : shield.afterBytes? (b :: bytes) with
        | none => .error ⟨shield.unclosed, ⟨offset, offset + (b :: bytes).length⟩⟩
        | some after => closeOf tag opening (offset + ((b :: bytes).length - after.length)) after
termination_by bytes.length
decreasing_by
  · exact Nat.lt_succ_self _
  · exact Nat.lt_succ_of_le (Shield.length_of_afterBytes? _h)

/-- The construct that hides markers at the front of the bytes of a body. -/
def Tag.shieldBytes? (tag : Tag) (bytes : List UInt8) : Option Shield :=
  if tag.holdsScript then Shield.ofBytes? bytes else none

namespace Shield

variable {shield : Shield} {c : Char} {cs : List Char}

theorem ofStart?_cons (c : Char) (cs : List Char) :
    ofStart? (c :: cs) =
      if c = '"' then some (.text '"')
      else if c = '\'' then some (.text '\'')
      else if c = '`' then some .template
      else if c = '/' ∧ cs.head? = some '*' then some .comment
      else none := by
  unfold ofStart?
  split
  · next heq => rw [(List.cons.inj heq).1, if_pos rfl]
  · next heq => rw [(List.cons.inj heq).1]; rfl
  · next heq => rw [(List.cons.inj heq).1]; rfl
  · next heq => rw [(List.cons.inj heq).1, (List.cons.inj heq).2]; rfl
  · next hquote happostrophe hbacktick hcomment =>
    have hnot : ¬ (c = '/' ∧ cs.head? = some '*') := by
      rintro ⟨rfl, hhead⟩
      obtain ⟨ds, rfl⟩ := List.head?_eq_some_iff.mp hhead
      exact hcomment ds rfl
    rw [if_neg fun heq => hquote cs (congrArg (· :: cs) heq),
      if_neg fun heq => happostrophe cs (congrArg (· :: cs) heq),
      if_neg fun heq => hbacktick cs (congrArg (· :: cs) heq), if_neg hnot]

theorem ofBytes?_of_high {b : UInt8} (hb : 128 ≤ b.toNat) (bytes : List UInt8) :
    ofBytes? (b :: bytes) = none := by
  have hne {c : Char} (hc : c.utf8Size = 1) : b ≠ c.toUInt8 := ne_toUInt8_of_high hb hc
  rw [ofBytes?, if_neg (hne (by decide)), if_neg (hne (by decide)), if_neg (hne (by decide)),
    if_neg fun h => hne (by decide) h.1]

/-- A construct starts with the same byte as with the same character. -/
theorem ofBytes?_utf8 (cs : List Char) : ofBytes? (utf8 cs) = ofStart? cs := by
  cases cs with
  | nil => rw [utf8_nil]; rfl
  | cons c cs =>
    rw [ofStart?_cons]
    by_cases hc : c.utf8Size = 1
    · have hbyte {d : Char} (hd : d.utf8Size = 1) : c.toUInt8 = d.toUInt8 ↔ c = d :=
        toUInt8_eq_iff hc hd
      rw [utf8_cons_of_ascii hc, ofBytes?]
      simp only [hbyte (d := '"') (by decide), hbyte (d := '\'') (by decide),
        hbyte (d := '`') (by decide), hbyte (d := '/') (by decide),
        head?_utf8_eq_iff (d := '*') (by decide)]
    · have hne {d : Char} (hd : d.utf8Size = 1) : c ≠ d := fun heq => hc (heq ▸ hd)
      rw [if_neg (hne (by decide)), if_neg (hne (by decide)), if_neg (hne (by decide)),
        if_neg fun h => hne (by decide) h.1]
      obtain ⟨b, tail, hbytes⟩ := List.exists_cons_of_ne_nil (@String.utf8EncodeChar_ne_nil c)
      have hb : 128 ≤ b.toNat :=
        high_of_mem_utf8EncodeChar hc b (hbytes ▸ List.mem_cons_self)
      rw [utf8_cons, hbytes]
      exact ofBytes?_of_high hb _

theorem afterBytes?_utf8 (h : ofStart? cs = some shield) :
    shield.afterBytes? (utf8 cs) = (shield.after? cs).map utf8 := by
  unfold ofStart? at h
  split at h
  · obtain rfl := Option.some.inj h
    rw [utf8_cons_of_ascii (by decide)]
    exact skipQuoted_utf8 (by decide) (by decide) _
  · obtain rfl := Option.some.inj h
    rw [utf8_cons_of_ascii (by decide)]
    exact skipQuoted_utf8 (by decide) (by decide) _
  · obtain rfl := Option.some.inj h
    rw [utf8_cons_of_ascii (by decide)]
    exact skipTemplate_utf8 _
  · obtain rfl := Option.some.inj h
    rw [utf8_cons_of_ascii (by decide), utf8_cons_of_ascii (by decide), after?, Option.map_map]
    exact skipComment_utf8 _
  · cases h

end Shield

theorem Tag.ofStart?_of_shield? {tag : Tag} {shield : Shield} {cs : List Char}
    (h : tag.shield? cs = some shield) : Shield.ofStart? cs = some shield := by
  unfold Tag.shield? at h
  split at h
  · exact h
  · cases h

section Marker

variable {tag : Tag} {opening : Span} {offset : Nat} {b : UInt8} {bytes after : List UInt8}
  {shield : Shield}

theorem closeOf_pass (hclose : ¬ utf8 tag.closeMark.toList <+: b :: bytes)
    (hshield : tag.shieldBytes? (b :: bytes) = none) :
    closeOf tag opening offset (b :: bytes) = closeOf tag opening (offset + 1) bytes := by
  unfold Tag.shieldBytes? at hshield
  rw [closeOf, if_neg hclose, hshield]

theorem closeOf_unclosed (hclose : ¬ utf8 tag.closeMark.toList <+: b :: bytes)
    (hshield : tag.shieldBytes? (b :: bytes) = some shield)
    (hafter : shield.afterBytes? (b :: bytes) = none) :
    closeOf tag opening offset (b :: bytes) =
      .error ⟨shield.unclosed, ⟨offset, offset + (b :: bytes).length⟩⟩ := by
  unfold Tag.shieldBytes? at hshield
  rw [closeOf, if_neg hclose]
  split
  · next heq => cases hshield.symm.trans heq
  · next heq =>
    obtain rfl := Option.some.inj (hshield.symm.trans heq)
    split
    · rfl
    · next heq => cases hafter.symm.trans heq

theorem closeOf_hidden (hclose : ¬ utf8 tag.closeMark.toList <+: b :: bytes)
    (hshield : tag.shieldBytes? (b :: bytes) = some shield)
    (hafter : shield.afterBytes? (b :: bytes) = some after) :
    closeOf tag opening offset (b :: bytes) =
      closeOf tag opening (offset + ((b :: bytes).length - after.length)) after := by
  unfold Tag.shieldBytes? at hshield
  rw [closeOf, if_neg hclose]
  split
  · next heq => cases hshield.symm.trans heq
  · next heq =>
    obtain rfl := Option.some.inj (hshield.symm.trans heq)
    split
    · next heq => cases hafter.symm.trans heq
    · next heq =>
      obtain rfl := Option.some.inj (hafter.symm.trans heq)
      rfl

/-- The search goes over the bytes of a character behind the first. -/
theorem closeOf_tail (hne : tag.closeMark.toList ≠ []) {front : List UInt8}
    (hfront : ∀ b ∈ front, ¬ b.IsUTF8FirstByte ∧ 128 ≤ b.toNat) (offset : Nat)
    (bytes : List UInt8) :
    closeOf tag opening offset (front ++ bytes) =
      closeOf tag opening (offset + front.length) bytes := by
  induction front generalizing offset with
  | nil => rfl
  | cons b front ih =>
    rw [List.forall_mem_cons] at hfront
    have hshield : tag.shieldBytes? (b :: (front ++ bytes)) = none := by
      rw [Tag.shieldBytes?, Shield.ofBytes?_of_high hfront.1.2, ite_self]
    rw [List.cons_append, closeOf_pass (not_utf8_isPrefix_cons hne hfront.1.1) hshield, ih hfront.2,
      List.length_cons, Nat.add_assoc, Nat.add_comm 1]

/-- Where the closing marker stands when the search has gone over `passed`. -/
theorem map_byteLength_append (passed : List Char)
    (found : Except Fault (List Char × List Char)) :
    ((found >>= fun (body, rest) => .ok (passed ++ body, rest)).map fun (body, _) =>
      offset + byteLength body) =
      found.map fun (body, _) => offset + byteLength passed + byteLength body := by
  cases found with
  | error fault => rfl
  | ok result =>
    show Except.ok (offset + byteLength (passed ++ result.1)) = _
    rw [byteLength_append, ← Nat.add_assoc]
    rfl

/-- **Bytes and characters agree on the closing marker**, and on what is wrong if there is none. -/
theorem closeOf_utf8 (tag : Tag) (opening : Span) (offset : Nat) (cs : List Char) :
    closeOf tag opening offset (utf8 cs) =
      (bodyOf tag opening offset cs).map fun (body, _) => offset + byteLength body := by
  have hshields (cs : List Char) : tag.shieldBytes? (utf8 cs) = tag.shield? cs := by
    rw [Tag.shieldBytes?, Shield.ofBytes?_utf8, Tag.shield?]
  have hmarkers {cs : List Char} (h : tag.closeMark.toList.isPrefixOf? cs = none) :
      ¬ utf8 tag.closeMark.toList <+: utf8 cs := by
    rw [utf8_prefix_iff]
    rintro ⟨rest, rfl⟩
    rw [isPrefixOf?_append] at h
    cases h
  fun_induction bodyOf tag opening offset cs with
  | case1 =>
    rw [utf8_nil, closeOf]
    rfl
  | case2 offset c cs rest hmarker =>
    have hclose : utf8 tag.closeMark.toList <+: utf8 (c :: cs) :=
      utf8_prefix_iff.mpr ⟨rest, append_eq_of_isPrefixOf? hmarker⟩
    obtain ⟨b, bytes, hbytes⟩ := List.exists_cons_of_ne_nil (utf8_ne_nil c cs)
    rw [hbytes] at hclose ⊢
    rw [closeOf, if_pos hclose]
    rfl
  | case3 offset c cs hmarker hshield ih =>
    have hclose := hmarkers hmarker
    have hnone := (hshields (c :: cs)).trans hshield
    have hne : tag.closeMark.toList ≠ [] := fun hnil => by
      rw [hnil, utf8_nil] at hclose
      exact hclose List.nil_prefix
    have htail : ∀ b ∈ (String.utf8EncodeChar c).tail, ¬ b.IsUTF8FirstByte ∧ 128 ≤ b.toNat :=
      fun b hb => ⟨not_isUTF8FirstByte_of_mem_tail hb, high_of_mem_tail hb⟩
    have hsize := String.length_utf8EncodeChar c
    obtain ⟨b, tail, hbytes⟩ := List.exists_cons_of_ne_nil (@String.utf8EncodeChar_ne_nil c)
    rw [utf8_cons, hbytes, List.cons_append] at hclose hnone ⊢
    rw [hbytes, List.tail_cons] at htail
    rw [hbytes, List.length_cons, Nat.add_comm] at hsize
    rw [closeOf_pass hclose hnone, closeOf_tail hne htail, Nat.add_assoc, hsize, ih]
    exact (map_byteLength_append [c] _).symm
  | case4 offset c cs hmarker shield hshield hafter =>
    have hclose := hmarkers hmarker
    have hsome := (hshields (c :: cs)).trans hshield
    have hnone : shield.afterBytes? (utf8 (c :: cs)) = none := by
      rw [Shield.afterBytes?_utf8 (Tag.ofStart?_of_shield? hshield), hafter, Option.map_none]
    rw [← length_utf8]
    obtain ⟨b, bytes, hbytes⟩ := List.exists_cons_of_ne_nil (utf8_ne_nil c cs)
    rw [hbytes] at hclose hsome hnone ⊢
    exact closeOf_unclosed hclose hsome hnone
  | case5 offset c cs hmarker shield hshield after hafter passed =>
    rename_i ih
    have hclose := hmarkers hmarker
    have hsome := (hshields (c :: cs)).trans hshield
    have hrest : shield.afterBytes? (utf8 (c :: cs)) = some (utf8 after) := by
      rw [Shield.afterBytes?_utf8 (Tag.ofStart?_of_shield? hshield), hafter, Option.map_some]
    have hsplit : c :: cs = passed ++ after := Shield.append_of_after? hafter
    have hlength : (utf8 (c :: cs)).length - (utf8 after).length = byteLength passed := by
      rw [hsplit, utf8_append, List.length_append, Nat.add_sub_cancel, length_utf8]
    obtain ⟨b, bytes, hbytes⟩ := List.exists_cons_of_ne_nil (utf8_ne_nil c cs)
    rw [hbytes] at hclose hsome hrest hlength ⊢
    rw [closeOf_hidden hclose hsome hrest, hlength, ih]
    exact (map_byteLength_append passed _).symm

end Marker

end Stencil
