import Mathlib
import Stencil.Decimal.Numeral
import Stencil.Proofs.Decimal.Nearest

/-!
# Numerals read back

A numeral is digits, and a point only with digits after it. Zeros are added and dropped when it is
written, which does not change its value, so what is read is the number that was written.

* `shortest_reads`: the decimal that is chosen stands for the number, whether a candidate with few
  digits was found or the exact value is taken.
* `Positional` is the shape of a numeral; `exists_positional` is the shape and the value of what is
  written.
* `readNumeral?_numeral`: a finite number without a sign is read back from its numeral.
-/

namespace Stencil.Decimal

/-! ## The decimal that is chosen -/

/-- Of two decimals one that reads back is taken. -/
theorem readsAs_of_either {bits : UInt64} {near far d : Scientific}
    (h : (if near.readsAs bits then some near else if far.readsAs bits then some far else none) =
      some d) : d.readsAs bits = true := by
  split at h
  · next hnear => exact Option.some.inj h ▸ hnear
  · split at h
    · next hfar => exact Option.some.inj h ▸ hfar
    · exact nomatch h

theorem candidate?_readsAs {mantissa : Nat} {exponent scale : Int} {bits : UInt64} {n : Nat}
    {d : Scientific} (h : candidate? mantissa exponent bits scale n = some d) :
    d.readsAs bits = true := by
  unfold candidate? at h
  split at h
  split at h <;> exact readsAs_of_either h

theorem shortest_readsAs (mantissa : Nat) (exponent : Int) (bits : UInt64) :
    (shortest mantissa exponent bits).readsAs bits = true ∨
      shortest mantissa exponent bits = exactDecimal mantissa exponent := by
  unfold shortest
  dsimp only
  cases hfound : (List.range 17).findSome? fun n =>
      candidate? mantissa exponent bits (decimalScale mantissa exponent) (n + 1) with
  | some d =>
    obtain ⟨n, -, hn⟩ := List.exists_of_findSome?_eq_some hfound
    rw [Option.getD_some]
    exact .inl (candidate?_readsAs hn)
  | none => exact .inr (Option.getD_none ..)

variable {x : Float} {mantissa : Nat} {exponent : Int}

/-- The decimal that is chosen stands for the number. -/
theorem shortest_reads (h : view x = .finite false mantissa exponent) (hpos : 0 < mantissa) :
    ofDecimal false (shortest mantissa exponent x.toBits).digits
      (shortest mantissa exponent x.toBits).exponent = x := by
  obtain hreads | hexact := shortest_readsAs mantissa exponent x.toBits
  · unfold Scientific.readsAs at hreads
    exact Float.toBits_inj.mp (eq_of_beq hreads)
  · obtain ⟨hcanonical, hbits⟩ := canonical_of_view h
    rw [hexact, ofDecimal_exactDecimal hcanonical hpos, ← hbits, UInt64.ofNat_toNat,
      Float.ofBits_toBits]

/-! ## Digits -/

theorem digitsValue_eq (cs : List Char) : digitsValue cs = Nat.ofDigitChars 10 cs 0 := rfl

theorem digitsValue_toDigits (n : Nat) : digitsValue (Nat.toDigits 10 n) = n := by
  rw [digitsValue_eq, Nat.ofDigitChars_ten_toDigits]

/-- Zeros in front count nothing. -/
theorem digitsValue_zeros_append (k : Nat) (cs : List Char) :
    digitsValue (List.replicate k '0' ++ cs) = digitsValue cs := by
  rw [digitsValue_eq, Nat.ofDigitChars_append, Nat.ofDigitChars_replicate_zero, Nat.mul_zero]
  rfl

/-- Each zero at the end is a factor of ten. -/
theorem digitsValue_append_zeros (cs : List Char) (k : Nat) :
    digitsValue (cs ++ List.replicate k '0') = digitsValue cs * 10 ^ k := by
  rw [digitsValue_eq, Nat.ofDigitChars_append, Nat.ofDigitChars_replicate_zero, Nat.mul_comm]
  rfl

/-- A text is what is left without the zeros at its end, and these zeros. -/
theorem dropped_zeros (cs : List Char) : ∃ k,
    cs = (cs.reverse.dropWhile (· = '0')).reverse ++ List.replicate k '0' := by
  refine ⟨(cs.reverse.takeWhile (· = '0')).length, ?_⟩
  have hzeros : (cs.reverse.takeWhile (· = '0')).reverse =
      List.replicate (cs.reverse.takeWhile (· = '0')).length '0' :=
    List.eq_replicate_iff.mpr ⟨List.length_reverse, fun c hc =>
      of_decide_eq_true (List.all_eq_true.mp List.all_takeWhile c (List.mem_reverse.mp hc))⟩
  rw [← hzeros, ← List.reverse_append, List.takeWhile_append_dropWhile, List.reverse_reverse]

/-! ## The shape of numerals -/

/-- A text of digits `whole`, then a point and the digits `fraction` unless there are none. -/
structure Positional (cs whole fraction : List Char) : Prop where
  eq : cs = whole ++ if fraction.isEmpty then [] else '.' :: fraction
  whole_ne_nil : whole ≠ []
  whole_digits : ∀ c ∈ whole, c.isDigit = true
  fraction_digits : ∀ c ∈ fraction, c.isDigit = true

theorem isDigit_of_mem_replicate {k : Nat} {c : Char} (h : c ∈ List.replicate k '0') :
    c.isDigit = true := by
  rw [List.eq_of_mem_replicate h]
  rfl

theorem isDigit_of_mem_toDigits {n : Nat} {c : Char} (h : c ∈ Nat.toDigits 10 n) :
    c.isDigit = true := Nat.isDigit_of_mem_toDigits (by decide) (by decide) h

/-- **What is written of a decimal has its value.** -/
theorem exists_positional (d : Scientific) : ∃ whole fraction,
    Positional (positional d) whole fraction ∧
      ofDecimal false (digitsValue (whole ++ fraction)) (-fraction.length) =
        ofDecimal false d.digits d.exponent := by
  obtain ⟨digits, exponent⟩ := d
  unfold positional
  dsimp only
  split
  · next h =>
    obtain ⟨n, rfl⟩ := Int.eq_ofNat_of_zero_le h
    refine ⟨Nat.toDigits 10 digits ++ List.replicate n '0', [],
      ⟨?_, ?_, ?_, fun c hc => absurd hc List.not_mem_nil⟩, ?_⟩
    · rw [Int.toNat_natCast]
      exact (List.append_nil _).symm
    · exact fun hnil => Nat.toDigits_ne_nil (List.append_eq_nil_iff.mp hnil).1
    · intro c hc
      exact (List.mem_append.mp hc).elim isDigit_of_mem_toDigits isDigit_of_mem_replicate
    · rw [List.append_nil, digitsValue_append_zeros, digitsValue_toDigits, ofDecimal_mul_pow]
      congr 1
      exact Int.zero_add _
  · next h =>
    obtain ⟨places, hplaces⟩ : ∃ places : Nat, exponent = -places := ⟨(-exponent).toNat, by omega⟩
    subst hplaces
    rw [neg_neg, Int.toNat_natCast]
    -- The digits, filled up with zeros in front so that one stands before the point.
    generalize hpadded : List.replicate (places + 1 - (Nat.toDigits 10 digits).length) '0' ++
      Nat.toDigits 10 digits = padded
    have hlength : places < padded.length := by
      rw [← hpadded, List.length_append, List.length_replicate]
      omega
    have hdigits : ∀ c ∈ padded, c.isDigit = true := by
      intro c hc
      rw [← hpadded] at hc
      exact (List.mem_append.mp hc).elim isDigit_of_mem_replicate isDigit_of_mem_toDigits
    have hvalue : digitsValue padded = digits := by
      rw [← hpadded, digitsValue_zeros_append, digitsValue_toDigits]
    obtain ⟨k, hk⟩ := dropped_zeros (padded.drop (padded.length - places))
    generalize hfraction :
      ((padded.drop (padded.length - places)).reverse.dropWhile (· = '0')).reverse = fraction at *
    have hsplit : padded = padded.take (padded.length - places) ++ fraction ++
        List.replicate k '0' := by
      rw [List.append_assoc, ← hk, List.take_append_drop]
    have hcount : fraction.length + k = places := by
      have := congrArg List.length hk
      rw [List.length_drop, List.length_append, List.length_replicate] at this
      omega
    refine ⟨padded.take (padded.length - places), fraction, ⟨?_, ?_, ?_, ?_⟩, ?_⟩
    · split
      · exact (List.append_nil _).symm
      · rfl
    · intro hnil
      have := congrArg List.length hnil
      rw [List.length_take, List.length_nil] at this
      omega
    · exact fun c hc => hdigits c (List.mem_of_mem_take hc)
    · intro c hc
      refine hdigits c (List.mem_of_mem_drop (i := padded.length - places) ?_)
      rw [hk]
      exact List.mem_append_left _ hc
    · rw [← hvalue, hsplit, digitsValue_append_zeros, ofDecimal_mul_pow, ← hsplit]
      congr 1
      omega

/-! ## Reading -/

variable {cs whole fraction : List Char}

/-- A scan for characters of a kind takes those in front and stops where the first other one is. -/
theorem scan_append {p : Char → Bool} {ds : List Char} (hds : ∀ c ∈ ds, p c = true)
    (rest : List Char) (hrest : ∀ c ∈ rest.head?, p c = false) :
    (ds ++ rest).takeWhile p = ds ∧ (ds ++ rest).dropWhile p = rest := by
  rw [List.takeWhile_append_of_pos hds, List.dropWhile_append_of_pos hds]
  cases rest with
  | nil => exact ⟨List.append_nil _, rfl⟩
  | cons c rest =>
    have hc := Bool.eq_false_iff.mp (hrest c rfl)
    rw [List.takeWhile_cons_of_neg hc, List.dropWhile_cons_of_neg hc]
    exact ⟨List.append_nil _, rfl⟩

/-- The number that is read from a text of this shape. -/
theorem Positional.readDecimal? (h : Positional cs whole fraction) :
    readDecimal? false cs = some (ofDecimal false (digitsValue (whole ++ fraction))
      (-fraction.length)) := by
  obtain ⟨rfl, hne, hwhole, hfraction⟩ := h
  unfold Decimal.readDecimal?
  have hwhole_ne : whole.isEmpty = false := List.isEmpty_eq_false_iff.mpr hne
  cases fraction with
  | nil =>
    obtain ⟨htake, hdrop⟩ := scan_append hwhole [] nofun
    simp only [List.isEmpty_nil, if_true, htake, hdrop, hwhole_ne, Bool.false_and,
      Bool.false_eq_true, if_false, readExponent?, Option.map_some]
    rfl
  | cons c fraction =>
    obtain ⟨htake, hdrop⟩ := scan_append hwhole ('.' :: c :: fraction)
      (fun d hd => Option.some.inj hd ▸ rfl)
    obtain ⟨htake', hdrop'⟩ := scan_append hfraction [] nofun
    rw [List.append_nil] at htake' hdrop'
    simp only [List.isEmpty_cons, Bool.false_eq_true, if_false, htake, hdrop, htake', hdrop',
      hwhole_ne, Bool.false_and, readExponent?, Option.map_some, Int.zero_sub]

theorem Positional.head (h : Positional cs whole fraction) :
    ∃ c rest, cs = c :: rest ∧ c.isDigit = true := by
  obtain ⟨rfl, hne, hwhole, -⟩ := h
  obtain ⟨c, rest, rfl⟩ := List.exists_cons_of_ne_nil hne
  exact ⟨c, _, List.cons_append, hwhole c List.mem_cons_self⟩

theorem toLower_of_isDigit {c : Char} (h : c.isDigit = true) : c.toLower = c := by
  unfold Char.toLower
  rw [dif_neg]
  rintro ⟨hletter, -⟩
  have hdigit : c.val ≤ '9'.val := of_decide_eq_true (Bool.and_eq_true_iff.mp h).2
  exact absurd (UInt32.le_trans hletter hdigit) (by decide)

/-- A text of this shape has no sign and is none of the words. -/
theorem Positional.readNumeral? (h : Positional cs whole fraction) :
    readNumeral? cs = Decimal.readDecimal? false cs := by
  obtain ⟨c, rest, rfl, hc⟩ := h.head
  have hsign : readSign (c :: rest) = (false, c :: rest) := by
    unfold readSign
    split
    · next heq =>
      obtain ⟨rfl, -⟩ := List.cons.inj heq
      exact absurd hc (by decide)
    · next heq =>
      obtain ⟨rfl, -⟩ := List.cons.inj heq
      exact absurd hc (by decide)
    · rfl
  have hword (word : String) (hword : word.toList.head?.any Char.isDigit = false) :
      String.ofList ((c :: rest).map Char.toLower) ≠ word := by
    rintro rfl
    rw [String.toList_ofList, List.map_cons, List.head?_cons, toLower_of_isDigit hc] at hword
    exact absurd (hc.symm.trans hword) (by decide)
  unfold Decimal.readNumeral?
  rw [hsign]
  dsimp only
  rw [decide_eq_false (hword "inf" rfl), decide_eq_false (hword "infinity" rfl),
    if_neg (by decide), if_neg (hword "nan" rfl)]

/-- **A finite number without a sign is read back from its numeral.** -/
theorem readNumeral?_numeral (h : view x = .finite false mantissa exponent) :
    ∃ whole fraction, Positional (numeral x) whole fraction ∧
      readNumeral? (numeral x) = some x := by
  cases mantissa with
  | zero =>
    have hnumeral : numeral x = ['0'] := by
      unfold numeral
      rw [h]
      rfl
    have hbits : x.toBits.toNat = 0 := by
      obtain ⟨⟨-, -, -, hfull⟩, hbits⟩ := canonical_of_view h
      have hexponent : exponent = -1074 := hfull.resolve_right (by decide)
      rw [hbits, hexponent]
      decide
    have hzero : ofDecimal false 0 0 = x := by
      rw [ofDecimal_zero, nearest_zero, ← hbits, UInt64.ofNat_toNat, Float.ofBits_toBits]
    have hshape : Positional ['0'] ['0'] [] :=
      ⟨rfl, nofun, fun c hc => isDigit_of_mem_replicate (k := 1) hc, nofun⟩
    have hvalue : digitsValue (['0'] ++ []) = 0 := by decide
    rw [hnumeral]
    refine ⟨['0'], [], hshape, ?_⟩
    rw [hshape.readNumeral?, hshape.readDecimal?, hvalue, List.length_nil, Nat.cast_zero, neg_zero,
      hzero]
  | succ m =>
    have hnumeral : numeral x = positional (shortest (m + 1) exponent x.toBits) := by
      unfold numeral
      rw [h]
      simp only [signed, Bool.false_eq_true, if_false]
    obtain ⟨whole, fraction, hshape, hvalue⟩ :=
      exists_positional (shortest (m + 1) exponent x.toBits)
    rw [hnumeral]
    exact ⟨whole, fraction, hshape, by
      rw [hshape.readNumeral?, hshape.readDecimal?, hvalue, shortest_reads h (Nat.succ_pos m)]⟩

end Stencil.Decimal
