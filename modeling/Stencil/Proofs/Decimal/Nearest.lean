import Mathlib.Algebra.Order.Field.Power
import Mathlib.Data.Rat.Cast.Order
import Mathlib.Tactic.FieldSimp
import Mathlib.Tactic.Linarith
import Mathlib.Tactic.NormNum
import Mathlib.Tactic.Positivity
import Mathlib.Tactic.Ring
import Stencil.Decimal.Shortest

/-!
# The nearest number

`nearestBits` and `ofDecimal` compute with numerators and denominators. What they give depends on
the value only, however it is written as a fraction.

* `Canonical` is the range of mantissas and exponents of finite numbers; `canonical_of_view` says
  that those of a view lie in it and what the bits are then.
* `MantissaAt` pins the exponent of a value down; `mantissaAt_mantissaExponent` is existence,
  `MantissaAt.unique` uniqueness.
* `nearestBits_congr`: fractions of one value have the same nearest number.
* `nearestBits_exact`: the number nearest to a finite number is that number.
* `ofDecimal_mul_pow`: zeros at the end of the digits may go into the exponent.
* `ofDecimal_exactDecimal`: the exact decimal of a finite number reads back as its bits.
-/

namespace Stencil.Decimal

variable {num den num' den' mantissa : Nat} {exponent : Int}

/-! ## Finite numbers -/

/-- The mantissas and exponents of finite numbers: only at the least exponent a mantissa may have
less than 53 bits. -/
structure Canonical (mantissa : Nat) (exponent : Int) : Prop where
  lt : mantissa < 2 * hiddenBit
  least : -1074 ≤ exponent
  greatest : exponent ≤ 971
  full : exponent = -1074 ∨ hiddenBit ≤ mantissa

/-- The bits of a finite number without a sign, read as a whole number. -/
theorem canonical_of_view {x : Float} (h : view x = .finite false mantissa exponent) :
    Canonical mantissa exponent ∧
      x.toBits.toNat = (exponent + 1074).toNat * hiddenBit + mantissa := by
  unfold view View.ofBits signBit at h
  unfold hiddenBit at *
  dsimp only at h
  split at h
  · split at h <;> exact nomatch h
  · split at h <;>
    · injection h with hsign hmantissa hexponent
      have hsign := of_decide_eq_false hsign
      refine ⟨⟨?_, ?_, ?_, ?_⟩, ?_⟩ <;> unfold hiddenBit at * <;> omega

/-! ## Scaled fractions -/

theorem hiddenBit_eq : ((hiddenBit : Nat) : ℚ) = 2 ^ 52 := by
  norm_num [hiddenBit]

theorem scaleDown_pos (hnum : 0 < num) (hden : 0 < den) (q : Int) :
    0 < (scaleDown num den q).1 ∧ 0 < (scaleDown num den q).2 :=
  ⟨Nat.mul_pos hnum (Nat.pow_pos (by decide)), Nat.mul_pos hden (Nat.pow_pos (by decide))⟩

/-- A fraction is divided by a power of two, whatever the sign of the exponent. -/
theorem scaleDown_value (num den : Nat) (q : Int) :
    ((scaleDown num den q).1 : ℚ) / (scaleDown num den q).2 = num / den / 2 ^ q := by
  unfold scaleDown
  simp only [Nat.pow_eq]
  obtain ⟨n, rfl | rfl⟩ := q.eq_nat_or_neg
  · rw [Int.toNat_natCast, Int.toNat_of_nonpos (by omega), pow_zero, mul_one, Nat.cast_mul,
      Nat.cast_pow, zpow_natCast, div_div]
    norm_num
  · rw [neg_neg, Int.toNat_natCast, Int.toNat_of_nonpos (by omega), pow_zero, mul_one, Nat.cast_mul,
      Nat.cast_pow, zpow_neg, zpow_natCast, div_inv_eq_mul]
    push_cast
    ring

/-- Two fractions of one value, multiplied out. -/
theorem cross_eq (hden : 0 < den) (hden' : 0 < den') (h : (num : ℚ) / den = num' / den') :
    num * den' = num' * den := by
  have hd : (den : ℚ) ≠ 0 := Nat.cast_ne_zero.mpr (Nat.ne_of_gt hden)
  have hd' : (den' : ℚ) ≠ 0 := Nat.cast_ne_zero.mpr (Nat.ne_of_gt hden')
  exact_mod_cast (div_eq_div_iff hd hd').mp h

/-! ## The exponent of a value -/

/-- Divided by `2 ^ q` a value has a mantissa of 53 bits, or of less at the least exponent. -/
structure MantissaAt (v : ℚ) (q : Int) : Prop where
  least : -1074 ≤ q
  lt : v / 2 ^ q < 2 * 2 ^ 52
  full : q = -1074 ∨ 2 ^ 52 ≤ v / 2 ^ q

theorem div_two_zpow_succ (v : ℚ) (q : Int) : v / 2 ^ (q + 1) = v / 2 ^ q / 2 := by
  rw [zpow_add_one₀ (by norm_num), div_div]

theorem MantissaAt.le {v : ℚ} {q q' : Int} (hv : 0 < v) (h : MantissaAt v q)
    (h' : MantissaAt v q') : q ≤ q' := by
  by_contra hlt
  have hlt : q' + 1 ≤ q := by omega
  obtain hleast | hfull := h.full
  · have := h'.least
    omega
  · have hmono : v / 2 ^ q ≤ v / 2 ^ (q' + 1) :=
      div_le_div_of_nonneg_left hv.le (zpow_pos (by norm_num) _)
        (zpow_le_zpow_right₀ (by norm_num) hlt)
    rw [div_two_zpow_succ] at hmono
    linarith [h'.lt]

theorem MantissaAt.unique {v : ℚ} {q q' : Int} (hv : 0 < v) (h : MantissaAt v q)
    (h' : MantissaAt v q') : q = q' := le_antisymm (h.le hv h') (h'.le hv h)

/-- The numbers of bits of numerator and denominator give the size of a fraction up to a factor of
two. -/
theorem log2_bounds (hnum : 0 < num) (hden : 0 < den) :
    (2 : ℚ) ^ ((num.log2 : Int) - den.log2 - 1) < num / den ∧
      (num : ℚ) / den < 2 ^ ((num.log2 : Int) - den.log2 + 1) := by
  have hd : (0 : ℚ) < den := Nat.cast_pos.mpr hden
  have hn1 : (2 : ℚ) ^ num.log2 ≤ num := by exact_mod_cast Nat.log2_self_le (Nat.ne_of_gt hnum)
  have hn2 : (num : ℚ) < 2 ^ (num.log2 + 1) := by exact_mod_cast Nat.lt_log2_self
  have hd1 : (2 : ℚ) ^ den.log2 ≤ den := by exact_mod_cast Nat.log2_self_le (Nat.ne_of_gt hden)
  have hd2 : (den : ℚ) < 2 ^ (den.log2 + 1) := by exact_mod_cast Nat.lt_log2_self
  constructor
  · rw [lt_div_iff₀ hd]
    calc (2 : ℚ) ^ ((num.log2 : Int) - den.log2 - 1) * den
        < 2 ^ ((num.log2 : Int) - den.log2 - 1) * 2 ^ (den.log2 + 1) :=
          mul_lt_mul_of_pos_left hd2 (zpow_pos (by norm_num) _)
      _ = 2 ^ num.log2 := by
          rw [← zpow_natCast, ← zpow_natCast, ← zpow_add₀ (by norm_num)]
          congr 1
          push_cast
          ring
      _ ≤ num := hn1
  · rw [div_lt_iff₀ hd]
    calc (num : ℚ) < 2 ^ (num.log2 + 1) := hn2
      _ = 2 ^ ((num.log2 : Int) - den.log2 + 1) * 2 ^ den.log2 := by
          rw [← zpow_natCast, ← zpow_natCast, ← zpow_add₀ (by norm_num)]
          congr 1
          push_cast
          ring
      _ ≤ 2 ^ ((num.log2 : Int) - den.log2 + 1) * den :=
          mul_le_mul_of_nonneg_left hd1 (zpow_pos (by norm_num) _).le

/-- The exponent that is computed is the exponent of the value. -/
theorem mantissaAt_mantissaExponent (hnum : 0 < num) (hden : 0 < den) :
    MantissaAt (num / den) (mantissaExponent num den) := by
  obtain ⟨hlow, hhigh⟩ := log2_bounds hnum hden
  unfold mantissaExponent
  generalize (num.log2 : Int) - den.log2 = l at *
  dsimp only
  generalize hq : max (l - 53) (-1074) = q
  have hpos : (0 : ℚ) < 2 ^ q := zpow_pos (by norm_num) _
  have hsplit : 2 * hiddenBit ≤ (scaleDown num den q).1 / (scaleDown num den q).2 ↔
      (2 * 2 ^ 52 : ℚ) ≤ num / den / 2 ^ q := by
    have hd := (scaleDown_pos hnum hden q).2
    rw [Nat.le_div_iff_mul_le hd, ← scaleDown_value, le_div_iff₀ (Nat.cast_pos.mpr hd),
      ← hiddenBit_eq]
    exact_mod_cast Iff.rfl
  have hupper : (num / den : ℚ) / 2 ^ q < 2 * (2 * 2 ^ 52) := by
    rw [div_lt_iff₀ hpos]
    calc (num / den : ℚ) < 2 ^ (l + 1) := hhigh
      _ ≤ 2 ^ (54 + q) := zpow_le_zpow_right₀ (by norm_num) (by omega)
      _ = 2 * (2 * 2 ^ 52) * 2 ^ q := by rw [zpow_add₀ (by norm_num)]; norm_num
  split
  · next h =>
    have h := hsplit.mp h
    refine ⟨by omega, ?_, .inr ?_⟩
    · rw [div_two_zpow_succ]
      linarith
    · rw [div_two_zpow_succ]
      linarith
  · next h =>
    refine ⟨by omega, lt_of_not_ge fun hge => h (hsplit.mpr hge), ?_⟩
    obtain hcase | hcase := le_total (l - 53) (-1074)
    · exact .inl (by omega)
    · refine .inr ?_
      rw [le_div_iff₀ hpos]
      calc (2 : ℚ) ^ 52 * 2 ^ q = 2 ^ (52 + q) := by rw [zpow_add₀ (by norm_num)]; norm_num
        _ = 2 ^ (l - 1) := by congr 1; omega
        _ ≤ num / den := hlow.le

/-! ## Rounding -/

theorem roundHalfEven_mul {k n d : Nat} (hk : 0 < k) :
    roundHalfEven (k * n) (k * d) = roundHalfEven n d := by
  unfold roundHalfEven
  simp only [Nat.mul_div_mul_left n d hk, Nat.mul_mod_mul_left,
    Nat.mul_left_comm 2 k, Nat.mul_lt_mul_left hk]

theorem roundHalfEven_congr {n d n' d' : Nat} (hd : 0 < d) (hd' : 0 < d')
    (h : n * d' = n' * d) : roundHalfEven n d = roundHalfEven n' d' := by
  rw [← roundHalfEven_mul hd', ← roundHalfEven_mul (n := n') hd, Nat.mul_comm d' n, h,
    Nat.mul_comm n' d, Nat.mul_comm d' d]

theorem roundHalfEven_exact {m d : Nat} (hd : 0 < d) : roundHalfEven (m * d) d = m := by
  unfold roundHalfEven
  simp only [Nat.mul_div_cancel m hd, Nat.mul_mod_left]
  rw [if_pos (by omega)]

/-- **Fractions of one value have the same nearest number.** -/
theorem nearestBits_congr (hnum : 0 < num) (hden : 0 < den) (hnum' : 0 < num') (hden' : 0 < den')
    (h : (num : ℚ) / den = num' / den') : nearestBits num den = nearestBits num' den' := by
  have hexponent : mantissaExponent num den = mantissaExponent num' den' := by
    refine MantissaAt.unique (v := num / den) ?_ (mantissaAt_mantissaExponent hnum hden) ?_
    · exact div_pos (Nat.cast_pos.mpr hnum) (Nat.cast_pos.mpr hden)
    · rw [h]
      exact mantissaAt_mantissaExponent hnum' hden'
  unfold nearestBits
  rw [hexponent]
  generalize mantissaExponent num' den' = q
  have hd := (scaleDown_pos hnum hden q).2
  have hd' := (scaleDown_pos hnum' hden' q).2
  have hround := roundHalfEven_congr hd hd' (cross_eq hd hd' (by
    rw [scaleDown_value, scaleDown_value, h]))
  dsimp only
  rw [hround]

theorem mantissaAt_of_canonical (h : Canonical mantissa exponent) :
    MantissaAt (mantissa * 2 ^ exponent) exponent := by
  have hvalue : (mantissa * 2 ^ exponent : ℚ) / 2 ^ exponent = mantissa :=
    mul_div_cancel_right₀ _ (zpow_ne_zero _ (by norm_num))
  refine ⟨h.least, ?_, h.full.imp id fun hfull => ?_⟩
  · rw [hvalue, ← hiddenBit_eq]
    exact_mod_cast h.lt
  · rw [hvalue, ← hiddenBit_eq]
    exact_mod_cast hfull

/-- **The number nearest to a finite number is that number.** -/
theorem nearestBits_exact (h : Canonical mantissa exponent) (hnum : 0 < num) (hden : 0 < den)
    (hvalue : (num : ℚ) / den = mantissa * 2 ^ exponent) :
    nearestBits num den = (exponent + 1074).toNat * hiddenBit + mantissa := by
  have hexponent : mantissaExponent num den = exponent := by
    refine MantissaAt.unique (v := num / den) ?_ (mantissaAt_mantissaExponent hnum hden) ?_
    · exact div_pos (Nat.cast_pos.mpr hnum) (Nat.cast_pos.mpr hden)
    · rw [hvalue]
      exact mantissaAt_of_canonical h
  have hd := (scaleDown_pos hnum hden exponent).2
  have hround : roundHalfEven (scaleDown num den exponent).1 (scaleDown num den exponent).2 =
      mantissa := by
    have hcross : (scaleDown num den exponent).1 * 1 =
        mantissa * 1 * (scaleDown num den exponent).2 := by
      refine cross_eq hd Nat.one_pos ?_
      rw [scaleDown_value, hvalue, mul_div_cancel_right₀ _ (zpow_ne_zero _ (by norm_num))]
      simp
    rw [roundHalfEven_congr hd Nat.one_pos hcross, roundHalfEven_exact Nat.one_pos]
  unfold nearestBits
  dsimp only
  rw [hexponent, hround]
  obtain ⟨hlt, hleast, hgreatest, -⟩ := h
  refine Nat.min_eq_left ?_
  unfold infinityBits hiddenBit at *
  omega

/-! ## Decimals -/

theorem digitCount_le_iff {n k : Nat} (hk : 0 < k) : digitCount n ≤ k ↔ n < 10 ^ k :=
  Nat.length_toDigits_le_iff (by decide) hk

theorem digitCount_pos (n : Nat) : 0 < digitCount n := Nat.length_toDigits_pos

theorem pow_le_of_digitCount {n : Nat} (hn : 0 < n) : 10 ^ (digitCount n - 1) ≤ n := by
  obtain hone | hmore := Nat.eq_or_lt_of_le (Nat.succ_le_of_lt (digitCount_pos n))
  · rw [← hone]
    exact hn
  · have hnot := (digitCount_le_iff (n := n) (k := digitCount n - 1) (by omega)).not.mp (by omega)
    exact Nat.le_of_not_lt hnot

/-- Zeros at the end are digits. -/
theorem digitCount_mul_pow {n : Nat} (hn : 0 < n) (z : Nat) :
    digitCount (n * 10 ^ z) = digitCount n + z := by
  have hcount := digitCount_pos n
  have hlow := pow_le_of_digitCount hn
  have hhigh := (digitCount_le_iff hcount).mp (Nat.le_refl (digitCount n))
  have hupper : digitCount (n * 10 ^ z) ≤ digitCount n + z := by
    rw [digitCount_le_iff (by omega), Nat.pow_add]
    exact Nat.mul_lt_mul_of_pos_right hhigh (Nat.pow_pos (by decide))
  have hlower : ¬ digitCount (n * 10 ^ z) ≤ digitCount n + z - 1 := by
    obtain hzero | hpos := Nat.eq_zero_or_pos (digitCount n + z - 1)
    · have := digitCount_pos (n * 10 ^ z)
      omega
    · rw [digitCount_le_iff hpos, show digitCount n + z - 1 = digitCount n - 1 + z from by omega,
        Nat.pow_add, Nat.not_lt]
      exact Nat.mul_le_mul_right _ hlow
  omega

/-- The fraction that a decimal is turned into has its value. -/
theorem decimal_value (digits : Nat) (exponent : Int) :
    ((digits * Nat.pow 10 exponent.toNat : Nat) : ℚ) / (Nat.pow 10 (-exponent).toNat : Nat) =
      digits * 10 ^ exponent := by
  simp only [Nat.pow_eq]
  obtain ⟨n, rfl | rfl⟩ := exponent.eq_nat_or_neg
  · rw [Int.toNat_natCast, Int.toNat_of_nonpos (by omega)]
    norm_num
  · rw [neg_neg, Int.toNat_natCast, Int.toNat_of_nonpos (by omega), zpow_neg, zpow_natCast]
    push_cast
    rw [mul_one, div_eq_mul_inv]

theorem nearest_zero : nearest false 0 1 = Float.ofBits (UInt64.ofNat 0) := by
  unfold nearest
  dsimp only
  rw [if_pos rfl, if_neg (by decide)]

theorem ofDecimal_zero (negative : Bool) (exponent : Int) :
    ofDecimal negative 0 exponent = nearest negative 0 1 := by
  unfold ofDecimal
  dsimp only
  rw [if_pos (.inl rfl)]

/-- **Zeros at the end of the digits may go into the exponent.** -/
theorem ofDecimal_mul_pow (negative : Bool) (digits z : Nat) (exponent : Int) :
    ofDecimal negative (digits * 10 ^ z) exponent = ofDecimal negative digits (exponent + z) := by
  obtain rfl | hpos := Nat.eq_zero_or_pos digits
  · rw [Nat.zero_mul, ofDecimal_zero, ofDecimal_zero]
  have hten : 0 < 10 ^ z := Nat.pow_pos (by decide)
  have hmul : 0 < digits * 10 ^ z := Nat.mul_pos hpos hten
  have hcount : ((digitCount (digits * 10 ^ z) : Nat) : Int) + exponent =
      digitCount digits + (exponent + z) := by
    rw [digitCount_mul_pow hpos]
    push_cast
    ring
  have hpow (k : Nat) : 0 < Nat.pow 10 k := Nat.pow_pos (by decide)
  have hbits := nearestBits_congr (Nat.mul_pos hmul (hpow exponent.toNat)) (hpow (-exponent).toNat)
    (Nat.mul_pos hpos (hpow (exponent + z).toNat)) (hpow (-(exponent + z)).toNat) (by
      rw [decimal_value, decimal_value, zpow_add₀ (by norm_num), zpow_natCast]
      push_cast
      ring)
  unfold ofDecimal nearest
  dsimp only
  rw [hcount, hbits]
  simp only [Nat.ne_of_gt hmul, Nat.ne_of_gt hpos, Nat.ne_of_gt (Nat.mul_pos hmul (hpow _)),
    Nat.ne_of_gt (Nat.mul_pos hpos (hpow _)), false_or, if_false]

/-! ## The exact decimal -/

theorem exactDecimal_value (mantissa : Nat) (exponent : Int) :
    ((exactDecimal mantissa exponent).digits : ℚ) * 10 ^ (exactDecimal mantissa exponent).exponent =
      mantissa * 2 ^ exponent := by
  unfold exactDecimal
  simp only [Nat.pow_eq]
  obtain ⟨n, rfl | rfl⟩ := exponent.eq_nat_or_neg
  · rw [Int.toNat_natCast, Int.toNat_of_nonpos (by omega), Int.min_eq_right (by omega)]
    push_cast
    simp
  · rw [neg_neg, Int.toNat_natCast, Int.toNat_of_nonpos (by omega), Int.min_eq_left (by omega),
      zpow_neg, zpow_neg, zpow_natCast, zpow_natCast, show (10 : ℚ) = 2 * 5 by norm_num, mul_pow]
    push_cast
    have h5 : (5 : ℚ) ^ n ≠ 0 := pow_ne_zero _ (by norm_num)
    field_simp

/-- Three bits are less than a decimal digit. -/
theorem two_pow_le (n : Nat) : 2 ^ n ≤ 10 ^ ((n + 2) / 3) :=
  calc 2 ^ n ≤ 2 ^ (3 * ((n + 2) / 3)) := Nat.pow_le_pow_right (by decide) (by omega)
    _ = (2 ^ 3) ^ ((n + 2) / 3) := Nat.pow_mul 2 3 _
    _ ≤ 10 ^ ((n + 2) / 3) := Nat.pow_le_pow_left (by decide) _

/-- The exact decimal lies well within the range in which powers of ten are computed. -/
theorem exactDecimal_magnitude (h : Canonical mantissa exponent) (hpos : 0 < mantissa) :
    -400 ≤ (digitCount (exactDecimal mantissa exponent).digits : Int) +
        (exactDecimal mantissa exponent).exponent ∧
      (digitCount (exactDecimal mantissa exponent).digits : Int) +
        (exactDecimal mantissa exponent).exponent ≤ 400 := by
  obtain ⟨hlt, hleast, hgreatest, -⟩ := h
  have hmantissa : mantissa < 10 ^ 16 := Nat.lt_trans hlt (by norm_num [hiddenBit])
  unfold exactDecimal
  simp only [Nat.pow_eq]
  obtain ⟨n, rfl | rfl⟩ := exponent.eq_nat_or_neg
  · rw [Int.toNat_natCast, Int.toNat_of_nonpos (by omega), Int.min_eq_right (by omega), pow_zero,
      mul_one]
    have hupper : digitCount (mantissa * 2 ^ n) ≤ 16 + (n + 2) / 3 := by
      rw [digitCount_le_iff (by omega), Nat.pow_add]
      exact Nat.mul_lt_mul_of_lt_of_le hmantissa (two_pow_le n) (Nat.pow_pos (by decide))
    omega
  · rw [neg_neg, Int.toNat_natCast, Int.toNat_of_nonpos (by omega), Int.min_eq_left (by omega),
      pow_zero, mul_one]
    have hfive : 5 ^ n ≤ mantissa * 5 ^ n := Nat.le_mul_of_pos_left _ hpos
    have hupper : digitCount (mantissa * 5 ^ n) ≤ 16 + n := by
      rw [digitCount_le_iff (by omega), Nat.pow_add]
      exact Nat.mul_lt_mul_of_lt_of_le hmantissa (Nat.pow_le_pow_left (by decide) n)
        (Nat.pow_pos (by decide))
    have hlower : 0 < n - (n + 2) / 3 →
        ¬ digitCount (mantissa * 5 ^ n) ≤ n - (n + 2) / 3 := by
      intro hn
      rw [digitCount_le_iff hn, Nat.not_lt]
      refine Nat.le_trans ?_ hfive
      refine Nat.le_of_mul_le_mul_right ?_ (Nat.pow_pos (n := (n + 2) / 3) (by decide : 0 < 10))
      calc 10 ^ (n - (n + 2) / 3) * 10 ^ ((n + 2) / 3) = 5 ^ n * 2 ^ n := by
            rw [← Nat.pow_add, ← Nat.mul_pow, Nat.sub_add_cancel (by omega)]
        _ ≤ 5 ^ n * 10 ^ ((n + 2) / 3) := Nat.mul_le_mul_left _ (two_pow_le n)
    omega

/-- **The exact decimal of a finite number reads back as its bits.** -/
theorem ofDecimal_exactDecimal (h : Canonical mantissa exponent) (hpos : 0 < mantissa) :
    ofDecimal false (exactDecimal mantissa exponent).digits
        (exactDecimal mantissa exponent).exponent =
      Float.ofBits (UInt64.ofNat ((exponent + 1074).toNat * hiddenBit + mantissa)) := by
  obtain ⟨hlow, hhigh⟩ := exactDecimal_magnitude h hpos
  have hvalue := exactDecimal_value mantissa exponent
  have hdigits : 0 < (exactDecimal mantissa exponent).digits := by
    unfold exactDecimal
    exact Nat.mul_pos (Nat.mul_pos hpos (Nat.pow_pos (by decide))) (Nat.pow_pos (by decide))
  generalize (exactDecimal mantissa exponent).digits = d at *
  generalize (exactDecimal mantissa exponent).exponent = e at *
  have hpow (k : Nat) : 0 < Nat.pow 10 k := Nat.pow_pos (by decide)
  have hnum := Nat.mul_pos hdigits (hpow e.toNat)
  have hbits := nearestBits_exact h hnum (hpow (-e).toNat) (by rw [decimal_value, hvalue])
  unfold ofDecimal nearest
  dsimp only
  rw [if_neg (by omega), if_neg (by omega), if_neg (Nat.ne_of_gt hnum), if_neg (by decide), hbits]

end Stencil.Decimal
