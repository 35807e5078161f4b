import Mathlib.Tactic.NormNum
import ViewerHost.Proofs.Decimal.Rounding

namespace ViewerHost.Binary64

variable {x : Binary64} {v w : ℚ} {n s : ℕ} {e : ℤ} {negative : Bool}

theorem log_scaled (pos : 0 < w) (e : ℤ) : Int.log 2 (w * 2 ^ e) = Int.log 2 w + e := by
  have low := Int.zpow_log_le_self one_lt_two pos
  have high := Int.lt_zpow_succ_log_self one_lt_two w
  push_cast at low high
  apply log_eq_of_bounds one_lt_two
  · push_cast
    rw [zpow_add₀ two_ne_zero]
    exact mul_le_mul_of_nonneg_right low (zpow_pos two_pos e).le
  · push_cast
    rw [add_right_comm, zpow_add₀ two_ne_zero]
    exact mul_lt_mul_of_pos_right high (zpow_pos two_pos e)

/-! ## Near a number -/

theorem significand_add_one_le (x : Binary64) : (x.significand : ℚ) + 1 ≤ 2 ^ 53 := by
  exact_mod_cast significand_lt x

theorem two_pow_le_significand (normal : x.exponent ≠ -1074) : (2 : ℚ) ^ 52 ≤ x.significand := by
  exact_mod_cast hiddenBit_le_significand normal

theorem magnitudeOf_eq {u : ℤ} (nonzero : v ≠ 0) (unit : unitOf v = u)
    (rounded : roundEven (v / 2 ^ u) = s) (whole : (u + 1074).toNat * hiddenBit + s = x.magnitude)
    (finite : x.isFinite = true) : magnitudeOf v = x.magnitude := by
  have small : x.magnitude < infinityBits := by simpa [isFinite] using finite
  rw [magnitudeOf, if_neg nonzero, unit, rounded, whole, min_eq_left small.le]

theorem magnitudeOf_within (finite : x.isFinite = true) (pos : 0 < w)
    (near : |w - x.significand| < 1 / 2) (within : x.exponent = -1074 ∨ 2 ^ 52 ≤ w) :
    magnitudeOf (w * 2 ^ x.exponent) = x.magnitude := by
  have power : (0 : ℚ) < 2 ^ x.exponent := zpow_pos two_pos _
  have least := le_exponent x
  have upper : Int.log 2 w < 53 := by
    have bound := significand_add_one_le x
    have high := (abs_lt.mp near).2
    rw [← Int.lt_zpow_iff_log_lt one_lt_two pos]
    norm_num at bound ⊢
    linarith
  have unit : unitOf (w * 2 ^ x.exponent) = x.exponent := by
    rw [unitOf, log_scaled pos]
    rcases within with subnormal | above
    · omega
    · have lower : 52 ≤ Int.log 2 w := by
        rw [← Int.zpow_le_iff_le_log one_lt_two pos]
        exact_mod_cast above
      omega
  apply magnitudeOf_eq (mul_pos pos power).ne' unit _ (magnitude_eq x).symm finite
  rw [mul_div_cancel_right₀ _ power.ne']
  exact roundEven_of_near near pos.le

/-- Below the first number of a binary order the unit is half as large. -/
theorem magnitudeOf_below (finite : x.isFinite = true) (normal : x.exponent ≠ -1074)
    (leading : x.significand = hiddenBit) (near : |w - 2 ^ 52| < 1 / 4) (below : w < 2 ^ 52) :
    magnitudeOf (w * 2 ^ x.exponent) = x.magnitude := by
  obtain ⟨low, high⟩ := abs_lt.mp near
  have power : (0 : ℚ) < 2 ^ x.exponent := zpow_pos two_pos _
  have least := le_exponent x
  have pos : 0 < w := by linarith
  have log : Int.log 2 w = 51 := by
    apply log_eq_of_bounds one_lt_two
    · norm_num
      linarith
    · exact_mod_cast below
  have unit : unitOf (w * 2 ^ x.exponent) = x.exponent - 1 := by
    rw [unitOf, log_scaled pos, log]
    omega
  have quotient : w * 2 ^ x.exponent / 2 ^ (x.exponent - 1) = 2 * w := by
    rw [zpow_sub_one₀ two_ne_zero]
    field_simp
  apply magnitudeOf_eq (s := 2 * hiddenBit) (mul_pos pos power).ne' unit _ _ finite
  · rw [quotient]
    apply roundEven_of_near
    · rw [abs_lt]
      norm_num [hiddenBit]
      constructor
      · linarith
      · linarith
    · linarith
  · have up : (x.exponent + 1074).toNat = (x.exponent - 1 + 1074).toNat + 1 := by omega
    rw [magnitude_eq, leading, up]
    ring

/-- A value within a relative distance of `2 ^ (-54)` is rounded to the number. -/
theorem magnitudeOf_of_close (finite : x.isFinite = true)
    (close : |v - x.value| * 2 ^ 54 < x.value) : magnitudeOf v = x.magnitude := by
  have power : (0 : ℚ) < 2 ^ x.exponent := zpow_pos two_pos _
  have bound := significand_add_one_le x
  obtain ⟨w, rfl⟩ : ∃ w, v = w * 2 ^ x.exponent := ⟨v / 2 ^ x.exponent, by field_simp⟩
  have near : |w - x.significand| * 2 ^ 54 < x.significand := by
    rw [value, ← sub_mul, abs_mul, abs_of_pos power, mul_right_comm] at close
    exact lt_of_mul_lt_mul_right close power.le
  rw [← lt_div_iff₀ (by positivity)] at near
  obtain ⟨low, high⟩ := abs_lt.mp near
  by_cases within : x.exponent = -1074 ∨ 2 ^ 52 ≤ w
  · apply magnitudeOf_within finite _ _ within
    · linarith
    · exact lt_of_lt_of_le near (by linarith)
  · obtain ⟨normal, below⟩ := not_or.mp within
    rw [not_le] at below
    -- The significand lies less than one half above the first of its order.
    have least := two_pow_le_significand normal
    have short : (x.significand : ℚ) < 2 ^ 52 + 1 := by linarith
    have leading : x.significand = hiddenBit := by
      have least' : 2 ^ 52 ≤ x.significand := by exact_mod_cast least
      have short' : x.significand < 2 ^ 52 + 1 := by exact_mod_cast short
      unfold hiddenBit
      omega
    have size : (x.significand : ℚ) = 2 ^ 52 := by
      rw [leading]
      norm_num [hiddenBit]
    rw [size] at near
    exact magnitudeOf_below finite normal leading (lt_of_lt_of_eq near (by norm_num)) below

/-! ## Outside the range -/

theorem magnitudeOf_large (large : 2 ^ (1024 : ℤ) ≤ v) : magnitudeOf v = infinityBits := by
  have pos : 0 < v := lt_of_lt_of_le (zpow_pos two_pos _) large
  have log : 1024 ≤ Int.log 2 v := by
    rw [← Int.zpow_le_iff_le_log one_lt_two pos, Nat.cast_ofNat]
    exact large
  have unit : unitOf v = Int.log 2 v - 52 := by
    rw [unitOf]
    omega
  have rounded : hiddenBit ≤ roundEven (v / 2 ^ unitOf v) := by
    apply le_roundEven
    rw [le_div_iff₀ (zpow_pos two_pos _), unit]
    have low := Int.zpow_log_le_self one_lt_two pos
    have split : (2 : ℚ) ^ Int.log 2 v = 2 ^ (52 : ℤ) * 2 ^ (Int.log 2 v - 52) := by
      rw [← zpow_add₀ two_ne_zero]
      congr 1
      omega
    push_cast at low
    rw [split] at low
    exact_mod_cast low
  have count : 2046 * hiddenBit ≤ (unitOf v + 1074).toNat * hiddenBit :=
    Nat.mul_le_mul_right _ (by omega)
  have limit : infinityBits = 2046 * hiddenBit + hiddenBit := by decide
  rw [magnitudeOf, if_neg pos.ne', min_eq_right]
  omega

theorem magnitudeOf_tiny (pos : 0 ≤ v) (tiny : v < 2 ^ (-1075 : ℤ)) : magnitudeOf v = 0 := by
  by_cases zero : v = 0
  · rw [magnitudeOf, if_pos zero]
  · have pos' : 0 < v := lt_of_le_of_ne pos (Ne.symm zero)
    have log : Int.log 2 v < -1075 := by
      rw [← Int.lt_zpow_iff_log_lt one_lt_two pos']
      exact_mod_cast tiny
    have unit : unitOf v = -1074 := by
      rw [unitOf]
      omega
    have rounded : roundEven (v / 2 ^ (-1074 : ℤ)) = 0 := by
      have half : (2 : ℚ) ^ (-1075 : ℤ) = 1 / 2 * 2 ^ (-1074 : ℤ) := by
        rw [show (-1075 : ℤ) = -1 + -1074 from rfl, zpow_add₀ two_ne_zero]
        norm_num
      have power : (0 : ℚ) < 2 ^ (-1074 : ℤ) := zpow_pos two_pos _
      have scaled : 0 ≤ v / 2 ^ (-1074 : ℤ) := div_nonneg pos power.le
      apply roundEven_of_near _ scaled
      rw [Nat.cast_zero, sub_zero, abs_of_nonneg scaled, div_lt_iff₀ power, ← half]
      exact tiny
    rw [magnitudeOf, if_neg zero, unit, rounded]
    rfl

/-! ## Decimals -/

/-- The cases that spare the arithmetic come to what the arithmetic would have come to. -/
theorem ofDecimal_eq (negative : Bool) (digits : ℕ) (power : ℤ) :
    ofDecimal negative digits power = nearest negative (digits * 10 ^ power) := by
  unfold ofDecimal
  split
  · rename_i none
    rw [none, Nat.cast_zero, zero_mul, nearest, magnitudeOf, if_pos rfl, zero]
  · rename_i some
    have low : ((2 ^ digits.log2 : ℕ) : ℚ) ≤ digits := Nat.cast_le.mpr (Nat.log2_self_le some)
    have high : (digits : ℚ) < (2 ^ (digits.log2 + 1) : ℕ) := Nat.cast_lt.mpr Nat.lt_log2_self
    have eight : ∀ k : ℤ, (2 : ℚ) ^ (3 * k) = 8 ^ k := by
      intro k
      rw [zpow_mul]
      norm_num
    rw [Nat.cast_pow, Nat.cast_ofNat, ← zpow_natCast] at low high
    split
    · rename_i large
      have above : (8 : ℚ) ^ power ≤ 10 ^ power := by
        obtain ⟨k, rfl⟩ := Int.eq_ofNat_of_zero_le large.2
        rw [zpow_natCast, zpow_natCast]
        exact pow_le_pow_left₀ (by norm_num) (by norm_num) k
      rw [nearest, magnitudeOf_large, infinity]
      calc (2 : ℚ) ^ (1024 : ℤ)
          ≤ 2 ^ ((digits.log2 : ℤ) + 3 * power) := zpow_le_zpow_right₀ one_le_two large.1
        _ = 2 ^ (digits.log2 : ℤ) * 8 ^ power := by rw [zpow_add₀ two_ne_zero, eight]
        _ ≤ digits * 10 ^ power :=
          mul_le_mul low above (zpow_pos (by norm_num) _).le (Nat.cast_nonneg _)
    · split
      · rename_i tiny
        have below : (10 : ℚ) ^ power ≤ 8 ^ power := by
          obtain ⟨k, rfl⟩ : ∃ k : ℕ, power = -k := ⟨(-power).toNat, by omega⟩
          rw [zpow_neg, zpow_neg, zpow_natCast, zpow_natCast]
          exact inv_anti₀ (by positivity) (pow_le_pow_left₀ (by norm_num) (by norm_num) k)
        rw [nearest, magnitudeOf_tiny, zero]
        · exact mul_nonneg (Nat.cast_nonneg _) (zpow_pos (by norm_num) _).le
        · calc (digits : ℚ) * 10 ^ power
              ≤ 2 ^ ((digits.log2 + 1 : ℕ) : ℤ) * 8 ^ power :=
                mul_le_mul high.le below (zpow_pos (by norm_num) _).le (zpow_pos two_pos _).le
            _ = 2 ^ ((digits.log2 : ℤ) + 1 + 3 * power) := by
              rw [zpow_add₀ two_ne_zero _ (3 * power), eight, Nat.cast_succ]
            _ < 2 ^ (-1075 : ℤ) := zpow_lt_zpow_right₀ one_lt_two tiny.1
      · have split := zpow_eq_div (b := 10) (by norm_num) power
        rw [Nat.cast_ofNat] at split
        simp only [Nat.pow_eq]
        rw [ofRatio_eq (Nat.pow_pos (by norm_num)).ne', split, Nat.cast_mul, mul_div_assoc]

example : ofDecimal false 5 (-324) = ⟨1⟩ := by decide +kernel
example : ofDecimal false 17976931348623157 292 = ⟨0x7FEFFFFFFFFFFFFF⟩ := by decide +kernel

/-! ## Products and quotients -/

theorem scaleUp_eq (x factor : Binary64) :
    x.scaleUp factor = nearest x.isNegative (x.value * factor.value) := by
  rw [scaleUp, ofRatio_eq (Nat.mul_ne_zero (ratio_den_ne_zero x) (ratio_den_ne_zero factor)),
    ← ratio_eq_value, ← ratio_eq_value, Nat.cast_mul, Nat.cast_mul, div_mul_div_comm]

theorem scaleDown_eq {divisor : Binary64} (x : Binary64) (nonzero : divisor.value ≠ 0) :
    x.scaleDown divisor = nearest x.isNegative (x.value / divisor.value) := by
  have num0 : divisor.ratio.1 ≠ 0 := by
    intro none
    rw [← ratio_eq_value, none, Nat.cast_zero, zero_div] at nonzero
    exact nonzero rfl
  rw [scaleDown, ofRatio_eq (Nat.mul_ne_zero (ratio_den_ne_zero x) num0), ← ratio_eq_value,
    ← ratio_eq_value, Nat.cast_mul, Nat.cast_mul, div_div_div_eq]

/-! ## Whole numbers -/

theorem value_ofMagnitude (low : -1074 ≤ e) (high : e ≤ 971) (normal : hiddenBit ≤ s)
    (short : s < 2 * hiddenBit) :
    (ofMagnitude negative ((e + 1074).toNat * hiddenBit + s)).value = s * 2 ^ e := by
  obtain ⟨k, rfl⟩ : ∃ k : ℕ, e = k - 1074 := ⟨(e + 1074).toNat, by omega⟩
  obtain ⟨part, rfl⟩ : ∃ part, s = hiddenBit + part := ⟨s - hiddenBit, by omega⟩
  have word : ((k : ℤ) - 1074 + 1074).toNat * hiddenBit + (hiddenBit + part) =
      (k + 1) * hiddenBit + part := by
    rw [sub_add_cancel, Int.toNat_natCast]
    ring
  have small : (k + 1) * hiddenBit + part < 0x8000000000000000 := by
    have order : (k + 1) * hiddenBit ≤ 2046 * hiddenBit := Nat.mul_le_mul_right _ (by omega)
    unfold hiddenBit at *
    omega
  have order : ((k + 1) * hiddenBit + part) / hiddenBit = k + 1 := by
    rw [mul_comm, Nat.mul_add_div (by decide), Nat.div_eq_of_lt (by omega), add_zero]
  have rest : ((k + 1) * hiddenBit + part) % hiddenBit = part := by
    rw [mul_comm, Nat.mul_add_mod, Nat.mod_eq_of_lt (by omega)]
  have shift : ((k + 1 : ℕ) : ℤ) - 1075 = k - 1074 := by omega
  rw [word, value, significand, exponent, magnitude_ofMagnitude small, order, rest,
    if_neg k.succ_ne_zero, if_neg k.succ_ne_zero, shift, add_comm part]

theorem value_ofNat (short : n < 2 ^ 53) : (ofNat negative n).value = n := by
  rw [ofNat_eq]
  by_cases zero : n = 0
  · rw [zero, Nat.cast_zero, nearest, magnitudeOf, if_pos rfl, value_eq_zero_iff, isZero,
      magnitude_ofMagnitude (by norm_num)]
    rfl
  · have nonzero : (n : ℚ) ≠ 0 := Nat.cast_ne_zero.mpr zero
    have order : Nat.log 2 n < 53 := Nat.log_lt_of_lt_pow zero short
    have unit : unitOf n = -(52 - Nat.log 2 n : ℕ) := by
      rw [unitOf, Int.log_natCast]
      omega
    have quotient : (n : ℚ) / 2 ^ (-(52 - Nat.log 2 n : ℕ) : ℤ) =
        (n * 2 ^ (52 - Nat.log 2 n) : ℕ) := by
      rw [zpow_neg, zpow_natCast, div_inv_eq_mul]
      push_cast
      rfl
    have rounded : roundEven (n / 2 ^ unitOf n) = n * 2 ^ (52 - Nat.log 2 n) := by
      rw [unit, quotient]
      exact roundEven_of_near (by norm_num) (Nat.cast_nonneg _)
    have low : hiddenBit ≤ n * 2 ^ (52 - Nat.log 2 n) := by
      have least := Nat.mul_le_mul_right (2 ^ (52 - Nat.log 2 n)) (Nat.pow_log_le_self 2 zero)
      rw [← pow_add, show Nat.log 2 n + (52 - Nat.log 2 n) = 52 by omega] at least
      exact least
    have high : n * 2 ^ (52 - Nat.log 2 n) < 2 * hiddenBit := by
      have most := Nat.mul_lt_mul_of_pos_right (Nat.lt_pow_succ_log_self one_lt_two n)
        (Nat.two_pow_pos (52 - Nat.log 2 n))
      rw [← pow_add, show (Nat.log 2 n).succ + (52 - Nat.log 2 n) = 53 by omega] at most
      exact most
    have finite : (unitOf n + 1074).toNat * hiddenBit + n * 2 ^ (52 - Nat.log 2 n) ≤
        infinityBits := by
      have count : (unitOf n + 1074).toNat * hiddenBit ≤ 1074 * hiddenBit :=
        Nat.mul_le_mul_right _ (by omega)
      have limit : infinityBits = 2047 * hiddenBit := by decide
      omega
    rw [nearest, magnitudeOf, if_neg nonzero, rounded, min_eq_left finite,
      value_ofMagnitude (by omega) (by omega) low high, ← quotient, ← unit,
      div_mul_cancel₀ _ (zpow_ne_zero _ two_ne_zero)]

end ViewerHost.Binary64
