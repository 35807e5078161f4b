import Mathlib.Algebra.Order.Field.Power
import Mathlib.Algebra.Order.Floor.Semifield
import Mathlib.Data.Int.Log
import Mathlib.Data.Rat.Floor
import Mathlib.Tactic.FieldSimp
import Mathlib.Tactic.Linarith
import Mathlib.Tactic.Positivity
import Mathlib.Tactic.Ring
import ViewerHost.Decimal.Binary64

namespace ViewerHost

theorem zpow_eq_div {b : ℕ} (pos : 0 < b) (k : ℤ) :
    (b : ℚ) ^ k = (b ^ k.toNat : ℕ) / (b ^ (-k).toNat : ℕ) := by
  have nonzero : (b : ℚ) ≠ 0 := by positivity
  rw [Nat.cast_pow, Nat.cast_pow, eq_div_iff (by positivity), ← zpow_natCast, ← zpow_natCast,
    ← zpow_add₀ nonzero]
  congr 1
  omega

theorem log_eq_of_bounds {b : ℕ} (base : 1 < b) {v : ℚ} {k : ℤ} (low : (b : ℚ) ^ k ≤ v)
    (high : v < (b : ℚ) ^ (k + 1)) : Int.log b v = k := by
  have pos : 0 < v := lt_of_lt_of_le (zpow_pos (by positivity) k) low
  have above := (Int.zpow_le_iff_le_log base pos).mp low
  have below := (Int.lt_zpow_iff_log_lt base pos).mp high
  omega

namespace Binary64

variable {num den num' den' n m : ℕ} {negative : Bool} {v : ℚ}

/-! ## The binary order of a quotient -/

theorem floorLog2_eq (num0 : num ≠ 0) (den0 : den ≠ 0) :
    floorLog2 num den = Int.log 2 ((num : ℚ) / den) := by
  have denPos : (0 : ℚ) < den := by positivity
  have numLow : ((2 ^ num.log2 : ℕ) : ℚ) ≤ num := Nat.cast_le.mpr (Nat.log2_self_le num0)
  have numHigh : (num : ℚ) < (2 ^ (num.log2 + 1) : ℕ) := Nat.cast_lt.mpr Nat.lt_log2_self
  have denLow : ((2 ^ den.log2 : ℕ) : ℚ) ≤ den := Nat.cast_le.mpr (Nat.log2_self_le den0)
  have denHigh : (den : ℚ) < (2 ^ (den.log2 + 1) : ℕ) := Nat.cast_lt.mpr Nat.lt_log2_self
  push_cast at numLow numHigh denLow denHigh
  set k : ℤ := (num.log2 : ℤ) - den.log2 with hk
  -- The orders of the two integers leave two candidates for the order of the quotient.
  have low : (2 : ℚ) ^ (k - 1) ≤ num / den := by
    rw [le_div_iff₀ denPos]
    calc (2 : ℚ) ^ (k - 1) * den ≤ 2 ^ (k - 1) * 2 ^ (den.log2 + 1) :=
          mul_le_mul_of_nonneg_left denHigh.le (by positivity)
      _ = 2 ^ num.log2 := by
        rw [← zpow_natCast, ← zpow_natCast, ← zpow_add₀ two_ne_zero]
        congr 1
        push_cast
        omega
      _ ≤ num := numLow
  have high : (num : ℚ) / den < 2 ^ (k + 1) := by
    rw [div_lt_iff₀ denPos]
    calc (num : ℚ) < 2 ^ (num.log2 + 1) := numHigh
      _ = 2 ^ (k + 1) * 2 ^ den.log2 := by
        rw [← zpow_natCast, ← zpow_natCast, ← zpow_add₀ two_ne_zero]
        congr 1
        push_cast
        omega
      _ ≤ 2 ^ (k + 1) * den := mul_le_mul_of_nonneg_left denLow (by positivity)
  have reaches : den * Nat.pow 2 k.toNat ≤ num * Nat.pow 2 (-k).toNat ↔
      (2 : ℚ) ^ k ≤ num / den := by
    have split := zpow_eq_div two_pos k
    push_cast at split
    rw [split, div_le_div_iff₀ (by positivity) denPos, mul_comm den]
    norm_cast
  unfold floorLog2
  dsimp only
  rw [← hk]
  split
  · rename_i fits
    exact (log_eq_of_bounds one_lt_two (by exact_mod_cast reaches.mp fits)
      (by exact_mod_cast high)).symm
  · rename_i short
    have below := not_le.mp (mt reaches.mpr short)
    refine (log_eq_of_bounds one_lt_two (by exact_mod_cast low) ?_).symm
    rw [sub_add_cancel]
    exact_mod_cast below

/-! ## The nearest integer -/

def roundEven (v : ℚ) : ℕ :=
  if v - ⌊v⌋₊ < 1 / 2 then ⌊v⌋₊
  else if 1 / 2 < v - ⌊v⌋₊ then ⌊v⌋₊ + 1
  else ⌊v⌋₊ + ⌊v⌋₊ % 2

theorem div_sub_natDiv (num : ℕ) (den0 : den ≠ 0) :
    (num : ℚ) / den - (num / den : ℕ) = (num % den : ℕ) / den := by
  have split : (num : ℚ) = den * (num / den : ℕ) + (num % den : ℕ) := by
    exact_mod_cast (Nat.div_add_mod num den).symm
  rw [div_sub' (Nat.cast_ne_zero.mpr den0), sub_eq_of_eq_add' split]

theorem roundQuotient_eq (den0 : den ≠ 0) :
    roundQuotient num den = roundEven ((num : ℚ) / den) := by
  have denPos : (0 : ℚ) < den := by positivity
  have less : (num : ℚ) / den - (num / den : ℕ) < 1 / 2 ↔ 2 * (num % den) < den := by
    rw [div_sub_natDiv num den0, div_lt_div_iff₀ denPos two_pos, one_mul, mul_comm]
    norm_cast
  have more : 1 / 2 < (num : ℚ) / den - (num / den : ℕ) ↔ den < 2 * (num % den) := by
    rw [div_sub_natDiv num den0, div_lt_div_iff₀ two_pos denPos, one_mul, mul_comm]
    norm_cast
  simp only [roundEven, Nat.floor_div_eq_div, less, more, roundQuotient]

theorem roundEven_of_near (near : |v - n| < 1 / 2) (pos : 0 ≤ v) : roundEven v = n := by
  obtain ⟨low, high⟩ := abs_lt.mp near
  rcases lt_or_ge v n with below | above
  · -- The number is less than one half below, so its whole part is the one before.
    obtain ⟨k, rfl⟩ : ∃ k, n = k + 1 := by
      refine ⟨n - 1, ?_⟩
      have : (0 : ℚ) < n := lt_of_le_of_lt pos below
      have : 0 < n := by exact_mod_cast this
      omega
    push_cast at low high below
    have whole : ⌊v⌋₊ = k := (Nat.floor_eq_iff pos).mpr ⟨by linarith, by linarith⟩
    rw [roundEven, whole, if_neg (by linarith), if_pos (by linarith)]
  · have whole : ⌊v⌋₊ = n := (Nat.floor_eq_iff pos).mpr ⟨above, by linarith⟩
    rw [roundEven, whole, if_pos (by linarith)]

theorem le_roundEven (low : (n : ℚ) ≤ v) : n ≤ roundEven v := by
  have whole : n ≤ ⌊v⌋₊ := Nat.le_floor low
  unfold roundEven
  split
  · exact whole
  · split
    · omega
    · omega

/-! ## The nearest number -/

def unitOf (v : ℚ) : ℤ := max (Int.log 2 v - 52) (-1074)

def magnitudeOf (v : ℚ) : ℕ :=
  if v = 0 then 0
  else min ((unitOf v + 1074).toNat * hiddenBit + roundEven (v / 2 ^ unitOf v)) infinityBits

def nearest (negative : Bool) (v : ℚ) : Binary64 := ofMagnitude negative (magnitudeOf v)

theorem ofRatio_eq (den0 : den ≠ 0) : ofRatio negative num den = nearest negative (num / den) := by
  by_cases num0 : num = 0
  · simp [ofRatio, nearest, magnitudeOf, zero, num0]
  · have nonzero : (num : ℚ) / den ≠ 0 := by positivity
    have order : max (floorLog2 num den - 52) (-1074) = unitOf (num / den) := by
      rw [floorLog2_eq num0 den0, unitOf]
    have split := zpow_eq_div two_pos (unitOf (num / den))
    unfold ofRatio nearest magnitudeOf
    rw [if_neg num0, if_neg nonzero]
    simp only [Nat.pow_eq, order]
    generalize unitOf (num / den) = u at *
    rw [roundQuotient_eq (Nat.mul_ne_zero den0 (Nat.two_pow_pos _).ne')]
    have value : ((num * 2 ^ (-u).toNat : ℕ) : ℚ) / (den * 2 ^ u.toNat : ℕ) =
        num / den / 2 ^ u := by
      push_cast at split ⊢
      rw [split]
      field_simp
    rw [value]

theorem ofNat_eq : ofNat negative n = nearest negative n := by
  rw [ofNat, ofRatio_eq one_ne_zero, Nat.cast_one, div_one]

/-! ## Values -/

def value (x : Binary64) : ℚ := x.significand * 2 ^ x.exponent

theorem ratio_den_ne_zero (x : Binary64) : x.ratio.2 ≠ 0 := (Nat.two_pow_pos _).ne'

theorem ratio_eq_value (x : Binary64) : (x.ratio.1 : ℚ) / x.ratio.2 = x.value := by
  have split := zpow_eq_div two_pos x.exponent
  push_cast at split
  rw [value, split, ratio]
  simp only [Nat.pow_eq]
  push_cast
  ring

theorem magnitude_eq (x : Binary64) :
    x.magnitude = (x.exponent + 1074).toNat * hiddenBit + x.significand := by
  have split := Nat.div_add_mod x.magnitude hiddenBit
  unfold exponent significand
  split
  · rename_i subnormal
    rw [subnormal] at split
    simpa using split.symm
  · rename_i normal
    obtain ⟨k, order⟩ := Nat.exists_eq_succ_of_ne_zero normal
    have shift : ((x.magnitude / hiddenBit : ℕ) : ℤ) - 1075 + 1074 = k := by omega
    rw [shift, Int.toNat_natCast]
    rw [order, Nat.mul_succ] at split
    rw [mul_comm]
    omega

theorem significand_lt (x : Binary64) : x.significand < 2 * hiddenBit := by
  have part : x.magnitude % hiddenBit < hiddenBit := Nat.mod_lt _ (by decide)
  unfold significand
  split
  · omega
  · omega

theorem le_exponent (x : Binary64) : -1074 ≤ x.exponent := by
  unfold exponent
  split
  · omega
  · rename_i normal
    have biased : 0 < x.magnitude / hiddenBit := Nat.pos_of_ne_zero normal
    generalize x.magnitude / hiddenBit = order at *
    omega

theorem exponent_le {x : Binary64} (finite : x.isFinite = true) : x.exponent ≤ 971 := by
  have small : x.magnitude < infinityBits := by simpa [isFinite] using finite
  have order : x.magnitude / hiddenBit < 2047 := (Nat.div_lt_iff_lt_mul (by decide)).mpr small
  unfold exponent
  split
  · omega
  · generalize x.magnitude / hiddenBit = order at *
    omega

theorem hiddenBit_le_significand {x : Binary64} (normal : x.exponent ≠ -1074) :
    hiddenBit ≤ x.significand := by
  unfold exponent at normal
  unfold significand
  split
  · rename_i subnormal
    simp [subnormal] at normal
  · omega

theorem value_eq_zero_iff {x : Binary64} : x.value = 0 ↔ x.isZero = true := by
  have power : (2 : ℚ) ^ x.exponent ≠ 0 := zpow_ne_zero _ two_ne_zero
  rw [value, mul_eq_zero, or_iff_left power, Nat.cast_eq_zero, isZero, beq_iff_eq]
  unfold significand
  split
  · rename_i subnormal
    have split := Nat.div_add_mod x.magnitude hiddenBit
    rw [subnormal] at split
    omega
  · rename_i normal
    have bit : 0 < hiddenBit := by decide
    constructor
    · omega
    · intro zero
      exact absurd (by simp [zero]) normal

theorem value_nonneg (x : Binary64) : 0 ≤ x.value :=
  mul_nonneg (Nat.cast_nonneg _) (zpow_pos two_pos _).le

/-! ## Sign and magnitude -/

theorem toNat_ofMagnitude (small : m < 0x8000000000000000) :
    (ofMagnitude negative m).bits.toNat = m + if negative then 0x8000000000000000 else 0 := by
  rw [ofMagnitude, UInt64.toNat_ofNat']
  split
  · omega
  · omega

theorem magnitude_ofMagnitude (small : m < 0x8000000000000000) :
    (ofMagnitude negative m).magnitude = m := by
  rw [magnitude, toNat_ofMagnitude small]
  split
  · omega
  · omega

theorem isNegative_ofMagnitude (small : m < 0x8000000000000000) :
    (ofMagnitude negative m).isNegative = negative := by
  rw [isNegative, toNat_ofMagnitude small]
  cases negative with
  | true => simp
  | false => simpa using small

theorem ofMagnitude_magnitude (x : Binary64) : ofMagnitude x.isNegative x.magnitude = x := by
  have word := x.bits.toNat_lt
  cases x with
  | mk bits =>
      unfold ofMagnitude magnitude isNegative
      congr 1
      rw [← UInt64.toNat_inj, UInt64.toNat_ofNat']
      dsimp only at word ⊢
      by_cases negative : 0x8000000000000000 ≤ bits.toNat
      · simp only [negative, decide_true, if_true]
        omega
      · simp only [negative, decide_false, Bool.false_eq_true, if_false]
        omega

theorem magnitudeOf_le (v : ℚ) : magnitudeOf v ≤ infinityBits := by
  unfold magnitudeOf
  split
  · exact Nat.zero_le _
  · exact Nat.min_le_right _ _

theorem magnitude_nearest : (nearest negative v).magnitude = magnitudeOf v :=
  magnitude_ofMagnitude (lt_of_le_of_lt (magnitudeOf_le v) (by decide))

theorem isNegative_nearest : (nearest negative v).isNegative = negative :=
  isNegative_ofMagnitude (lt_of_le_of_lt (magnitudeOf_le v) (by decide))

end Binary64

end ViewerHost
