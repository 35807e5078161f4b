import ViewerHost.Decimal.Shortest
import ViewerHost.Proofs.Decimal.Nearest

/-!
The shortest decimal of a number. Seventeen digits are always enough: on the grid of that many
digits the nearest point lies so near that it is rounded back to the number.
-/

namespace ViewerHost

open Binary64

namespace Decimal

variable {x : Binary64} {tie : TieRule} {digits n : ℕ} {power : ℤ} {d : Decimal} {v : ℚ}

def value (d : Decimal) : ℚ := d.digits * 10 ^ d.power

theorem strip_spec (digits : ℕ) (power : ℤ) (some : digits ≠ 0) :
    (strip digits power).digits ≠ 0 ∧ (strip digits power).digits ≤ digits ∧
      (strip digits power).value = digits * 10 ^ power := by
  fun_induction strip digits power with
  | case1 power => exact absurd rfl some
  | case2 digits power _ ends ih =>
      have tenfold : digits = 10 * (digits / 10) := by omega
      obtain ⟨some', shorter, same⟩ := ih (by omega)
      refine ⟨some', by omega, ?_⟩
      rw [same, zpow_add_one₀ (by norm_num)]
      conv_rhs => rw [tenfold, Nat.cast_mul]
      push_cast
      ring
  | case3 digits power _ _ => exact ⟨some, le_refl _, rfl⟩

/-! ## The decimal order -/

def estimate (order : ℤ) : ℤ := (order * 30103).fdiv 100000

/-- The largest power of ten below a power of two is estimated with an error of one at most. -/
theorem estimate_near : ∀ i < 2200,
    10 ^ (estimate ((i : ℕ) - 1100) - 1).toNat * 2 ^ (-((i : ℤ) - 1100)).toNat ≤
      2 ^ ((i : ℤ) - 1100).toNat * 10 ^ (-(estimate (i - 1100) - 1)).toNat ∧
    2 ^ ((i : ℤ) - 1100 + 1).toNat * 10 ^ (-(estimate (i - 1100) + 2)).toNat ≤
      10 ^ (estimate (i - 1100) + 2).toNat * 2 ^ (-((i : ℤ) - 1100 + 1)).toNat := by
  decide +kernel

theorem zpow_le_zpow_iff {a b : ℕ} (posA : 0 < a) (posB : 0 < b) (i j : ℤ) :
    (a : ℚ) ^ i ≤ (b : ℚ) ^ j ↔ a ^ i.toNat * b ^ (-j).toNat ≤ b ^ j.toNat * a ^ (-i).toNat := by
  have dens : ∀ {c : ℕ} (k : ℕ), 0 < c → (0 : ℚ) < (c ^ k : ℕ) := by
    intro c k pos
    exact_mod_cast Nat.pow_pos pos
  rw [zpow_eq_div posA, zpow_eq_div posB, div_le_div_iff₀ (dens _ posA) (dens _ posB)]
  norm_cast

theorem floorLog10_eq {num den : ℕ} (num0 : num ≠ 0) (den0 : den ≠ 0)
    (low : -1100 ≤ Int.log 2 ((num : ℚ) / den)) (high : Int.log 2 ((num : ℚ) / den) < 1100) :
    floorLog10 num den = Int.log 10 ((num : ℚ) / den) := by
  have denPos : (0 : ℚ) < den := by positivity
  have pos : (0 : ℚ) < (num : ℚ) / den := by positivity
  have reaches : ∀ k : ℤ, den * Nat.pow 10 k.toNat ≤ num * Nat.pow 10 (-k).toNat ↔
      k ≤ Int.log 10 ((num : ℚ) / den) := by
    intro k
    have split := zpow_eq_div (b := 10) (by norm_num) k
    push_cast at split
    rw [← Int.zpow_le_iff_le_log (by norm_num) pos]
    push_cast
    rw [split, div_le_div_iff₀ (by positivity) denPos, mul_comm den]
    norm_cast
  unfold floorLog10
  simp only [floorLog2_eq num0 den0, decide_eq_true_eq, reaches]
  have below := Int.zpow_log_le_self one_lt_two pos
  have above := Int.lt_zpow_succ_log_self one_lt_two ((num : ℚ) / den)
  generalize Int.log 2 ((num : ℚ) / den) = order at *
  obtain ⟨i, rfl⟩ : ∃ i : ℕ, order = (i : ℤ) - 1100 := ⟨(order + 1100).toNat, by omega⟩
  have near := estimate_near i (by omega)
  rw [← estimate]
  generalize estimate (i - 1100) = guess at *
  rw [← zpow_le_zpow_iff (by norm_num) (by norm_num),
    ← zpow_le_zpow_iff (by norm_num) (by norm_num)] at near
  have least : guess - 1 ≤ Int.log 10 ((num : ℚ) / den) := by
    rw [← Int.zpow_le_iff_le_log (by norm_num) pos]
    exact near.1.trans below
  have most : Int.log 10 ((num : ℚ) / den) < guess + 2 := by
    rw [← Int.lt_zpow_iff_log_lt (by norm_num) pos]
    exact lt_of_lt_of_le above near.2
  split
  · omega
  · split
    · omega
    · omega

theorem log_value (finite : x.isFinite = true) (nonzero : x.isZero = false) :
    -1100 ≤ Int.log 2 x.value ∧ Int.log 2 x.value < 1100 := by
  have some : x.value ≠ 0 := by
    rw [Ne, value_eq_zero_iff, nonzero]
    exact Bool.false_ne_true
  have some' : x.significand ≠ 0 := by
    intro none
    exact some (by rw [Binary64.value, none, Nat.cast_zero, zero_mul])
  have pos : (0 : ℚ) < x.significand := by positivity
  have order : Nat.log 2 x.significand < 53 := Nat.log_lt_of_lt_pow some' (significand_lt x)
  rw [Binary64.value, log_scaled pos, Int.log_natCast]
  have low := le_exponent x
  have high := exponent_le finite
  omega

/-! ## The points of a grid -/

/-- A decimal of at most seventeen digits that is rounded to a number. -/
structure Spells (d : Decimal) (x : Binary64) : Prop where
  some : d.digits ≠ 0
  short : d.digits ≤ 10 ^ 17
  reads : magnitudeOf d.value = x.magnitude

theorem readsBack_iff :
    readsBack x digits power = true ↔ magnitudeOf (digits * 10 ^ power) = x.magnitude := by
  rw [readsBack, ofDecimal_eq, beq_iff_eq, magnitude_nearest]

theorem spells_strip (nonzero : x.isZero = false) (short : digits ≤ 10 ^ 17)
    (reads : readsBack x digits power = true) : (strip digits power).Spells x := by
  rw [readsBack_iff] at reads
  have some : digits ≠ 0 := by
    rintro rfl
    rw [Nat.cast_zero, zero_mul, magnitudeOf, if_pos rfl] at reads
    rw [isZero, ← reads] at nonzero
    cases nonzero
  obtain ⟨some', shorter, same⟩ := strip_spec digits power some
  exact ⟨some', shorter.trans short, by rw [same, reads]⟩

theorem grid_quotient (x : Binary64) (power : ℤ) :
    ((x.ratio.1 * Nat.pow 10 (-power).toNat : ℕ) : ℚ) / (x.ratio.2 * Nat.pow 10 power.toNat : ℕ) =
      x.value / 10 ^ power := by
  have split := zpow_eq_div (b := 10) (by norm_num) power
  have den0 : (x.ratio.2 : ℚ) ≠ 0 := Nat.cast_ne_zero.mpr (ratio_den_ne_zero x)
  simp only [Nat.pow_eq]
  push_cast at split ⊢
  rw [split, ← ratio_eq_value]
  field_simp

theorem near_below {num den : ℕ} (den0 : den ≠ 0) (less : 2 * (num % den) ≤ den) :
    |(num : ℚ) / den - (num / den : ℕ)| ≤ 1 / 2 := by
  have denPos : (0 : ℚ) < den := by positivity
  rw [div_sub_natDiv num den0, abs_of_nonneg (by positivity), div_le_div_iff₀ denPos two_pos,
    one_mul, mul_comm]
  exact_mod_cast less

theorem near_above {num den : ℕ} (den0 : den ≠ 0) (more : den ≤ 2 * (num % den)) :
    |(num : ℚ) / den - (num / den + 1 : ℕ)| ≤ 1 / 2 := by
  have denPos : (0 : ℚ) < den := by positivity
  have part := div_sub_natDiv num den0
  have most : ((num % den : ℕ) : ℚ) / den ≤ 1 := by
    rw [div_le_one denPos]
    exact_mod_cast (Nat.mod_lt num (Nat.pos_of_ne_zero den0)).le
  have least : 1 / 2 ≤ ((num % den : ℕ) : ℚ) / den := by
    rw [div_le_div_iff₀ two_pos denPos, one_mul, mul_comm]
    exact_mod_cast more
  rw [abs_le]
  push_cast
  constructor
  · linarith
  · linarith

theorem nearestOnGrid?_cases (tie : TieRule) (x : Binary64) (power : ℤ) :
    (∃ n, n ≤ ⌊x.value / 10 ^ power⌋₊ + 1 ∧ readsBack x n power = true ∧
      nearestOnGrid? tie x power = some (strip n power)) ∨
    (nearestOnGrid? tie x power = none ∧
      ∃ n : ℕ, |x.value / 10 ^ power - n| ≤ 1 / 2 ∧ readsBack x n power = false) := by
  have den0 : x.ratio.2 * Nat.pow 10 power.toNat ≠ 0 :=
    Nat.mul_ne_zero (ratio_den_ne_zero x) (Nat.pow_pos (by norm_num)).ne'
  rw [← grid_quotient x power, Nat.floor_div_eq_div]
  unfold nearestOnGrid?
  dsimp only
  generalize x.ratio.1 * Nat.pow 10 (-power).toNat = num at *
  generalize x.ratio.2 * Nat.pow 10 power.toNat = den at *
  -- The nearer point is tried first, so when neither reads back that one does not.
  by_cases lower : 2 * (num % den) < den ∨
      2 * (num % den) = den ∧ tie = TieRule.toEven ∧ num / den % 2 = 0
  · simp only [if_pos lower]
    cases first : readsBack x (num / den) power with
    | true => exact Or.inl ⟨num / den, by omega, first, rfl⟩
    | false =>
        cases second : readsBack x (num / den + 1) power with
        | true => exact Or.inl ⟨num / den + 1, le_refl _, second, rfl⟩
        | false => exact Or.inr ⟨rfl, num / den, near_below den0 (by omega), first⟩
  · simp only [if_neg lower]
    cases first : readsBack x (num / den + 1) power with
    | true => exact Or.inl ⟨num / den + 1, le_refl _, first, rfl⟩
    | false =>
        cases second : readsBack x (num / den) power with
        | true => exact Or.inl ⟨num / den, by omega, second, rfl⟩
        | false => exact Or.inr ⟨rfl, num / den + 1, near_above den0 (by omega), first⟩

theorem readsBack_of_fine (finite : x.isFinite = true)
    (fine : 10 ^ (power + 16) ≤ x.value) (near : |x.value / 10 ^ power - n| ≤ 1 / 2) :
    readsBack x n power = true := by
  have unit : (0 : ℚ) < 10 ^ power := zpow_pos (by norm_num) _
  rw [readsBack_iff]
  apply magnitudeOf_of_close finite
  -- Half a point of the grid is less than `2 ^ (-54)` of a number with seventeen digits on it.
  have apart : (n : ℚ) * 10 ^ power - x.value = -((x.value / 10 ^ power - n) * 10 ^ power) := by
    field_simp
    ring
  rw [apart, abs_neg, abs_mul, abs_of_pos unit]
  rw [zpow_add₀ (by norm_num)] at fine
  calc |x.value / 10 ^ power - n| * 10 ^ power * 2 ^ 54
      ≤ 1 / 2 * 10 ^ power * 2 ^ 54 := by gcongr
    _ < 10 ^ power * 10 ^ (16 : ℤ) := by
      norm_num
      linarith
    _ ≤ x.value := fine

/-! ## The search -/

theorem firstGrid_spells (finite : x.isFinite = true) (nonzero : x.isZero = false) (more : ℕ) :
    ∀ digits, digits + more = 17 → 1 ≤ more →
      (firstGrid tie x (Int.log 10 x.value) digits more).Spells x := by
  have pos : 0 < x.value := by
    apply lt_of_le_of_ne (value_nonneg x)
    intro none
    rw [value_eq_zero_iff.mp none.symm] at nonzero
    cases nonzero
  induction more with
  | zero => exact fun digits _ none => absurd none (by omega)
  | succ more ih =>
      intro digits total _
      have unit : (0 : ℚ) < 10 ^ (Int.log 10 x.value - digits) := zpow_pos (by norm_num) _
      have few : ⌊x.value / 10 ^ (Int.log 10 x.value - digits)⌋₊ + 1 ≤ 10 ^ 17 := by
        rw [Nat.succ_le_iff, Nat.floor_lt (div_nonneg pos.le unit.le), div_lt_iff₀ unit]
        have above := Int.lt_zpow_succ_log_self (b := 10) (by norm_num) x.value
        rw [Nat.cast_ofNat] at above
        refine lt_of_lt_of_le above ?_
        rw [Nat.cast_pow, Nat.cast_ofNat, ← zpow_natCast, ← zpow_add₀ (by norm_num)]
        exact zpow_le_zpow_right₀ (by norm_num) (by push_cast; omega)
      rw [firstGrid]
      rcases nearestOnGrid?_cases tie x (Int.log 10 x.value - digits) with
        ⟨n, bound, reads, found⟩ | ⟨none, n, near, fails⟩
      · rw [found]
        exact spells_strip nonzero (bound.trans few) reads
      · rw [none]
        by_cases last : more = 0
        · have fine : (10 : ℚ) ^ (Int.log 10 x.value - digits + 16) ≤ x.value := by
            have least := Int.zpow_log_le_self (b := 10) (by norm_num) pos
            push_cast at least
            rwa [show Int.log 10 x.value - digits + 16 = Int.log 10 x.value by omega]
          rw [readsBack_of_fine finite fine near] at fails
          cases fails
        · exact ih (digits + 1) (by omega) (by omega)

/-- The shortest decimal has at most seventeen digits and is rounded to the number. -/
theorem shortest_spells (finite : x.isFinite = true) (nonzero : x.isZero = false) :
    (shortest tie x).Spells x := by
  have num0 : x.ratio.1 ≠ 0 := by
    intro none
    have zero := ratio_eq_value x
    rw [none, Nat.cast_zero, zero_div, eq_comm, value_eq_zero_iff, nonzero] at zero
    cases zero
  have range := log_value finite nonzero
  rw [← ratio_eq_value] at range
  rw [shortest, nonzero, if_neg Bool.false_ne_true,
    floorLog10_eq num0 (ratio_den_ne_zero x) range.1 range.2, ratio_eq_value]
  exact firstGrid_spells finite nonzero 17 0 rfl (by omega)

example : shortest .up ⟨1⟩ = ⟨5, -324⟩ := by decide +kernel
example : shortest .up (Binary64.ofRatio false 0x800000000001 16) = ⟨8796093022208063, -3⟩ := by
  decide +kernel
example : shortest .toEven (Binary64.ofRatio false 0x800000000001 16) = ⟨8796093022208062, -3⟩ := by
  decide +kernel

end Decimal

end ViewerHost
