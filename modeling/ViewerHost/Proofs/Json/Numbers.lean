import ViewerHost.Proofs.Json.Spelling

/-!
Numbers that were written as JSON and are read again. A whole number of 64 bits is read as itself. A
floating-point number has its digits scaled by its power of ten, which rounds twice; it is read as
itself at least when the digits and the power need no rounding of their own.
-/

namespace ViewerHost.Json

open Binary64

variable {cs rest : List Char} {nesting digits n : ℕ} {power i : ℤ} {negative : Bool}
  {x : Binary64} {c : Char}

theorem value?_numeric (numeric : c.isDigit = true ∨ c = '-') :
    value? nesting (c :: cs) = number? (c :: cs) := by
  have others : ∀ d ∈ ['n', 't', 'f', '"', '[', '\x7b', ' ', '\n', '\t', '\r'], c ≠ d := by
    rintro d listed rfl
    revert listed numeric
    simp only [List.mem_cons, List.not_mem_nil, or_false]
    rintro (digit | rfl)
    · rintro (rfl | rfl | rfl | rfl | rfl | rfl | rfl | rfl | rfl | rfl) <;> cases digit
    · decide
  simp only [List.forall_mem_cons, List.not_mem_nil, false_implies, implies_true, and_true]
    at others
  have kept : skipSpace (c :: cs) = c :: cs := by simp [skipSpace, isSpace, others]
  unfold value?
  rw [kept]
  split <;> simp_all

theorem number?_of_digit (digit : c.isDigit = true) :
    number? (c :: cs) = unsigned? false (c :: cs) := by
  unfold number?
  split
  · rename_i same
    obtain ⟨rfl, -⟩ := List.cons.inj same
    cases digit
  · rfl

theorem value?_int (low : -0x8000000000000000 ≤ i) (high : i < 0x8000000000000000)
    (closes : Closes rest) :
    value? nesting ((render (.int i)).toList ++ rest) = some (.int i, rest) := by
  have whole := isWhole_toDigits i.natAbs
  have number : Nat.ofDigitChars 10 (Nat.toDigits 10 i.natAbs) 0 = i.natAbs :=
    Nat.ofDigitChars_ten_toDigits
  have fits : i.natAbs < wordLimit := by
    unfold wordLimit
    omega
  have read : ∀ negative, unsigned? negative (Nat.toDigits 10 i.natAbs ++ rest) =
      some (Json.whole negative i.natAbs, rest) := by
    intro negative
    rw [unsigned?_eq whole (by rwa [number]) closes.stops, closes.bare,
      if_neg Bool.false_ne_true, number]
  rw [render]
  cases i with
  | ofNat k =>
      have text : (toString (Int.ofNat k)).toList = Nat.toDigits 10 k := by
        simp [toString, Int.repr, Nat.repr_eq_ofList_toDigits]
      obtain ⟨c, tail, split⟩ := List.exists_cons_of_ne_nil whole.nonempty
      have digit := whole.decimal c (by rw [split]; exact List.mem_cons_self)
      have start := read false
      simp only [Int.ofNat_eq_natCast, Int.natAbs_natCast] at split start
      rw [text]
      rw [split, List.cons_append] at start ⊢
      rw [value?_numeric (Or.inl digit), number?_of_digit digit, start]
      rfl
  | negSucc k =>
      have text : (toString (Int.negSucc k)).toList = '-' :: Nat.toDigits 10 (k + 1) := by
        simp [toString, Int.repr, Nat.repr_eq_ofList_toDigits]
      have limit : ¬(k + 1 = 0 ∨ 0x8000000000000000 < k + 1) := by omega
      rw [text, List.cons_append, value?_numeric (Or.inr rfl)]
      refine (read true).trans ?_
      rw [Int.natAbs_negSucc, Json.whole, if_neg (by simp), if_neg limit, Int.negSucc_eq]
      simp

theorem value?_float (finite : x.isFinite = true) (closes : Closes rest) :
    value? nesting ((render (.float x)).toList ++ rest) =
      (scaled? x.isNegative (written x).digits (written x).power).map
        fun y => (float y, rest) := by
  obtain ⟨body, spells, text⟩ := exists_spelling finite
  obtain ⟨c, tail, rfl, digit⟩ := spells.opens
  rw [render, text]
  cases x.isNegative with
  | true => exact (value?_numeric (Or.inr rfl)).trans (spells.reads true rest closes)
  | false =>
      refine (value?_numeric (Or.inl digit)).trans ?_
      rw [number?_of_digit digit]
      exact spells.reads false rest closes

theorem value_laidOut (d : Decimal) : (laidOut d).value = d.value := by
  unfold laidOut
  split
  · rename_i inPlace
    obtain ⟨k, count⟩ := Int.eq_ofNat_of_zero_le inPlace.1
    simp only [Decimal.value, count, Int.toNat_natCast, zpow_natCast]
    push_cast
    rw [pow_succ, zpow_neg_one]
    field_simp
  · rfl

theorem magnitudeOf_written (finite : x.isFinite = true) :
    magnitudeOf (written x).value = x.magnitude := by
  rw [written, value_laidOut]
  cases zero : x.isZero with
  | true =>
      rw [isZero, beq_iff_eq] at zero
      rw [Decimal.shortest, isZero, zero]
      simp [Decimal.value, magnitudeOf]
  | false => exact (Decimal.shortest_spells finite zero).reads

theorem ratio_powerOfTen : ∀ n ≤ 22,
    (powerOfTen n).ratio.1 = 10 ^ n * (powerOfTen n).ratio.2 := by
  decide +kernel

theorem value_powerOfTen (small : n ≤ 22) : (powerOfTen n).value = 10 ^ n := by
  have den0 : ((powerOfTen n).ratio.2 : ℚ) ≠ 0 := Nat.cast_ne_zero.mpr (ratio_den_ne_zero _)
  rw [← ratio_eq_value, ratio_powerOfTen n small, Nat.cast_mul, mul_div_assoc, div_self den0,
    mul_one, Nat.cast_pow, Nat.cast_ofNat]

theorem shrink_of_le (small : n ≤ 308) : shrink x n = x.scaleDown (powerOfTen n) := by
  unfold shrink
  rw [if_pos small]

/-- With few digits and a small power only the last step rounds. -/
theorem scaled?_exact (short : digits < 2 ^ 53) (low : -22 ≤ power) (high : power ≤ 22)
    (reads : magnitudeOf (digits * 10 ^ power) = x.magnitude) (finite : x.isFinite = true) :
    scaled? x.isNegative digits power = some x := by
  have sign : (ofNat x.isNegative digits).isNegative = x.isNegative := by
    rw [ofNat_eq, isNegative_nearest]
  have back : nearest x.isNegative (digits * 10 ^ power) = x := by
    rw [nearest, reads, ofMagnitude_magnitude]
  unfold scaled?
  split
  · rename_i below
    obtain ⟨k, rfl⟩ : ∃ k : ℕ, power = -k := ⟨(-power).toNat, by omega⟩
    have small : k ≤ 22 := by omega
    have nonzero : (powerOfTen k).value ≠ 0 := by
      rw [value_powerOfTen small]
      positivity
    have scaled : (ofNat x.isNegative digits).scaleDown (powerOfTen k) = x := by
      rw [scaleDown_eq _ nonzero, sign, value_ofNat short, value_powerOfTen small,
        div_eq_mul_inv, ← zpow_natCast, ← zpow_neg, back]
    rw [neg_neg, Int.toNat_natCast]
    exact congrArg some ((shrink_of_le (by omega)).trans scaled)
  · rename_i above
    obtain ⟨k, rfl⟩ := Int.eq_ofNat_of_zero_le (not_lt.mp above)
    split
    · rename_i none
      rw [none, Nat.cast_zero, zero_mul] at back
      rw [none, ofNat_eq, Nat.cast_zero, back]
    · have scaled : (ofNat x.isNegative digits).scaleUp (powerOfTen k) = x := by
        rw [scaleUp_eq, sign, value_ofNat short, value_powerOfTen (by omega), ← zpow_natCast, back]
      rw [if_neg (by omega), Int.toNat_natCast, scaled]
      exact if_pos finite

/-- A number survives if it is written with digits below `2 ^ 53` and a power of at most 22. -/
theorem scaled?_written (finite : x.isFinite = true) (short : (written x).digits < 2 ^ 53)
    (small : (written x).power.natAbs ≤ 22) :
    scaled? x.isNegative (written x).digits (written x).power = some x :=
  scaled?_exact short (by omega) (by omega) (magnitudeOf_written finite) finite

end ViewerHost.Json
