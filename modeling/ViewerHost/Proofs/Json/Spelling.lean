import ViewerHost.Json.Reader
import ViewerHost.Json.Writer
import ViewerHost.Proofs.Decimal.Shortest
import ViewerHost.Proofs.Text.Digits

namespace ViewerHost.Json

open Text

variable {cs front back rest : List Char} {n digits count : ℕ} {power : ℤ} {negative : Bool}

/-! ## Digits -/

theorem stops_of_startsWithDigit (stops : startsWithDigit rest = false) : Stops rest := by
  cases rest with
  | nil => rintro c ⟨⟩
  | cons c rest => exact stops_cons stops

theorem collect_digits {limit : ℕ} (decimal : AreDigits cs) (stops : startsWithDigit rest = false)
    (fits : Nat.ofDigitChars 10 cs n < limit) :
    collect limit n count (cs ++ rest) = (Nat.ofDigitChars 10 cs n, count + cs.length, rest) := by
  induction cs generalizing n count with
  | nil =>
      cases rest with
      | nil => rfl
      | cons c rest =>
          rw [startsWithDigit] at stops
          simp [collect, stops]
  -- The number so far is at most the whole one, so it has not reached the limit.
  | cons c cs ih =>
      obtain ⟨digit, others⟩ := List.forall_mem_cons.mp decimal
      rw [Nat.ofDigitChars_cons, mul_comm] at fits ⊢
      have next : n * 10 + digitValue c < limit := lt_of_le_of_lt (le_ofDigitChars cs _) fits
      rw [List.cons_append, collect, digit, Bool.true_and, if_pos (by simpa using next)]
      refine (ih others fits).trans ?_
      rw [List.length_cons, add_right_comm, add_assoc]

theorem startsWithDigit_append (decimal : AreDigits cs) (nonempty : cs ≠ []) :
    startsWithDigit (cs ++ rest) = true := by
  obtain ⟨c, cs, rfl⟩ := List.exists_cons_of_ne_nil nonempty
  exact decimal c List.mem_cons_self

/-! ## The parts of a number -/

theorem fraction?_digits (power : ℤ) (decimal : AreDigits cs) (nonempty : cs ≠ [])
    (stops : startsWithDigit rest = false) (fits : Nat.ofDigitChars 10 cs digits < wordLimit) :
    fraction? digits power ('.' :: (cs ++ rest)) =
      some (Nat.ofDigitChars 10 cs digits, power - cs.length, rest) := by
  rw [fraction?, startsWithDigit_append decimal nonempty, if_pos rfl,
    collect_digits decimal stops fits]
  simp [skipDigits, dropWhile_of_stops (stops_of_startsWithDigit stops)]

theorem foldl_digits (cs : List Char) :
    cs.foldl (fun n c => 10 * n + digitValue c) 0 = Nat.ofDigitChars 10 cs 0 := rfl

theorem exponent?_plus (decimal : AreDigits cs) (nonempty : cs ≠ [])
    (stops : startsWithDigit rest = false) :
    exponent? ('+' :: (cs ++ rest)) = some (((Nat.ofDigitChars 10 cs 0 : ℕ) : ℤ), rest) := by
  simp [exponent?, startsWithDigit_append decimal nonempty, foldl_digits,
    takeWhile_digits decimal (stops_of_startsWithDigit stops)]

theorem exponent?_minus (decimal : AreDigits cs) (nonempty : cs ≠ [])
    (stops : startsWithDigit rest = false) :
    exponent? ('-' :: (cs ++ rest)) = some (-((Nat.ofDigitChars 10 cs 0 : ℕ) : ℤ), rest) := by
  simp [exponent?, startsWithDigit_append decimal nonempty, foldl_digits,
    takeWhile_digits decimal (stops_of_startsWithDigit stops)]

structure IsWhole (cs : List Char) : Prop where
  nonempty : cs ≠ []
  decimal : AreDigits cs
  plain : cs.head? = some '0' → cs = ['0']

theorem unsigned?_eq (w : IsWhole cs) (fits : Nat.ofDigitChars 10 cs 0 < wordLimit)
    (stops : startsWithDigit rest = false) :
    unsigned? negative (cs ++ rest) =
      if isFloatMark rest then float? negative (Nat.ofDigitChars 10 cs 0) 0 rest
      else some (whole negative (Nat.ofDigitChars 10 cs 0), rest) := by
  obtain ⟨c, tail, rfl⟩ := List.exists_cons_of_ne_nil w.nonempty
  by_cases zero : c = '0'
  · subst zero
    obtain ⟨-, rfl⟩ := List.cons.inj (w.plain rfl)
    rw [List.cons_append, List.nil_append, unsigned?, stops, if_neg Bool.false_ne_true]
    rfl
  · have digit := w.decimal c List.mem_cons_self
    have read : collect wordLimit 0 0 (c :: tail ++ rest) =
        (Nat.ofDigitChars 10 (c :: tail) 0, 0 + (c :: tail).length, rest) :=
      collect_digits w.decimal stops fits
    rw [List.cons_append] at read ⊢
    rw [unsigned?.eq_def]
    split
    · rename_i same
      exact absurd (List.cons.inj same).1 zero
    · rename_i same
      obtain ⟨rfl, rfl⟩ := List.cons.inj same
      rw [if_pos digit, read]
      simp [stops]
    · rename_i empty
      cases empty

theorem unsigned?_mark (w : IsWhole cs) (fits : Nat.ofDigitChars 10 cs 0 < wordLimit)
    (stops : startsWithDigit rest = false) (marked : isFloatMark rest = true) :
    unsigned? negative (cs ++ rest) = float? negative (Nat.ofDigitChars 10 cs 0) 0 rest := by
  rw [unsigned?_eq w fits stops, if_pos marked]

structure Closes (rest : List Char) : Prop where
  stops : startsWithDigit rest = false
  bare : isFloatMark rest = false

theorem float?_of_fraction {digits' : ℕ} {power' : ℤ} (closes : Closes rest)
    (read : fraction? digits power cs = some (digits', power', rest)) :
    float? negative digits power cs =
      (scaled? negative digits' power').map fun x => (float x, rest) := by
  unfold float?
  rw [read]
  have bare := closes.bare
  simp only [Option.bind_eq_bind, Option.bind_some]
  split
  · simp [isFloatMark] at bare
  · simp [isFloatMark] at bare
  · rw [Option.map_eq_bind]
    rfl

theorem float?_of_exponent {digits' : ℕ} {power' more : ℤ}
    (read : fraction? digits power cs = some (digits', power', 'e' :: back))
    (raised : exponent? back = some (more, rest)) :
    float? negative digits power cs =
      (scaled? negative digits' (power' + more)).map fun x => (float x, rest) := by
  unfold float?
  rw [read]
  simp only [Option.bind_eq_bind, Option.bind_some, raised, Option.map_some]
  rw [Option.map_eq_bind]
  rfl

theorem unsigned?_decimal (w : IsWhole front) (decimal : AreDigits back) (nonempty : back ≠ [])
    (fits : Nat.ofDigitChars 10 (front ++ back) 0 < wordLimit) (closes : Closes rest) :
    unsigned? negative (front ++ '.' :: (back ++ rest)) =
      (scaled? negative (Nat.ofDigitChars 10 (front ++ back) 0) (-back.length)).map
        fun x => (float x, rest) := by
  have fits' := lt_of_le_of_lt (ofDigitChars_le_append front back) fits
  rw [Nat.ofDigitChars_append] at fits ⊢
  have read := fraction?_digits 0 decimal nonempty closes.stops fits
  rw [zero_sub] at read
  rw [unsigned?_mark w fits' rfl rfl, float?_of_fraction closes read]

theorem exponent?_signed (e : ℤ) (stops : startsWithDigit rest = false) :
    exponent? ((if e < 0 then '-' else '+') :: (Nat.toDigits 10 e.natAbs ++ rest)) =
      some (e, rest) := by
  have decimal := areDigits_toDigits e.natAbs
  split
  · rename_i below
    rw [exponent?_minus decimal Nat.toDigits_ne_nil stops, Nat.ofDigitChars_ten_toDigits,
      Int.ofNat_natAbs_of_nonpos below.le, neg_neg]
  · rename_i above
    rw [exponent?_plus decimal Nat.toDigits_ne_nil stops, Nat.ofDigitChars_ten_toDigits,
      Int.natAbs_of_nonneg (not_lt.mp above)]

theorem unsigned?_scientific (negative : Bool) (w : IsWhole front) (decimal : AreDigits back)
    (fits : Nat.ofDigitChars 10 (front ++ back) 0 < wordLimit) (e : ℤ)
    (stops : startsWithDigit rest = false) :
    unsigned? negative (front ++ ((if back = [] then [] else '.' :: back) ++
        'e' :: (if e < 0 then '-' else '+') :: (Nat.toDigits 10 e.natAbs ++ rest))) =
      (scaled? negative (Nat.ofDigitChars 10 (front ++ back) 0) (-back.length + e)).map
        fun x => (float x, rest) := by
  have fits' := lt_of_le_of_lt (ofDigitChars_le_append front back) fits
  have raised := exponent?_signed e stops
  rw [Nat.ofDigitChars_append] at fits ⊢
  by_cases none : back = []
  · subst none
    rw [if_pos rfl, List.nil_append, unsigned?_mark w fits' rfl rfl, float?_of_exponent rfl raised]
    simp
  · have mark : startsWithDigit ('e' :: (if e < 0 then '-' else '+') ::
        (Nat.toDigits 10 e.natAbs ++ rest)) = false := rfl
    have read := fraction?_digits 0 decimal none mark fits
    rw [zero_sub] at read
    rw [if_neg none, List.cons_append, unsigned?_mark w fits' rfl rfl,
      float?_of_exponent read raised]

/-! ## What is written -/

theorem isWhole_toDigits (n : ℕ) : IsWhole (Nat.toDigits 10 n) := by
  refine ⟨Nat.toDigits_ne_nil, areDigits_toDigits n, ?_⟩
  intro leading
  by_cases zero : n = 0
  · rw [zero]
    rfl
  · exact absurd leading (head_toDigits n zero)

theorem isWhole_of_leading (nonempty : cs ≠ []) (decimal : AreDigits cs)
    (leading : cs.head? ≠ some '0') : IsWhole cs :=
  ⟨nonempty, decimal, fun zero => absurd zero leading⟩

structure Numeral (cs : List Char) (n : ℕ) : Prop where
  nonempty : cs ≠ []
  decimal : AreDigits cs
  leading : cs.head? ≠ some '0'
  number : Nat.ofDigitChars 10 cs 0 = n

theorem numeral_toDigits (some' : n ≠ 0) : Numeral (Nat.toDigits 10 n) n :=
  ⟨Nat.toDigits_ne_nil, areDigits_toDigits n, head_toDigits n some', Nat.ofDigitChars_ten_toDigits⟩

inductive Pointed : List Char → Decimal → Prop
  | mk (front back : List Char) (whole : IsWhole front) (decimal : AreDigits back)
      (nonempty : back ≠ []) :
      Pointed (front ++ '.' :: back) ⟨Nat.ofDigitChars 10 (front ++ back) 0, -back.length⟩

theorem Numeral.pointed_before (w : Numeral cs n) (k : ℕ) :
    Pointed ('0' :: '.' :: (List.replicate k '0' ++ cs)) ⟨n, -(k + cs.length)⟩ := by
  have zero : IsWhole ['0'] := ⟨by simp, by simp [AreDigits], fun _ => rfl⟩
  have pointed := Pointed.mk ['0'] (List.replicate k '0' ++ cs) zero
    (areDigits_append.mpr ⟨areDigits_zeros k, w.decimal⟩) (by simp [w.nonempty])
  have number : Nat.ofDigitChars 10 (['0'] ++ (List.replicate k '0' ++ cs)) 0 = n := by
    rw [← List.append_assoc, ← List.replicate_one, List.replicate_append_replicate,
      ofDigitChars_zeros, w.number]
  rw [number, List.length_append, List.length_replicate, Nat.cast_add] at pointed
  exact pointed

theorem Numeral.pointed_behind (w : Numeral cs n) (k : ℕ) :
    Pointed (cs ++ List.replicate k '0' ++ ['.', '0']) ⟨n * 10 ^ (k + 1), -1⟩ := by
  have whole : IsWhole (cs ++ List.replicate k '0') := by
    apply isWhole_of_leading (List.append_ne_nil_of_left_ne_nil w.nonempty _)
      (areDigits_append.mpr ⟨w.decimal, areDigits_zeros k⟩)
    rw [List.head?_append_of_ne_nil _ w.nonempty]
    exact w.leading
  have number : Nat.ofDigitChars 10 (cs ++ List.replicate k '0' ++ ['0']) 0 = n * 10 ^ (k + 1) := by
    rw [List.append_assoc, ← List.replicate_one, List.replicate_append_replicate,
      Nat.ofDigitChars_append, w.number, Nat.ofDigitChars_replicate_zero, mul_comm]
  have pointed := Pointed.mk _ ['0'] whole (by simp [AreDigits]) (by simp)
  rw [number] at pointed
  exact pointed

theorem Numeral.pointed_inside (w : Numeral cs n) {k : ℕ} (positive : 0 < k)
    (inside : k < cs.length) :
    Pointed (cs.take k ++ '.' :: cs.drop k) ⟨n, -((cs.length - k : ℕ) : ℤ)⟩ := by
  have whole : IsWhole (cs.take k) := by
    apply isWhole_of_leading
    · simp [w.nonempty, positive.ne']
    · exact fun c member => w.decimal c (List.mem_of_mem_take member)
    · rw [List.head?_take, if_neg positive.ne']
      exact w.leading
  have pointed := Pointed.mk (cs.take k) (cs.drop k) whole
    (fun c member => w.decimal c (List.mem_of_mem_drop member)) (by simp [inside])
  rw [List.take_append_drop, w.number, List.length_drop] at pointed
  exact pointed

open FloatLayout in
theorem scientific_toList (ds : List Char) (point : ℤ) :
    (scientific ds point).toList =
      ds.take 1 ++ ((if ds.drop 1 = [] then [] else '.' :: ds.drop 1) ++
        'e' :: (if point - 1 < 0 then '-' else '+') :: Nat.toDigits 10 (point - 1).natAbs) := by
  unfold scientific
  dsimp only
  rw [Nat.toString_eq_ofList_toDigits]
  by_cases none : ds.drop 1 = []
  · by_cases below : point - 1 < 0
    · simp [none, below]
    · simp [none, below]
  · have none' : ds.tail ≠ [] := by simpa using none
    by_cases below : point - 1 < 0
    · simp [none', below]
    · simp [none', below]

def laidOut (d : Decimal) : Decimal :=
  if 0 ≤ d.power ∧ (Nat.toDigits 10 d.digits).length + d.power ≤ 16 then
    ⟨d.digits * 10 ^ (d.power.toNat + 1), -1⟩
  else d

theorem laidOut_digits_lt {d : Decimal} (short : d.digits ≤ 10 ^ 17) :
    (laidOut d).digits < wordLimit := by
  unfold laidOut
  split
  · rename_i inPlace
    obtain ⟨k, count⟩ := Int.eq_ofNat_of_zero_le inPlace.1
    have longer : 0 < (Nat.toDigits 10 d.digits).length := Nat.length_toDigits_pos
    have small : d.digits < 10 ^ (Nat.toDigits 10 d.digits).length :=
      (Nat.length_toDigits_le_iff (by decide) longer).mp (le_refl _)
    rw [count, Int.toNat_natCast]
    calc d.digits * 10 ^ (k + 1)
        < 10 ^ (Nat.toDigits 10 d.digits).length * 10 ^ (k + 1) :=
          Nat.mul_lt_mul_of_pos_right small (Nat.pow_pos (by decide))
      _ = 10 ^ ((Nat.toDigits 10 d.digits).length + (k + 1)) := (pow_add _ _ _).symm
      _ ≤ 10 ^ 17 := Nat.pow_le_pow_right (by decide) (by omega)
      _ < wordLimit := by decide
  · exact lt_of_le_of_lt short (by decide)

structure Spells (cs : List Char) (d : Decimal) : Prop where
  opens : ∃ c tail, cs = c :: tail ∧ c.isDigit = true
  reads : ∀ negative rest, Closes rest → unsigned? negative (cs ++ rest) =
    (scaled? negative d.digits d.power).map fun x => (float x, rest)

theorem IsWhole.opens (w : IsWhole front) (back : List Char) :
    ∃ c tail, front ++ back = c :: tail ∧ c.isDigit = true := by
  obtain ⟨c, tail, rfl⟩ := List.exists_cons_of_ne_nil w.nonempty
  exact ⟨c, tail ++ back, rfl, w.decimal c List.mem_cons_self⟩

section

open FloatLayout

variable {d : Decimal}

theorem pointed_positional (some' : d.digits ≠ 0)
    (inPlace : (Nat.toDigits 10 d.digits).length + d.power ≤ 16) :
    Pointed (json.positional (Nat.toDigits 10 d.digits)
      ((Nat.toDigits 10 d.digits).length + d.power)).toList (laidOut d) := by
  have numeral := numeral_toDigits some'
  have longer : 0 < (Nat.toDigits 10 d.digits).length := Nat.length_toDigits_pos
  have same : ¬0 ≤ d.power → laidOut d = d := fun below => if_neg fun both => below both.1
  unfold positional
  split
  · rename_i before
    have pointed :=
      numeral.pointed_before (-((Nat.toDigits 10 d.digits).length + d.power)).toNat
    have power : -(((-((Nat.toDigits 10 d.digits).length + d.power)).toNat : ℤ) +
        (Nat.toDigits 10 d.digits).length) = d.power := by omega
    rw [power] at pointed
    rw [same (by omega)]
    simpa [zeros] using pointed
  · rename_i after
    split
    · rename_i reaches
      have positive : 0 ≤ d.power := by omega
      have count : ((Nat.toDigits 10 d.digits).length + d.power).toNat -
          (Nat.toDigits 10 d.digits).length = d.power.toNat := by omega
      rw [laidOut, if_pos ⟨positive, inPlace⟩, count]
      simpa [zeros, json] using numeral.pointed_behind d.power.toNat
    · rename_i short
      have pointed := numeral.pointed_inside
        (k := ((Nat.toDigits 10 d.digits).length + d.power).toNat) (by omega) (by omega)
      have power : -((((Nat.toDigits 10 d.digits).length -
          ((Nat.toDigits 10 d.digits).length + d.power).toNat : ℕ)) : ℤ) = d.power := by omega
      rw [power] at pointed
      rw [same (by omega)]
      simpa using pointed

theorem Pointed.spells (pointed : Pointed cs d) (fits : d.digits < wordLimit) : Spells cs d := by
  obtain ⟨front, back, whole, decimal, nonempty⟩ := pointed
  refine ⟨whole.opens _, ?_⟩
  intro negative rest closes
  rw [List.append_assoc]
  exact unsigned?_decimal whole decimal nonempty fits closes

theorem spells_positional (some' : d.digits ≠ 0) (short : d.digits ≤ 10 ^ 17)
    (inPlace : (Nat.toDigits 10 d.digits).length + d.power ≤ 16) :
    Spells (json.positional (Nat.toDigits 10 d.digits)
      ((Nat.toDigits 10 d.digits).length + d.power)).toList (laidOut d) :=
  (pointed_positional some' inPlace).spells (laidOut_digits_lt short)

theorem spells_scientific (some' : d.digits ≠ 0) (short : d.digits ≤ 10 ^ 17) :
    Spells (scientific (Nat.toDigits 10 d.digits)
      ((Nat.toDigits 10 d.digits).length + d.power)).toList d := by
  obtain ⟨nonempty, decimal, leading, number⟩ := numeral_toDigits some'
  have fits : d.digits < wordLimit := lt_of_le_of_lt short (by decide)
  rw [scientific_toList]
  generalize Nat.toDigits 10 d.digits = ds at *
  obtain ⟨c, tail, rfl⟩ := List.exists_cons_of_ne_nil nonempty
  obtain ⟨digit, others⟩ := List.forall_mem_cons.mp decimal
  have whole : IsWhole [c] :=
    isWhole_of_leading (by simp) (by simpa [AreDigits] using digit) leading
  have power : -(tail.length : ℤ) + ((c :: tail).length + d.power - 1) = d.power := by
    rw [List.length_cons]
    omega
  rw [List.take_one, List.drop_one, List.tail_cons, List.head?_cons, Option.toList_some]
  refine ⟨whole.opens _, ?_⟩
  intro negative rest closes
  have read := unsigned?_scientific negative whole others
    (by rwa [List.singleton_append, number]) ((c :: tail).length + d.power - 1) closes.stops
  rw [power, show [c] ++ tail = c :: tail from rfl, number] at read
  rw [← read]
  simp only [List.append_assoc, List.cons_append]

def written (x : Binary64) : Decimal := laidOut (.shortest .toEven x)

theorem spells_zero : Spells "0.0".toList ⟨0, -1⟩ := by
  have whole : IsWhole ['0'] := ⟨by simp, by simp [AreDigits], fun _ => rfl⟩
  refine ⟨⟨'0', _, rfl, rfl⟩, ?_⟩
  intro negative rest closes
  have zero : AreDigits ['0'] := by simp [AreDigits]
  exact unsigned?_decimal whole zero (by simp) (by decide) closes

/-- A finite number is written with a sign and a text that names its digits and its power. -/
theorem exists_spelling {x : Binary64} (finite : x.isFinite = true) :
    ∃ body, Spells body (written x) ∧
      (json.render x).toList = (if x.isNegative then ['-'] else []) ++ body := by
  have number : x.isNaN = false := by
    rw [Binary64.isFinite, decide_eq_true_eq] at finite
    rw [Binary64.isNaN, decide_eq_false_iff_not]
    omega
  have sign : (if x.isNegative then "-" else "").toList = if x.isNegative then ['-'] else [] := by
    cases x.isNegative with
    | true => rfl
    | false => rfl
  cases zero : x.isZero with
  | true =>
      refine ⟨"0.0".toList, ?_, ?_⟩
      · rw [written, Decimal.shortest, zero, if_pos rfl]
        exact spells_zero
      · simp [FloatLayout.render, number, finite, zero, sign, json]
  | false =>
      have spells : (Decimal.shortest .toEven x).Spells x := Decimal.shortest_spells finite zero
      unfold written FloatLayout.render
      rw [number, finite, zero]
      simp only [Bool.false_eq_true, if_false, Bool.not_true, String.toList_append, sign]
      refine ⟨_, ?_, rfl⟩
      split
      · rename_i inPlace
        have placed := (show -5 < _ ∧ _ by simpa [json] using inPlace).2
        exact spells_positional spells.some spells.short placed
      · rename_i outside
        have same : laidOut (.shortest .toEven x) = .shortest .toEven x := by
          rw [laidOut, if_neg]
          rintro ⟨positive, small⟩
          refine outside ?_
          simp only [json, decide_eq_true_eq]
          omega
        rw [same]
        exact spells_scientific spells.some spells.short

end

end ViewerHost.Json
