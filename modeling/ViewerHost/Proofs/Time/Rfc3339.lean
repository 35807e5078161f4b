import ViewerHost.Proofs.Text.Digits
import ViewerHost.Proofs.Time.Calendar
import ViewerHost.Time.Rfc3339

/-!
Instants that were written and are read again. Every field is read as it was written, so an instant
comes back to the nanosecond. A leap second is written as the second numbered sixty where the minute
ends, and as the next second elsewhere; there its text names another instant.
-/

namespace ViewerHost.Rfc3339

open Text

variable {cs rest : List Char} {n width nanos : ℕ}

/-! ## Numbers -/

theorem toList_padded (width n : ℕ) :
    (padded width n).toList =
      List.replicate (width - (Nat.toDigits 10 n).length) '0' ++ Nat.toDigits 10 n := by
  simp [padded]

theorem areDigits_padded (width n : ℕ) : AreDigits (padded width n).toList := by
  rw [toList_padded]
  exact areDigits_append.mpr ⟨areDigits_zeros _, areDigits_toDigits n⟩

theorem numberOf_padded (width n : ℕ) : numberOf (padded width n).toList = n := by
  rw [toList_padded]
  exact (ofDigitChars_zeros _ _).trans Nat.ofDigitChars_ten_toDigits

theorem padded_ne_nil (width n : ℕ) : (padded width n).toList ≠ [] := by
  rw [toList_padded]
  simp [Nat.toDigits_ne_nil]

theorem length_padded (positive : 0 < width) (fits : n < 10 ^ width) :
    (padded width n).toList.length = width := by
  have short := (Nat.length_toDigits_le_iff (by decide) positive).mpr fits
  rw [toList_padded, List.length_append, List.length_replicate, Nat.sub_add_cancel short]

theorem skipBlanks_digits (decimal : AreDigits cs) (nonempty : cs ≠ []) (rest : List Char) :
    skipBlanks (cs ++ rest) = cs ++ rest := by
  obtain ⟨c, cs, rfl⟩ := List.exists_cons_of_ne_nil nonempty
  have visible := not_isBlank_of_isDigit (decimal c List.mem_cons_self)
  simp [skipBlanks, visible]

theorem digits?_run (decimal : AreDigits cs) (nonempty : cs ≠ []) (fits : cs.length ≤ width)
    (stops : Stops rest) : digits? width (cs ++ rest) = some (numberOf cs, rest) := by
  unfold digits?
  dsimp only
  rw [takeWhile_take decimal stops fits, List.isEmpty_eq_false_iff.mpr nonempty]
  simp

theorem field?_padded (small : n < 100) (stops : Stops rest) :
    field? ((padded 2 n).toList ++ rest) = some (n, rest) := by
  have decimal := areDigits_padded 2 n
  have nonempty := padded_ne_nil 2 n
  rw [field?, skipBlanks_digits decimal nonempty, digits?_run decimal nonempty
    (length_padded (by decide) small).le stops, numberOf_padded]

/-! ## Dates -/

theorem year?_plain (decimal : AreDigits cs) (nonempty : cs ≠ []) (short : cs.length ≤ 4)
    (stops : Stops rest) : year? (cs ++ rest) = some ((numberOf cs : ℤ), rest) := by
  have unsigned : ∀ c tail, c.isDigit = false → cs ++ rest ≠ c :: tail := by
    rintro c tail other same
    obtain ⟨d, ds, rfl⟩ := List.exists_cons_of_ne_nil nonempty
    obtain ⟨rfl, -⟩ := List.cons.inj same
    exact absurd (decimal d List.mem_cons_self) (by simp [other])
  unfold year?
  rw [skipBlanks_digits decimal nonempty]
  split
  · rename_i same
    exact absurd same (unsigned '-' _ rfl)
  · rename_i same
    exact absurd same (unsigned '+' _ rfl)
  · rw [digits?_run decimal nonempty short stops, Option.map_some]

theorem year?_minus (decimal : AreDigits cs) (nonempty : cs ≠ []) (stops : Stops rest) :
    year? ('-' :: (cs ++ rest)) = some (-(numberOf cs : ℤ), rest) := by
  have kept : skipBlanks ('-' :: (cs ++ rest)) = '-' :: (cs ++ rest) := rfl
  have fits : cs.length ≤ (cs ++ rest).length := by simp
  simp only [year?, kept, digits?_run decimal nonempty fits stops, Option.map_some]

theorem year?_plus (decimal : AreDigits cs) (nonempty : cs ≠ []) (stops : Stops rest) :
    year? ('+' :: (cs ++ rest)) = some ((numberOf cs : ℤ), rest) := by
  have kept : skipBlanks ('+' :: (cs ++ rest)) = '+' :: (cs ++ rest) := rfl
  have fits : cs.length ≤ (cs ++ rest).length := by simp
  simp only [year?, kept, digits?_run decimal nonempty fits stops, Option.map_some]

theorem year?_yearText (year : ℤ) (stops : Stops rest) :
    year? ((yearText year).toList ++ rest) = some (year, rest) := by
  have decimal := areDigits_padded 4
  have nonempty := padded_ne_nil 4
  unfold yearText
  split
  · rename_i plain
    have fits : year.toNat < 10 ^ 4 := by omega
    rw [year?_plain (decimal _) (nonempty _) (length_padded (by decide) fits).le stops,
      numberOf_padded, Int.toNat_of_nonneg plain.1]
  · rename_i signed
    rw [String.toList_append, List.append_assoc]
    split
    · rename_i before
      refine (year?_minus (decimal year.natAbs) (nonempty _) stops).trans ?_
      rw [numberOf_padded, Int.ofNat_natAbs_of_nonpos before.le, neg_neg]
    · rename_i after
      refine (year?_plus (decimal year.natAbs) (nonempty _) stops).trans ?_
      rw [numberOf_padded, Int.natAbs_of_nonneg (not_lt.mp after)]

theorem mark?_visible {c : Char} (visible : isBlank c = false) (rest : List Char) :
    mark? c (skipBlanks (c :: rest)) = some rest := by
  simp [skipBlanks, visible, mark?]

theorem date?_text {d : CalendarDay} (valid : d.isValid = true)
    (first : CalendarDay.firstYear ≤ d.year) (last : d.year ≤ CalendarDay.lastYear)
    (stops : Stops rest) :
    date? ((yearText d.year).toList ++ '-' :: ((padded 2 d.month).toList ++
        '-' :: ((padded 2 d.day).toList ++ rest))) = some (d, rest) := by
  have dash : ∀ cs, Stops ('-' :: cs) := fun _ => stops_cons rfl
  have range : d.month < 100 ∧ d.day < 100 := by
    have days : CalendarDay.daysInMonth d.year d.month ≤ 31 := by
      unfold CalendarDay.daysInMonth
      split_ifs <;> omega
    simp only [CalendarDay.isValid, Bool.and_eq_true, decide_eq_true_eq] at valid
    omega
  unfold date?
  simp only [year?_yearText d.year (dash _), mark?_visible (c := '-') (by decide),
    field?_padded range.1 (dash _), field?_padded range.2 stops, Option.bind_eq_bind,
    Option.bind_some]
  exact if_pos ⟨valid, first, last⟩

/-! ## Times -/

theorem fraction?_padded (positive : 0 < width) (fits : n < 10 ^ width) (within : width ≤ 9)
    (stops : Stops rest) :
    fraction? ('.' :: ((padded width n).toList ++ rest)) = some (n * 10 ^ (9 - width), rest) := by
  have decimal := areDigits_padded width n
  have run := takeWhile_take decimal stops ((length_padded positive fits).le.trans within)
  have number : numberOf (padded width n).toList * Nat.pow 10 (9 - (padded width n).toList.length) =
      n * 10 ^ (9 - width) := by
    rw [numberOf_padded, length_padded positive fits]
    rfl
  simp only [fraction?, run, List.isEmpty_eq_false_iff.mpr (padded_ne_nil width n), number,
    dropWhile_digits decimal stops, Bool.false_eq_true, if_false]

theorem exists_fractionText (small : nanos < Instant.nanosPerSecond) (some' : nanos ≠ 0) :
    ∃ width n, (fractionText nanos).toList = '.' :: (padded width n).toList ∧
      (0 < width ∧ width ≤ 9 ∧ n < 10 ^ width) ∧ n * 10 ^ (9 - width) = nanos := by
  have dotted : ∀ width n, ("." ++ padded width n).toList = '.' :: (padded width n).toList :=
    fun _ _ => String.toList_append
  unfold Instant.nanosPerSecond at small
  unfold fractionText
  rw [if_neg some']
  split
  · exact ⟨3, nanos / 1000000, dotted _ _, by omega, by omega⟩
  · split
    · exact ⟨6, nanos / 1000, dotted _ _, by omega, by omega⟩
    · exact ⟨9, nanos, dotted _ _, by omega, by omega⟩

theorem fraction?_fractionText (small : nanos < Instant.nanosPerSecond) (rest : List Char) :
    fraction? ((fractionText nanos).toList ++ 'Z' :: rest) = some (nanos, 'Z' :: rest) := by
  by_cases none : nanos = 0
  · rw [none]
    rfl
  · obtain ⟨width, n, text, ⟨positive, within, fits⟩, number⟩ := exists_fractionText small none
    rw [text, List.cons_append, fraction?_padded positive fits within (stops_cons rfl), number]

theorem stops_fractionText (small : nanos < Instant.nanosPerSecond) (rest : List Char) :
    Stops ((fractionText nanos).toList ++ 'Z' :: rest) := by
  by_cases none : nanos = 0
  · rw [none]
    exact stops_cons rfl
  · obtain ⟨width, n, text, -⟩ := exists_fractionText small none
    rw [text]
    exact stops_cons rfl

/-- The second numbered sixty counts as the one before it, with a second of nanoseconds more. -/
theorem time?_text {hour minute second : ℕ} (hours : hour < 24) (minutes : minute < 60)
    (seconds : second ≤ 60) (small : nanos < Instant.nanosPerSecond) :
    time? ((padded 2 hour).toList ++ ':' :: ((padded 2 minute).toList ++
        ':' :: ((padded 2 second).toList ++ ((fractionText nanos).toList ++ ['Z'])))) =
      some (hour * 3600 + minute * 60 + (second - second / 60),
        nanos + second / 60 * Instant.nanosPerSecond, ['Z']) := by
  -- A second numbered sixty is the one before it with a second of nanoseconds more.
  have colon : ∀ cs, Stops (':' :: cs) := fun _ => stops_cons rfl
  have closes : skipBlanks ['Z'] = ['Z'] := by decide
  unfold time?
  simp only [field?_padded (n := hour) (by omega) (colon _), mark?_visible (c := ':') (by decide),
    field?_padded (n := minute) (by omega) (colon _),
    field?_padded (n := second) (by omega) (stops_fractionText small []),
    fraction?_fractionText small, closes, Option.bind_eq_bind, Option.bind_some]
  exact if_pos ⟨hours, minutes, seconds⟩

end ViewerHost.Rfc3339

/-! ## Instants -/

namespace ViewerHost.Instant

open Rfc3339 Text

variable {t : Instant}

def endsMinute (t : Instant) : Prop := t.isLeap = true → t.seconds % 60 = 59

def named (t : Instant) : Instant :=
  if t.isLeap ∧ t.seconds % 60 ≠ 59 then ⟨t.seconds + 1, t.nanos - nanosPerSecond⟩ else t

theorem named_eq_self_iff : t.named = t ↔ t.endsMinute := by
  unfold named endsMinute
  split
  · rename_i off
    constructor
    · intro same
      have next := congrArg seconds same
      simp only at next
      omega
    · intro closes
      exact absurd (closes off.1) off.2
  · rename_i plain
    exact ⟨fun _ leap => by_contra fun off => plain ⟨leap, off⟩, fun _ => rfl⟩

theorem inRange_iff : t.inRange = true ↔ firstSecond ≤ t.seconds ∧ t.seconds ≤ lastSecond := by
  simp [inRange]

theorem year_day (range : t.inRange = true) :
    CalendarDay.firstYear ≤ t.day.year ∧ t.day.year ≤ CalendarDay.lastYear := by
  rw [inRange_iff, firstSecond, lastSecond, secondsPerDay] at range
  unfold day secondsPerDay
  exact CalendarDay.year_ofDays _ (by omega) (by omega)

theorem inRange_named (range : t.inRange = true) : t.named.inRange = true := by
  have last : lastSecond % 60 = 59 := by decide
  unfold named
  split
  · rename_i off
    rw [inRange_iff] at range ⊢
    dsimp only
    omega
  · exact range

def shown (t : Instant) : ℕ × ℕ :=
  if t.isLeap then (t.secondOfDay % 60 + 1, t.nanos - nanosPerSecond)
  else (t.secondOfDay % 60, t.nanos)

theorem toList_toText (t : Instant) :
    t.toText.toList =
      (yearText t.day.year).toList ++ '-' :: ((padded 2 t.day.month).toList ++
        '-' :: ((padded 2 t.day.day).toList ++ 'T' :: ((padded 2 (t.secondOfDay / 3600)).toList ++
          ':' :: ((padded 2 (t.secondOfDay / 60 % 60)).toList ++
            ':' :: ((padded 2 t.shown.1).toList ++
              ((fractionText t.shown.2).toList ++ ['Z'])))))) := by
  by_cases leap : nanosPerSecond ≤ t.nanos
  · simp [toText, render, shown, isLeap, leap]
  · simp [toText, render, shown, isLeap, leap]

/-- What is shown of a time counts to the second and the nanoseconds that its text names. -/
theorem shown_spec (short : t.nanos < 2 * nanosPerSecond) :
    t.shown.1 ≤ 60 ∧ t.shown.2 < nanosPerSecond ∧
      (t.named.seconds : ℤ) = t.seconds / secondsPerDay * secondsPerDay +
        ((t.secondOfDay / 3600 * 3600 + t.secondOfDay / 60 % 60 * 60 +
          (t.shown.1 - t.shown.1 / 60) : ℕ) : ℤ) ∧
      t.named.nanos = t.shown.2 + t.shown.1 / 60 * nanosPerSecond := by
  have day : (t.secondOfDay : ℤ) = t.seconds % 86400 := by
    unfold secondOfDay secondsPerDay
    omega
  unfold named shown secondsPerDay isLeap
  unfold nanosPerSecond at *
  by_cases leap : 1000000000 ≤ t.nanos
  · by_cases closes : t.seconds % 60 = 59
    · simp [leap, closes]
      omega
    · simp [leap, closes]
      omega
  · simp [leap]
    omega

/-- The text of an instant is read as the instant that it names. -/
theorem read?_toText (range : t.inRange = true) (short : t.nanos < 2 * nanosPerSecond) :
    read? t.toText = some t.named := by
  obtain ⟨first, last⟩ := year_day range
  obtain ⟨second, small, seconds, nanos⟩ := shown_spec short
  have hours : t.secondOfDay / 3600 < 24 := by
    unfold secondOfDay secondsPerDay
    omega
  have minutes : t.secondOfDay / 60 % 60 < 60 := Nat.mod_lt _ (by decide)
  have date := fun cs => date?_text (d := t.day) (CalendarDay.isValid_ofDays _) first last
    (show Stops ('T' :: cs) from stops_cons rfl)
  have time := time?_text hours minutes second small
  have offset : offset? ['Z'] = some (0, []) := by decide
  have days : t.day.toDays = t.seconds / secondsPerDay := CalendarDay.toDays_ofDays _
  have same : t.named = ⟨t.day.toDays * secondsPerDay +
      ((t.secondOfDay / 3600 * 3600 + t.secondOfDay / 60 % 60 * 60 +
        (t.shown.1 - t.shown.1 / 60) : ℕ) : ℤ) - 0,
      t.shown.2 + t.shown.1 / 60 * nanosPerSecond⟩ := by
    rw [days, sub_zero, ← seconds, ← nanos]
  unfold read?
  rw [toList_toText]
  simp only [date, separator?, time, offset, Option.bind_eq_bind, Option.bind_some]
  rw [← same]
  exact if_pos ⟨rfl, by decide, inRange_named range⟩

end ViewerHost.Instant
