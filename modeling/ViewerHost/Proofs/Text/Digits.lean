import Mathlib.Data.List.Basic
import Mathlib.Data.List.TakeWhile
import Mathlib.Data.Nat.Digits.Defs
import ViewerHost.Text.Blank

namespace ViewerHost.Text

variable {cs front back rest : List Char} {n width : ℕ} {c : Char}

def AreDigits (cs : List Char) : Prop := ∀ c ∈ cs, c.isDigit = true

def Stops (rest : List Char) : Prop := ∀ c ∈ rest.head?, c.isDigit = false

theorem areDigits_append : AreDigits (front ++ back) ↔ AreDigits front ∧ AreDigits back :=
  List.forall_mem_append

theorem areDigits_toDigits (n : ℕ) : AreDigits (Nat.toDigits 10 n) :=
  fun _ member => Nat.isDigit_of_mem_toDigits (by decide) (by decide) member

theorem areDigits_zeros (n : ℕ) : AreDigits (List.replicate n '0') := by
  intro c member
  rw [List.eq_of_mem_replicate member]
  rfl

theorem stops_cons (other : c.isDigit = false) : Stops (c :: rest) := by
  intro d opens
  rwa [← Option.some.inj opens]

theorem le_ofDigitChars (cs : List Char) (n : ℕ) : n ≤ Nat.ofDigitChars 10 cs n := by
  rw [Nat.ofDigitChars_eq_ofDigitChars_zero]
  exact (Nat.le_mul_of_pos_left n (Nat.pow_pos (by decide))).trans (Nat.le_add_right _ _)

theorem ofDigitChars_le_append (front back : List Char) :
    Nat.ofDigitChars 10 front 0 ≤ Nat.ofDigitChars 10 (front ++ back) 0 := by
  rw [Nat.ofDigitChars_append]
  exact le_ofDigitChars back _

theorem ofDigitChars_zeros (k : ℕ) (cs : List Char) :
    Nat.ofDigitChars 10 (List.replicate k '0' ++ cs) 0 = Nat.ofDigitChars 10 cs 0 := by
  rw [Nat.ofDigitChars_append, Nat.ofDigitChars_replicate_zero, Nat.mul_zero]

theorem head_toDigits (n : ℕ) (nonzero : n ≠ 0) : (Nat.toDigits 10 n).head? ≠ some '0' := by
  induction n using Nat.strongRecOn with
  | ind n ih =>
      rw [Nat.toDigits_eq_if (by decide)]
      split
      · rename_i small
        have each : ∀ d < 10, d ≠ 0 → [Nat.digitChar d].head? ≠ some '0' := by decide
        exact each n small nonzero
      · rename_i large
        rw [List.head?_append_of_ne_nil _ Nat.toDigits_ne_nil]
        exact ih (n / 10) (by omega) (by omega)

theorem takeWhile_digits (decimal : AreDigits cs) (stops : Stops rest) :
    (cs ++ rest).takeWhile Char.isDigit = cs := by
  rw [List.takeWhile_append_of_pos decimal]
  cases rest with
  | nil => simp
  | cons c rest => simp [stops c rfl]

theorem dropWhile_of_stops (stops : Stops rest) : rest.dropWhile Char.isDigit = rest := by
  cases rest with
  | nil => rfl
  | cons c rest => simp [stops c rfl]

theorem dropWhile_digits (decimal : AreDigits cs) (stops : Stops rest) :
    (cs ++ rest).dropWhile Char.isDigit = rest := by
  rw [List.dropWhile_append_of_pos decimal, dropWhile_of_stops stops]

theorem takeWhile_take (decimal : AreDigits cs) (stops : Stops rest) (fits : cs.length ≤ width) :
    ((cs ++ rest).take width).takeWhile Char.isDigit = cs := by
  rw [List.take_append, List.take_of_length_le fits]
  apply takeWhile_digits decimal
  intro c opens
  apply stops c
  rw [List.head?_take] at opens
  split at opens
  · cases opens
  · exact opens

theorem not_isBlank_of_isDigit (digit : c.isDigit = true) : isBlank c = false := by
  have code : 48 ≤ c.val.toNat ∧ c.val.toNat ≤ 57 := by
    simpa [Char.isDigit, UInt32.le_iff_toNat_le] using digit
  cases blank : isBlank c with
  | false => rfl
  | true =>
      simp only [isBlank, Bool.or_eq_true, Bool.and_eq_true, decide_eq_true_eq, beq_iff_eq,
        UInt32.le_iff_toNat_le, ← UInt32.toNat_inj] at blank
      simp only [UInt32.reduceToNat] at blank
      omega

end ViewerHost.Text
