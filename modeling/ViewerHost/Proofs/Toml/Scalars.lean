import Mathlib.Data.List.Forall2
import ViewerHost.Settings.Read

namespace ViewerHost.Toml

open Text

def IsScalar : Toml → Prop
  | array _ => False
  | table _ => False
  | _ => True

def Reads (value : Toml) (text : String) : Prop := value.scalarText? = some text

structure Digits (cs : List Char) (n : Nat) : Prop where
  nonempty : cs ≠ []
  decimal : ∀ c ∈ cs, c.isDigit = true
  number : n = Nat.ofDigitChars 10 cs 0

inductive Numeral : List Char → Int → Prop where
  | unsigned {cs : List Char} {n : Nat} (digits : Digits cs n) : Numeral cs n
  | plus {cs : List Char} {n : Nat} (digits : Digits cs n) : Numeral ('+' :: cs) n
  | minus {cs : List Char} {n : Nat} (digits : Digits cs n) : Numeral ('-' :: cs) (-n)

def Denotes : Toml → Int → Prop
  | integer own, i => i = own
  | string s, i =>
    Numeral (trimBoth isBlank s.toList) i ∧ -0x8000000000000000 ≤ i ∧ i < 0x8000000000000000
  | _, _ => False

def Says : Toml → Bool → Prop
  | boolean own, b => b = own
  | string s, b => (trimBlank s).toLower = if b then "true" else "false"
  | _, _ => False

/-- The strings of a list: the texts of an array of scalars, or the pieces of one string. -/
def Lists : Toml → List String → Prop
  | array items, texts => List.Forall₂ Reads items texts
  | string s, texts => texts = Settings.listed s
  | _, _ => False

def IsFilled (value : Toml) : Prop := ∃ text, value.Reads text ∧ isBlankText text = false

def IsBetween (low high : Int) (value : Toml) : Prop :=
  ∃ i, value.Denotes i ∧ low ≤ i ∧ i ≤ high

def IsPositive (value : Toml) : Prop := ∃ i, value.Denotes i ∧ 0 < i

variable {value : Toml} {text : String} {cs digits : List Char} {i : Int} {b : Bool}

theorem isScalar_iff : value.IsScalar ↔ ∃ text, value.Reads text := by
  cases value with
  | array items => simp [IsScalar, Reads, scalarText?]
  | table entries => simp [IsScalar, Reads, scalarText?]
  | _ => simp [IsScalar, Reads, scalarText?]

theorem numberOf_digits (cs : List Char) :
    numberOf 10 (cs.map fun c => c.toNat - '0'.toNat) = Nat.ofDigitChars 10 cs 0 := by
  rw [numberOf, List.foldl_map]
  rfl

theorem wholeNumber?_of_sign {negative : Bool} (split : sign text.toList = (negative, digits)) :
    wholeNumber? text = some i ↔ ∃ n, Digits digits n ∧ i = if negative then -(n : Int) else n := by
  unfold wholeNumber?
  rw [split]
  dsimp only
  rw [numberOf_digits]
  split
  · rename_i unfit
    constructor
    · rintro ⟨⟩
    · rintro ⟨n, fit, -⟩
      have decimal : digits.all Char.isDigit = true := List.all_eq_true.mpr fit.decimal
      simp [decimal, fit.nonempty] at unfit
  · rename_i fit
    have nonempty : digits ≠ [] := by
      rintro rfl
      exact fit (.inl rfl)
    have decimal : ∀ c ∈ digits, c.isDigit = true := by
      apply List.all_eq_true.mp
      simpa using fun other => fit (.inr other)
    constructor
    · intro read
      refine ⟨_, ⟨nonempty, decimal, rfl⟩, ?_⟩
      cases negative with
      | true => exact (Option.some.inj read).symm
      | false => exact (Option.some.inj read).symm
    · rintro ⟨n, named, rfl⟩
      rw [named.number]
      cases negative with
      | true => rfl
      | false => rfl

theorem wholeNumber?_eq_some_iff : wholeNumber? text = some i ↔ Numeral text.toList i := by
  constructor
  · intro read
    cases signed : sign text.toList with
    | mk negative digits =>
    obtain ⟨n, named, rfl⟩ := (wholeNumber?_of_sign signed).mp read
    unfold sign at signed
    split at signed
    · rename_i rest spelled
      obtain ⟨rfl, rfl⟩ := Prod.mk.inj signed
      rw [spelled]
      exact .plus named
    · rename_i rest spelled
      obtain ⟨rfl, rfl⟩ := Prod.mk.inj signed
      rw [spelled]
      exact .minus named
    · obtain ⟨rfl, rfl⟩ := Prod.mk.inj signed
      exact .unsigned named
  · intro spelled
    generalize whole : text.toList = cs at spelled
    cases spelled with
    | @unsigned _ n named =>
        have signed : sign text.toList = (false, cs) := by
          rw [whole]
          unfold sign
          -- A digit is not a sign.
          split
          · exact absurd (named.decimal '+' (by simp)) (by decide)
          · exact absurd (named.decimal '-' (by simp)) (by decide)
          · rfl
        exact (wholeNumber?_of_sign signed).mpr ⟨n, named, rfl⟩
    | @plus rest n named =>
        have signed : sign text.toList = (false, rest) := by
          rw [whole]
          rfl
        exact (wholeNumber?_of_sign signed).mpr ⟨n, named, rfl⟩
    | @minus rest n named =>
        have signed : sign text.toList = (true, rest) := by
          rw [whole]
          rfl
        exact (wholeNumber?_of_sign signed).mpr ⟨n, named, rfl⟩

theorem integer64?_eq_some_iff : value.integer64? = some i ↔ value.Denotes i := by
  cases value with
  | integer own => simp [integer64?, Denotes, eq_comm]
  | string s =>
      rw [integer64?, Option.filter_eq_some_iff, wholeNumber?_eq_some_iff, toList_trimBlank,
        Denotes, isWord64, Bool.and_eq_true, decide_eq_true_eq, decide_eq_true_eq]
  | _ => simp [integer64?, Denotes]

theorem truth?_eq_some_iff : value.truth? = some b ↔ value.Says b := by
  cases value with
  | boolean own => simp [truth?, Says, eq_comm]
  | string s =>
      unfold truth?
      dsimp only [Says]
      split
      · rename_i word
        rw [word]
        cases b with
        | true => simp
        | false => simp
      · split
        · rename_i word
          rw [word]
          cases b with
          | true => simp
          | false => simp
        · rename_i notTrue notFalse
          cases b with
          | true => simpa using notTrue
          | false => simpa using notFalse
  | _ => simp [truth?, Says]

end ViewerHost.Toml
