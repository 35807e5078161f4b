import ViewerHost.Decimal.Binary64

namespace ViewerHost

structure Decimal where
  digits : Nat
  power : Int
deriving DecidableEq, Repr

inductive TieRule where
  | up
  | toEven
deriving DecidableEq, Repr

namespace Decimal

def strip (digits : Nat) (power : Int) : Decimal :=
  if digits = 0 then ⟨0, power⟩
  else if digits % 10 = 0 then strip (digits / 10) (power + 1)
  else ⟨digits, power⟩
termination_by digits
decreasing_by exact Nat.div_lt_self (by omega) (by omega)

def floorLog10 (num den : Nat) : Int :=
  let reaches (k : Int) : Bool := den * Nat.pow 10 k.toNat ≤ num * Nat.pow 10 (-k).toNat
  let guess : Int := (Binary64.floorLog2 num den * 30103).fdiv 100000
  if reaches (guess + 1) then guess + 1 else if reaches guess then guess else guess - 1

def readsBack (x : Binary64) (digits : Nat) (power : Int) : Bool :=
  (Binary64.ofDecimal false digits power).magnitude == x.magnitude

/-- The point of the grid `10 ^ power` that reads back as `x` and lies nearest to it. Only the
two points around `x` are looked at: when any point of the grid reads back, one of these does. -/
def nearestOnGrid? (tie : TieRule) (x : Binary64) (power : Int) : Option Decimal :=
  let num := x.ratio.1 * Nat.pow 10 (-power).toNat
  let den := x.ratio.2 * Nat.pow 10 power.toNat
  let below := num / den
  let doubled := 2 * (num % den)
  let lowerFirst := doubled < den ∨ (doubled = den ∧ tie = .toEven ∧ below % 2 = 0)
  let nearer := if lowerFirst then below else below + 1
  let farther := if lowerFirst then below + 1 else below
  if readsBack x nearer power then some (strip nearer power)
  else if readsBack x farther power then some (strip farther power)
  else none

def exact (x : Binary64) : Decimal :=
  strip (x.significand * Nat.pow 2 x.exponent.toNat * Nat.pow 5 (-x.exponent).toNat)
    (min x.exponent 0)

def firstGrid (tie : TieRule) (x : Binary64) (top : Int) (digits : Nat) : Nat → Decimal
  | 0 => exact x
  | more + 1 =>
    match nearestOnGrid? tie x (top - digits) with
    | some found => found
    | none => firstGrid tie x top (digits + 1) more

/-- The shortest decimal that reads back as the absolute value of a finite number; the nearest of
them, and a tie as the rule says. -/
def shortest (tie : TieRule) (x : Binary64) : Decimal :=
  if x.isZero then ⟨0, 0⟩
  else firstGrid tie x (floorLog10 x.ratio.1 x.ratio.2) 0 17

end Decimal

end ViewerHost
