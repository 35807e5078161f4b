namespace ViewerHost

structure Binary64 where
  bits : UInt64
deriving DecidableEq, Repr

namespace Binary64

def hiddenBit : Nat := 0x10000000000000

def infinityBits : Nat := 0x7FF0000000000000

def isNegative (x : Binary64) : Bool := 0x8000000000000000 ≤ x.bits.toNat

def magnitude (x : Binary64) : Nat := x.bits.toNat % 0x8000000000000000

def isFinite (x : Binary64) : Bool := x.magnitude < infinityBits

def isNaN (x : Binary64) : Bool := infinityBits < x.magnitude

def isZero (x : Binary64) : Bool := x.magnitude == 0

def ofMagnitude (negative : Bool) (magnitude : Nat) : Binary64 :=
  ⟨UInt64.ofNat (magnitude + if negative then 0x8000000000000000 else 0)⟩

def infinity (negative : Bool) : Binary64 := ofMagnitude negative infinityBits

def zero (negative : Bool) : Binary64 := ofMagnitude negative 0

def nan : Binary64 := ⟨0x7FF8000000000000⟩

def significand (x : Binary64) : Nat :=
  if x.magnitude / hiddenBit = 0 then x.magnitude % hiddenBit
  else x.magnitude % hiddenBit + hiddenBit

def exponent (x : Binary64) : Int :=
  (if x.magnitude / hiddenBit = 0 then 1 else (x.magnitude / hiddenBit : Nat) : Int) - 1075

def ratio (x : Binary64) : Nat × Nat :=
  (x.significand * Nat.pow 2 x.exponent.toNat, Nat.pow 2 (-x.exponent).toNat)

/-- The nearest integer to `num / den`; of two equally near the even one. -/
def roundQuotient (num den : Nat) : Nat :=
  let quotient := num / den
  let doubled := 2 * (num % den)
  if doubled < den then quotient
  else if den < doubled then quotient + 1
  else quotient + quotient % 2

def floorLog2 (num den : Nat) : Int :=
  let k : Int := (num.log2 : Int) - den.log2
  if den * Nat.pow 2 k.toNat ≤ num * Nat.pow 2 (-k).toNat then k else k - 1

def ofRatio (negative : Bool) (num den : Nat) : Binary64 :=
  if num = 0 then zero negative
  else
    let unit : Int := max (floorLog2 num den - 52) (-1074)
    let significand := roundQuotient (num * Nat.pow 2 (-unit).toNat) (den * Nat.pow 2 unit.toNat)
    ofMagnitude negative (min ((unit + 1074).toNat * hiddenBit + significand) infinityBits)

def ofNat (negative : Bool) (n : Nat) : Binary64 := ofRatio negative n 1

def ofInt (i : Int) : Binary64 := ofNat (i < 0) i.natAbs

/-- The number nearest to `digits * 10 ^ power`. The first two cases only spare the arithmetic
where the answer is far outside the range. -/
def ofDecimal (negative : Bool) (digits : Nat) (power : Int) : Binary64 :=
  if digits = 0 then zero negative
  else if 1024 ≤ (digits.log2 : Int) + 3 * power ∧ 0 ≤ power then infinity negative
  else if (digits.log2 : Int) + 1 + 3 * power < -1075 ∧ power < 0 then zero negative
  else ofRatio negative (digits * Nat.pow 10 power.toNat) (Nat.pow 10 (-power).toNat)

def scaleUp (x factor : Binary64) : Binary64 :=
  ofRatio x.isNegative (x.ratio.1 * factor.ratio.1) (x.ratio.2 * factor.ratio.2)

def scaleDown (x divisor : Binary64) : Binary64 :=
  ofRatio x.isNegative (x.ratio.1 * divisor.ratio.2) (x.ratio.2 * divisor.ratio.1)

end Binary64

end ViewerHost
