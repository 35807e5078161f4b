import ViewerHost.Json.Value

/-!
Reading the numbers of JSON. Digits are collected in an unsigned word of 64 bits; what follows
the last digit that fits only moves the power of ten. The power is then applied by one rounded
multiplication or division, so that the last bit of a long fraction may differ from the nearest
number.
-/

namespace ViewerHost.Json

def wordLimit : Nat := 0x10000000000000000

def digitValue (c : Char) : Nat := c.toNat - '0'.toNat

def collect (limit n count : Nat) : List Char → Nat × Nat × List Char
  | [] => (n, count, [])
  | c :: rest =>
    if c.isDigit && n * 10 + digitValue c < limit then
      collect limit (n * 10 + digitValue c) (count + 1) rest
    else (n, count, c :: rest)

def skipDigits (cs : List Char) : Nat × List Char :=
  ((cs.takeWhile Char.isDigit).length, cs.dropWhile Char.isDigit)

def startsWithDigit : List Char → Bool
  | c :: _ => c.isDigit
  | [] => false

def powerOfTen (n : Nat) : Binary64 := Binary64.ofDecimal false 1 n

/-- Divides by `10 ^ 308` until the rest of the power is small enough to divide at once. -/
def shrink (x : Binary64) (power : Nat) : Binary64 :=
  if power ≤ 308 then x.scaleDown (powerOfTen power)
  else if x.isZero then x
  else shrink (x.scaleDown (powerOfTen 308)) (power - 308)
termination_by power

def scaled? (negative : Bool) (digits : Nat) (power : Int) : Option Binary64 :=
  let x := Binary64.ofNat negative digits
  if power < 0 then some (shrink x (-power).toNat)
  else if digits = 0 then some x
  else if 308 < power then none
  else
    let y := x.scaleUp (powerOfTen power.toNat)
    if y.isFinite then some y else none

def exponent? (cs : List Char) : Option (Int × List Char) :=
  let (negative, cs) := match cs with
    | '+' :: rest => (false, rest)
    | '-' :: rest => (true, rest)
    | rest => (false, rest)
  if startsWithDigit cs then
    let run := cs.takeWhile Char.isDigit
    let n := run.foldl (fun n c => 10 * n + digitValue c) 0
    some (if negative then -n else n, cs.drop run.length)
  else none

def fraction? (digits : Nat) (power : Int) (cs : List Char) : Option (Nat × Int × List Char) :=
  match cs with
  | '.' :: rest =>
    if startsWithDigit rest then
      let (digits, count, rest) := collect wordLimit digits 0 rest
      some (digits, power - count, (skipDigits rest).2)
    else none
  | rest => some (digits, power, rest)

def float? (negative : Bool) (digits : Nat) (power : Int) (cs : List Char) :
    Option (Json × List Char) := do
  let (digits, power, cs) ← fraction? digits power cs
  let (power, cs) ← match cs with
    | 'e' :: rest | 'E' :: rest => (exponent? rest).map fun (e, rest) => (power + e, rest)
    | rest => some (power, rest)
  let x ← scaled? negative digits power
  some (float x, cs)

def isFloatMark : List Char → Bool
  | c :: _ => c == '.' || c == 'e' || c == 'E'
  | [] => false

/-- A whole number without sign fits in 64 bits; with a sign it must fit the signed word. Minus
zero and whatever does not fit is a floating-point number. -/
def whole (negative : Bool) (digits : Nat) : Json :=
  if !negative then int digits
  else if digits = 0 ∨ 0x8000000000000000 < digits then float (Binary64.ofNat true digits)
  else int (-digits)

def unsigned? (negative : Bool) (cs : List Char) : Option (Json × List Char) :=
  match cs with
  | '0' :: rest =>
    if startsWithDigit rest then none
    else if isFloatMark rest then float? negative 0 0 rest
    else some (whole negative 0, rest)
  | c :: _ =>
    if c.isDigit then
      let (digits, _, rest) := collect wordLimit 0 0 cs
      if startsWithDigit rest then
        let (count, rest) := skipDigits rest
        float? negative digits count rest
      else if isFloatMark rest then float? negative digits 0 rest
      else some (whole negative digits, rest)
    else none
  | [] => none

def number? : List Char → Option (Json × List Char)
  | '-' :: rest => unsigned? true rest
  | cs => unsigned? false cs

end ViewerHost.Json
