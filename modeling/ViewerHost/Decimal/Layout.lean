import ViewerHost.Decimal.Shortest

namespace ViewerHost

/-- The choices of one written form. The point stands before digit `0` when its position is `0`,
after digit `n` when it is `n`. -/
structure FloatLayout where
  tie : TieRule
  inPlace : Int → Bool
  wholeEnding : String
  nan : String
  infinity : String
  negativeInfinity : String

namespace FloatLayout

def zeros (n : Nat) : String := String.ofList (List.replicate n '0')

def positional (layout : FloatLayout) (digits : List Char) (point : Int) : String :=
  if point ≤ 0 then "0." ++ zeros (-point).toNat ++ String.ofList digits
  else if digits.length ≤ point.toNat then
    String.ofList digits ++ zeros (point.toNat - digits.length) ++ layout.wholeEnding
  else
    String.ofList (digits.take point.toNat) ++ "." ++ String.ofList (digits.drop point.toNat)

def scientific (digits : List Char) (point : Int) : String :=
  let power := point - 1
  let others := digits.drop 1
  String.ofList (digits.take 1) ++
    (if others.isEmpty then "" else "." ++ String.ofList others) ++
    (if power < 0 then "e-" else "e+") ++ toString power.natAbs

def render (layout : FloatLayout) (x : Binary64) : String :=
  if x.isNaN then layout.nan
  else if !x.isFinite then if x.isNegative then layout.negativeInfinity else layout.infinity
  else
    let sign := if x.isNegative then "-" else ""
    if x.isZero then sign ++ "0" ++ layout.wholeEnding
    else
      let decimal := Decimal.shortest layout.tie x
      let digits := Nat.toDigits 10 decimal.digits
      let point := digits.length + decimal.power
      sign ++ if layout.inPlace point then layout.positional digits point
        else scientific digits point

def plain : FloatLayout where
  tie := .up
  inPlace := fun _ => true
  wholeEnding := ""
  nan := "NaN"
  infinity := "inf"
  negativeInfinity := "-inf"

end FloatLayout

namespace Binary64

def toPlainText (x : Binary64) : String := FloatLayout.plain.render x

end Binary64

end ViewerHost
