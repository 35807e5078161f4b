import ViewerHost.Json.Reader
import ViewerHost.Toml.Value

namespace ViewerHost.Toml

def digit? (base : Nat) (c : Char) : Option Nat :=
  (Json.hexDigit? c).filter (· < base)

def moreDigits? (base : Nat) : List Char → Option (List Nat × List Char)
  | [] => some ([], [])
  | '_' :: c :: rest =>
    match digit? base c with
    | some d => (moreDigits? base rest).map fun (ds, final) => (d :: ds, final)
    | none => none
  | c :: rest =>
    if c = '_' then none
    else match digit? base c with
      | some d => (moreDigits? base rest).map fun (ds, final) => (d :: ds, final)
      | none => some ([], c :: rest)

def digits? (base : Nat) (cs : List Char) : Option (List Nat × List Char) :=
  match cs with
  | c :: rest =>
    match digit? base c with
    | some d => (moreDigits? base rest).map fun (ds, final) => (d :: ds, final)
    | none => none
  | [] => none

def numberOf (base : Nat) (ds : List Nat) : Nat := ds.foldl (fun n d => base * n + d) 0

def decimalDigits? : List Char → Option (List Nat × List Char)
  | '0' :: rest => some ([0], rest)
  | cs => digits? 10 cs

def integer? (i : Int) : Option Toml :=
  if -0x8000000000000000 ≤ i ∧ i < 0x8000000000000000 then some (integer i) else none

def sign : List Char → Bool × List Char
  | '+' :: rest => (false, rest)
  | '-' :: rest => (true, rest)
  | rest => (false, rest)

def exponent? (cs : List Char) : Option (Int × List Char) :=
  match cs with
  | 'e' :: rest | 'E' :: rest => do
    let (negative, rest) := sign rest
    let (ds, rest) ← digits? 10 rest
    let n := numberOf 10 ds
    some (if negative then -n else n, rest)
  | rest => some (0, rest)

/-- The nearest number. Past the last finite one only a negative number is taken, as negative
infinity. -/
def float? (negative : Bool) (digits : Nat) (power : Int) : Option Toml :=
  let x := Binary64.ofDecimal negative digits power
  if x.isFinite ∨ negative then some (float x) else none

def special? (negative : Bool) : List Char → Option (Toml × List Char)
  | 'i' :: 'n' :: 'f' :: rest => some (float (.infinity negative), rest)
  | 'n' :: 'a' :: 'n' :: rest => some (float .nan, rest)
  | _ => none

def signed? (negative : Bool) (cs : List Char) : Option (Toml × List Char) :=
  match special? negative cs with
  | some found => some found
  | none => do
    let (whole, cs) ← decimalDigits? cs
    match cs with
    | '.' :: rest =>
      let (fraction, rest) ← digits? 10 rest
      let (power, rest) ← exponent? rest
      let x ← float? negative (numberOf 10 (whole ++ fraction)) (power - fraction.length)
      some (x, rest)
    | 'e' :: _ | 'E' :: _ =>
      let (power, rest) ← exponent? cs
      let x ← float? negative (numberOf 10 whole) power
      some (x, rest)
    | rest =>
      let n := numberOf 10 whole
      let i ← integer? (if negative then -n else n)
      some (i, rest)

def based? (base : Nat) (cs : List Char) : Option (Toml × List Char) := do
  let (ds, rest) ← digits? base cs
  let i ← integer? (numberOf base ds)
  some (i, rest)

def number? : List Char → Option (Toml × List Char)
  | '0' :: 'x' :: rest => based? 16 rest
  | '0' :: 'o' :: rest => based? 8 rest
  | '0' :: 'b' :: rest => based? 2 rest
  | cs =>
    let (negative, rest) := sign cs
    signed? negative rest

end ViewerHost.Toml
