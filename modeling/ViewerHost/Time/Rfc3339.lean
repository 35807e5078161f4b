import ViewerHost.Text.Blank
import ViewerHost.Time.Instant

/-!
Instants written as RFC 3339 dates. The reader also takes blanks between the parts, one-digit
fields, years of any length after a sign, and offsets other than UTC.
-/

namespace ViewerHost.Rfc3339

open Text

def padded (width n : Nat) : String :=
  let digits := Nat.toDigits 10 n
  String.ofList (List.replicate (width - digits.length) '0' ++ digits)

/-- Four digits, with a sign once the year is outside `0` to `9999`. -/
def yearText (year : Int) : String :=
  if 0 ≤ year ∧ year ≤ 9999 then padded 4 year.toNat
  else (if year < 0 then "-" else "+") ++ padded 4 year.natAbs

def fractionText (nanos : Nat) : String :=
  if nanos = 0 then ""
  else if nanos % 1000000 = 0 then "." ++ padded 3 (nanos / 1000000)
  else if nanos % 1000 = 0 then "." ++ padded 6 (nanos / 1000)
  else "." ++ padded 9 nanos

def render (utc : String) (t : Instant) : String :=
  let day := t.day
  let leap := if Instant.nanosPerSecond ≤ t.nanos then 1 else 0
  let second := t.secondOfDay % 60 + leap
  yearText day.year ++ "-" ++ padded 2 day.month ++ "-" ++ padded 2 day.day ++ "T" ++
    padded 2 (t.secondOfDay / 3600) ++ ":" ++ padded 2 (t.secondOfDay / 60 % 60) ++ ":" ++
    padded 2 second ++ fractionText (t.nanos - leap * Instant.nanosPerSecond) ++ utc

def digitValue (c : Char) : Nat := c.toNat - '0'.toNat

def numberOf (digits : List Char) : Nat :=
  digits.foldl (fun n c => 10 * n + digitValue c) 0

def skipBlanks (cs : List Char) : List Char := cs.dropWhile isBlank

def digits? (width : Nat) (cs : List Char) : Option (Nat × List Char) :=
  let run := (cs.take width).takeWhile Char.isDigit
  if run.isEmpty then none else some (numberOf run, cs.drop run.length)

def field? (cs : List Char) : Option (Nat × List Char) := digits? 2 (skipBlanks cs)

def mark? (c : Char) : List Char → Option (List Char)
  | [] => none
  | d :: rest => if c = d then some rest else none

def year? (cs : List Char) : Option (Int × List Char) :=
  match skipBlanks cs with
  -- A sign lifts the limit of four digits.
  | '-' :: rest => (digits? rest.length rest).map fun (n, rest) => (-n, rest)
  | '+' :: rest => (digits? rest.length rest).map fun (n, rest) => (n, rest)
  | rest => (digits? 4 rest).map fun (n, rest) => (n, rest)

/-- The nanoseconds of an optional fraction; digits after the ninth are passed over. -/
def fraction? : List Char → Option (Nat × List Char)
  | '.' :: rest =>
    let run := (rest.take 9).takeWhile Char.isDigit
    if run.isEmpty then none
    else some (numberOf run * Nat.pow 10 (9 - run.length), rest.dropWhile Char.isDigit)
  | rest => some (0, rest)

def offsetAmount? : List Char → Option (Int × List Char)
  | h1 :: h2 :: rest =>
    if h1.isDigit && h2.isDigit then
      match rest.dropWhile fun c => c == ':' || isBlank c with
      | m1 :: m2 :: rest =>
        if m1.isDigit && m2.isDigit && digitValue m1 < 6 then
          some (numberOf [h1, h2] * 3600 + numberOf [m1, m2] * 60, rest)
        else none
      | _ => none
    else none
  | _ => none

def offset? (cs : List Char) : Option (Int × List Char) :=
  match skipBlanks cs with
  | 'Z' :: rest | 'z' :: rest => some (0, rest)
  | '+' :: rest => offsetAmount? rest
  | '-' :: rest | '−' :: rest => (offsetAmount? rest).map fun (n, rest) => (-n, rest)
  | u :: t :: c :: rest =>
    if u.toLower = 'u' ∧ t.toLower = 't' ∧ c.toLower = 'c' then some (0, rest) else none
  | _ => none

def date? (cs : List Char) : Option (CalendarDay × List Char) := do
  let (year, cs) ← year? cs
  let cs ← mark? '-' (skipBlanks cs)
  let (month, cs) ← field? cs
  let cs ← mark? '-' (skipBlanks cs)
  let (day, cs) ← field? cs
  let date : CalendarDay := ⟨year, month, day⟩
  if date.isValid ∧ CalendarDay.firstYear ≤ year ∧ year ≤ CalendarDay.lastYear then some (date, cs)
  else none

/-- Seconds since midnight, and nanoseconds. A second numbered sixty is a leap second. -/
def time? (cs : List Char) : Option (Nat × Nat × List Char) := do
  let (hour, cs) ← field? cs
  let cs ← mark? ':' (skipBlanks cs)
  let (minute, cs) ← field? cs
  let cs ← mark? ':' (skipBlanks cs)
  let (second, cs) ← field? cs
  let (nanos, cs) ← fraction? cs
  if hour < 24 ∧ minute < 60 ∧ second ≤ 60 then
    let leap := second / 60
    some (hour * 3600 + minute * 60 + (second - leap),
      nanos + leap * Instant.nanosPerSecond, skipBlanks cs)
  else none

def separator? : List Char → Option (List Char)
  | 'T' :: rest | 't' :: rest | ' ' :: rest => some rest
  | _ => none

def read? (text : String) : Option Instant := do
  let (date, cs) ← date? text.toList
  let cs ← separator? cs
  let (second, nanos, cs) ← time? cs
  let (offset, cs) ← offset? cs
  let t : Instant := ⟨date.toDays * Instant.secondsPerDay + second - offset, nanos⟩
  if (skipBlanks cs).isEmpty ∧ offset.natAbs < 86400 ∧ t.inRange then some t else none

end ViewerHost.Rfc3339

namespace ViewerHost

namespace Instant

def toText (t : Instant) : String := Rfc3339.render "Z" t

def toPlainText (t : Instant) : String := Rfc3339.render "+00:00" t

end Instant

end ViewerHost
