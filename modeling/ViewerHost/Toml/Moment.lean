import ViewerHost.Time.Rfc3339

namespace ViewerHost

namespace Toml

structure ClockTime where
  hour : Nat
  minute : Nat
  second : Nat
  nanos : Nat
deriving DecidableEq, Repr

inductive Offset where
  | utc
  | minutes (n : Int)
deriving DecidableEq, Repr

structure Moment where
  date : Option CalendarDay
  time : Option ClockTime
  offset : Option Offset
deriving DecidableEq, Repr

namespace Moment

open Rfc3339 (padded numberOf)

def dateText (d : CalendarDay) : String :=
  padded 4 d.year.toNat ++ "-" ++ padded 2 d.month ++ "-" ++ padded 2 d.day

def fractionText (nanos : Nat) : String :=
  if nanos = 0 then ""
  else "." ++ String.ofList (Text.trimEnd (· == '0') (padded 9 nanos).toList)

def timeText (t : ClockTime) : String :=
  padded 2 t.hour ++ ":" ++ padded 2 t.minute ++ ":" ++ padded 2 t.second ++ fractionText t.nanos

def offsetText : Offset → String
  | .utc => "Z"
  | .minutes n =>
    (if n < 0 then "-" else "+") ++ padded 2 (n.natAbs / 60) ++ ":" ++ padded 2 (n.natAbs % 60)

def render (m : Moment) : String :=
  let date := (m.date.map dateText).getD ""
  let time := (m.time.map timeText).getD ""
  let separator := if m.date.isSome ∧ m.time.isSome then "T" else ""
  date ++ separator ++ time ++ (m.offset.map offsetText).getD ""

def digits? (width : Nat) (cs : List Char) : Option (Nat × List Char) :=
  let run := cs.take width
  if run.length = width ∧ run.all Char.isDigit then some (numberOf run, cs.drop width) else none

def mark? (c : Char) (cs : List Char) : Option (List Char) := Rfc3339.mark? c cs

def date? (cs : List Char) : Option (CalendarDay × List Char) := do
  let (year, cs) ← digits? 4 cs
  let cs ← mark? '-' cs
  let (month, cs) ← digits? 2 cs
  let cs ← mark? '-' cs
  let (day, cs) ← digits? 2 cs
  let date : CalendarDay := ⟨year, month, day⟩
  if date.isValid then some (date, cs) else none

def fraction? : List Char → Option (Nat × List Char)
  | '.' :: rest =>
    let run := rest.takeWhile Char.isDigit
    let kept := run.take 9
    if run.isEmpty then none
    else some (numberOf kept * Nat.pow 10 (9 - kept.length), rest.drop run.length)
  | rest => some (0, rest)

def time? (cs : List Char) : Option (ClockTime × List Char) := do
  let (hour, cs) ← digits? 2 cs
  let cs ← mark? ':' cs
  let (minute, cs) ← digits? 2 cs
  let cs ← mark? ':' cs
  let (second, cs) ← digits? 2 cs
  let (nanos, cs) ← fraction? cs
  if hour < 24 ∧ minute < 60 ∧ second ≤ 60 then some (⟨hour, minute, second, nanos⟩, cs) else none

def offset? (cs : List Char) : Option (Option Offset × List Char) :=
  let numeric (sign : Int) (cs : List Char) : Option (Option Offset × List Char) := do
    let (hour, cs) ← digits? 2 cs
    let cs ← mark? ':' cs
    let (minute, cs) ← digits? 2 cs
    if hour < 24 ∧ minute < 60 then some (some (.minutes (sign * (hour * 60 + minute))), cs)
    else none
  match cs with
  | 'Z' :: rest | 'z' :: rest => some (some .utc, rest)
  | '+' :: rest => numeric 1 rest
  | '-' :: rest => numeric (-1) rest
  | rest => some (none, rest)

def startsDate (cs : List Char) : Bool :=
  match digits? 4 cs with
  | some (_, '-' :: _) => true
  | _ => false

def startsTime (cs : List Char) : Bool :=
  match digits? 2 cs with
  | some (_, ':' :: _) => true
  | _ => false

def timeAfterDate? (cs : List Char) : Option (List Char) :=
  match cs with
  | 'T' :: rest | 't' :: rest | ' ' :: rest => if startsTime rest then some rest else none
  | _ => none

def read? (cs : List Char) : Option (Moment × List Char) :=
  if startsDate cs then do
    let (date, cs) ← date? cs
    match timeAfterDate? cs with
    | none => some (⟨some date, none, none⟩, cs)
    | some cs =>
      let (time, cs) ← time? cs
      let (offset, cs) ← offset? cs
      some (⟨some date, some time, offset⟩, cs)
  else do
    let (time, cs) ← time? cs
    some (⟨none, some time, none⟩, cs)

def ofText? (s : String) : Option Moment :=
  match read? s.toList with
  | some (m, []) => some m
  | _ => none

end Moment

end Toml

end ViewerHost
