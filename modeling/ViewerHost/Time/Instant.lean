namespace ViewerHost

/-- Seconds since the start of 1970 in UTC, and nanoseconds after that second. A leap second keeps
the number of the second before it and counts its nanoseconds from `1000000000` on. -/
structure Instant where
  seconds : Int
  nanos : Nat
deriving DecidableEq, Repr

namespace Instant

def nanosPerSecond : Nat := 1000000000

def toNanos (t : Instant) : Int := t.seconds * nanosPerSecond + t.nanos

def ofNanos (n : Int) : Instant := ⟨n / nanosPerSecond, (n % nanosPerSecond).toNat⟩

def le (a b : Instant) : Bool := a.seconds < b.seconds || (a.seconds == b.seconds && a.nanos ≤ b.nanos)

def lt (a b : Instant) : Bool := !le b a

def sub (a b : Instant) : Int := a.toNanos - b.toNanos

theorem seconds_le_of_le {a b : Instant} (h : a.le b = true) : a.seconds ≤ b.seconds := by
  simp only [le, Bool.or_eq_true, Bool.and_eq_true, decide_eq_true_eq, beq_iff_eq] at h
  omega

theorem toNanos_ofNanos (n : Int) : (ofNanos n).toNanos = n := by
  simp only [toNanos, ofNanos, nanosPerSecond]
  omega

end Instant

structure CalendarDay where
  year : Int
  month : Nat
  day : Nat
deriving DecidableEq, Repr

namespace CalendarDay

def isLeapYear (year : Int) : Bool :=
  year % 4 == 0 && (year % 100 != 0 || year % 400 == 0)

def daysInMonth (year : Int) (month : Nat) : Nat :=
  if month = 2 then if isLeapYear year then 29 else 28
  else if month = 4 ∨ month = 6 ∨ month = 9 ∨ month = 11 then 30
  else 31

def isValid (d : CalendarDay) : Bool :=
  1 ≤ d.month && d.month ≤ 12 && 1 ≤ d.day && d.day ≤ daysInMonth d.year d.month

/-- Days since the start of 1970. Years are counted from March, so that a leap day ends its year. -/
def toDays (d : CalendarDay) : Int :=
  let year := if d.month ≤ 2 then d.year - 1 else d.year
  let month : Int := if d.month ≤ 2 then d.month + 9 else d.month - 3
  let ofYear := year * 365 + year / 4 - year / 100 + year / 400
  ofYear + (153 * month + 2) / 5 + d.day - 719469

def ofDays (days : Int) : CalendarDay :=
  let shifted := days + 719468
  let period := shifted / 146097
  let dayOfPeriod := shifted % 146097
  let yearOfPeriod :=
    (dayOfPeriod - dayOfPeriod / 1460 + dayOfPeriod / 36524 - dayOfPeriod / 146096) / 365
  let dayOfYear := dayOfPeriod - (365 * yearOfPeriod + yearOfPeriod / 4 - yearOfPeriod / 100)
  let month := (5 * dayOfYear + 2) / 153
  let day := dayOfYear - (153 * month + 2) / 5 + 1
  let civil := if month < 10 then month + 3 else month - 9
  ⟨yearOfPeriod + period * 400 + if civil ≤ 2 then 1 else 0, civil.toNat, day.toNat⟩

def firstYear : Int := -262143

def lastYear : Int := 262142

end CalendarDay

namespace Instant

def secondsPerDay : Int := 86400

def firstSecond : Int := (CalendarDay.toDays ⟨CalendarDay.firstYear, 1, 1⟩) * secondsPerDay

def lastSecond : Int := (CalendarDay.toDays ⟨CalendarDay.lastYear, 12, 31⟩ + 1) * secondsPerDay - 1

def inRange (t : Instant) : Bool := firstSecond ≤ t.seconds && t.seconds ≤ lastSecond

def isLeap (t : Instant) : Bool := nanosPerSecond ≤ t.nanos

def settled (t : Instant) : Int := if t.isLeap then t.toNanos - nanosPerSecond else t.toNanos

/-- The instant `n` nanoseconds later, when it can be named. Past the end of a leap second, time is
counted as if the second before it had run that far. -/
def advance? (t : Instant) (n : Int) : Option Instant :=
  if t.isLeap && t.nanos + n < 2 * nanosPerSecond then some ⟨t.seconds, (t.nanos + n).toNat⟩
  else
    let moved := ofNanos (t.settled + n)
    if moved.inRange then some moved else none

theorem later_of_advance? {t u : Instant} {n : Int} (h : t.advance? n = some u) (pos : 0 < n) :
    t.seconds < u.seconds ∨
      t.seconds = u.seconds ∧ t.nanos < u.nanos ∧ u.nanos < 2 * nanosPerSecond := by
  unfold advance? at h
  split at h
  · rename_i stays
    obtain rfl := Option.some.inj h
    simp only [Bool.and_eq_true, decide_eq_true_eq] at stays
    refine Or.inr ⟨rfl, ?_, ?_⟩ <;> simp only [] <;> omega
  · rename_i leaves
    dsimp only at h
    split at h
    · obtain rfl := Option.some.inj h
      simp only [isLeap, Bool.and_eq_true, decide_eq_true_eq] at leaves
      by_cases leap : nanosPerSecond ≤ t.nanos <;>
        simp only [settled, isLeap, leap, ofNanos, toNanos, decide_true, decide_false, if_true,
          Bool.false_eq_true, if_false, true_and] at leaves ⊢ <;>
        simp only [nanosPerSecond] at * <;> omega
    · cases h

def day (t : Instant) : CalendarDay := CalendarDay.ofDays (t.seconds / secondsPerDay)

def secondOfDay (t : Instant) : Nat := (t.seconds % secondsPerDay).toNat

end Instant

end ViewerHost
