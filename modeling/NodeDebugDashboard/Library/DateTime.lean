import Mathlib.Algebra.GroupWithZero.Nat
import Mathlib.Data.List.Basic

/-! Python's `datetime` with a time zone, in the proleptic Gregorian calendar of
the years 1 to 9999. -/
namespace Library

def microsecondsPerDay : Int := 24 * 60 * 60 * 1000000

def isLeap (year : Nat) : Bool := year % 4 = 0 && (year % 100 ≠ 0 || year % 400 = 0)

def daysInMonth (year month : Nat) : Nat :=
  if month = 2 then if isLeap year then 29 else 28
  else if month ∈ [4, 6, 9, 11] then 30 else 31

def daysBeforeYear (year : Nat) : Nat :=
  let past := year - 1
  past * 365 + past / 4 - past / 100 + past / 400

def daysBeforeMonth (year month : Nat) : Nat :=
  ((List.range (month - 1)).map fun past => daysInMonth year (past + 1)).sum

/-- The end of year 9999, in microseconds since the start of year 1. -/
def endOfTime : Int := daysBeforeYear 10000 * microsecondsPerDay

/-- What the clock on the wall shows, in microseconds since the start of year 1,
and how far it is ahead of UTC. -/
structure DateTime where
  wall : Int
  offset : Int
  inRange : 0 ≤ wall ∧ wall < endOfTime

namespace DateTime

def utc (time : DateTime) : Int := time.wall - time.offset

/-- `first < second` for times with a time zone. -/
def before (first second : DateTime) : Bool := first.utc < second.utc

/-- The time, unless it is outside the calendar. -/
def ofWall? (wall offset : Int) : Option DateTime :=
  if h : 0 ≤ wall ∧ wall < endOfTime then some ⟨wall, offset, h⟩ else none

/-- `time + timedelta(microseconds=delta)`; `none` for an `OverflowError`. -/
def add? (time : DateTime) (delta : Int) : Option DateTime :=
  ofWall? (time.wall + delta) time.offset

/-- `datetime(…)` from its fields, the offset in seconds; `none` for a
`ValueError`. -/
def ofFields? (year month day hour minute second microsecond : Nat) (offset : Int) :
    Option DateTime :=
  if 1 ≤ year ∧ 1 ≤ month ∧ month ≤ 12 ∧ 1 ≤ day ∧ day ≤ daysInMonth year month ∧ hour < 24 ∧
      minute < 60 ∧ second < 60 ∧ -86400 < offset ∧ offset < 86400 then
    let days := daysBeforeYear year + daysBeforeMonth year month + (day - 1)
    let seconds := hour * 3600 + minute * 60 + second
    ofWall? (days * microsecondsPerDay + (seconds * 1000000 + microsecond : Nat)) (offset * 1000000)
  else none

end DateTime
end Library
