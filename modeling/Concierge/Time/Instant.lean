/-!
# Instants

An instant is a number of seconds since the start of 1970 and a number of nanoseconds. A leap
second is the second before it with more than 999,999,999 nanoseconds. Dates are those of the
calendar whose leap years leave out three in four hundred years.
-/

namespace Concierge

structure Instant where
  seconds : Int
  nanos : Nat
deriving DecidableEq, Repr, Inhabited

namespace Instant

def le (a b : Instant) : Bool := a.seconds < b.seconds || (a.seconds = b.seconds && a.nanos ≤ b.nanos)

/-! ## Dates -/

structure Date where
  year : Int
  month : Nat
  day : Nat
deriving DecidableEq, Repr

def isLeapYear (year : Int) : Bool := year % 4 = 0 && (year % 100 ≠ 0 || year % 400 = 0)

def daysInMonth (year : Int) (month : Nat) : Nat :=
  if month = 2 then if isLeapYear year then 29 else 28
  else if month = 4 ∨ month = 6 ∨ month = 9 ∨ month = 11 then 30
  else 31

/-- The number of days from the first of March of the year 0 to the first of March of `year`. -/
def daysBeforeMarch (year : Int) : Int := 365 * year + year / 4 - year / 100 + year / 400

/-- The number of days from the first of March to the start of the `k`-th month after March. -/
def daysAfterMarch (k : Nat) : Nat := (153 * k + 2) / 5

/-- From the first of March of the year 0 to the start of 1970. -/
def epoch : Int := 719468

def Date.dayNumber (d : Date) : Int :=
  let shift := d.month < 3
  let year := if shift then d.year - 1 else d.year
  let k := if shift then d.month + 9 else d.month - 3
  daysBeforeMarch year + daysAfterMarch k + (d.day - 1) - epoch

def Date.ofDayNumber (n : Int) : Date :=
  let z := n + epoch
  let era := z / 146097
  let doe := (z % 146097).toNat
  let yoe := (doe - doe / 1460 + doe / 36524 - doe / 146096) / 365
  let doy := doe - (365 * yoe + yoe / 4 - yoe / 100)
  let k := (5 * doy + 2) / 153
  let day := doy - daysAfterMarch k + 1
  let month := if k < 10 then k + 3 else k - 9
  let year := (yoe : Int) + era * 400 + (if month ≤ 2 then 1 else 0)
  ⟨year, month, day⟩

/-- The first and the last year that an instant may lie in. -/
def minYear : Int := -262143

def maxYear : Int := 262142

end Instant

end Concierge
