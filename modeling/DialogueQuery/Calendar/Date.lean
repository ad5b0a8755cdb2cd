import DialogueQuery.Number.Binary64

/-! Dates of the Gregorian calendar, times of day, and instants counted in
microseconds from the start of 1970 in universal time. -/

namespace DialogueQuery

def isLeapYear (year : Nat) : Bool := year % 4 == 0 && (year % 100 != 0 || year % 400 == 0)

def daysInMonth (year month : Nat) : Nat :=
  match month with
  | 2 => if isLeapYear year then 29 else 28
  | 4 | 6 | 9 | 11 => 30
  | _ => 31

/-- A day of a month that exists; the year is not looked at otherwise. -/
def IsMonthDay (year month day : Nat) : Prop :=
  1 ≤ month ∧ month ≤ 12 ∧ 1 ≤ day ∧ day ≤ daysInMonth year month

instance (year month day : Nat) : Decidable (IsMonthDay year month day) := by
  unfold IsMonthDay; infer_instance

/-- A date of the years 1 to 9999. -/
structure Date where
  year : Nat
  month : Nat
  day : Nat
  inCalendar : (1 ≤ year ∧ year ≤ 9999) ∧ IsMonthDay year month day
deriving DecidableEq, Repr

def Date.ofParts? (year month day : Nat) : Option Date :=
  if h : (1 ≤ year ∧ year ≤ 9999) ∧ IsMonthDay year month day then some ⟨year, month, day, h⟩
  else none

def daysBeforeMonth (year month : Nat) : Nat :=
  (List.range (month - 1)).foldr (fun m days => daysInMonth year (m + 1) + days) 0

def daysBeforeYear (year : Nat) : Nat :=
  let y := year - 1
  y * 365 + y / 4 - y / 100 + y / 400

/-- The number of a day, that of 1970-01-01 being zero. -/
def Date.dayNumber (d : Date) : Int :=
  (daysBeforeYear d.year + daysBeforeMonth d.year d.month + (d.day - 1) : Nat) - (719162 : Int)

/-- The month and day of the `n`-th day of a year, both counted from the given month on. -/
def monthDay (year month n : Nat) : Nat → Nat × Nat
  | 0 => (month, n + 1)
  | fuel + 1 =>
    if n < daysInMonth year month then (month, n + 1)
    else monthDay year (month + 1) (n - daysInMonth year month) fuel

/-- The year that holds the `n`-th day from 0001-01-01: four hundred years have
146097 days, and the estimate from the average length is at most one too high. -/
def yearOfDay (n : Nat) : Nat :=
  let estimate := n * 400 / 146097 + 1
  if daysBeforeYear (estimate + 1) ≤ n then estimate + 1
  else if n < daysBeforeYear estimate then estimate - 1 else estimate

def Date.ofDayNumber? (n : Int) : Option Date :=
  let n := n + 719162
  if n < 0 then none
  else
    let year := yearOfDay n.toNat
    let (month, day) := monthDay year 1 (n.toNat - daysBeforeYear year) 11
    Date.ofParts? year month day

structure TimeOfDay where
  hour : Nat
  minute : Nat
  second : Nat
  microsecond : Nat
  inDay : hour < 24 ∧ minute < 60 ∧ second < 60 ∧ microsecond < 1000000
deriving DecidableEq, Repr

def TimeOfDay.ofParts? (hour minute second microsecond : Nat) : Option TimeOfDay :=
  if h : hour < 24 ∧ minute < 60 ∧ second < 60 ∧ microsecond < 1000000 then
    some ⟨hour, minute, second, microsecond, h⟩
  else none

def TimeOfDay.midnight : TimeOfDay := ⟨0, 0, 0, 0, by decide⟩

def TimeOfDay.microseconds (t : TimeOfDay) : Nat :=
  ((t.hour * 60 + t.minute) * 60 + t.second) * 1000000 + t.microsecond

def TimeOfDay.ofMicroseconds? (n : Nat) : Option TimeOfDay :=
  TimeOfDay.ofParts? (n / 3600000000) (n / 60000000 % 60) (n / 1000000 % 60) (n % 1000000)

/-- A date and time, with the distance from universal time in minutes where it is known. -/
structure DateTime where
  date : Date
  time : TimeOfDay
  offset : Option Int
deriving DecidableEq, Repr

namespace DateTime

def microsecondsPerDay : Nat := 86400000000

/-- The instant in microseconds; without an offset the time is universal time. -/
def instant (t : DateTime) : Int :=
  t.date.dayNumber * microsecondsPerDay + t.time.microseconds
    - t.offset.getD 0 * 60000000

def ofInstant? (microseconds : Int) : Option DateTime := do
  let date ← Date.ofDayNumber? (microseconds.fdiv microsecondsPerDay)
  let time ← TimeOfDay.ofMicroseconds? (microseconds.fmod microsecondsPerDay).toNat
  return ⟨date, time, some 0⟩

/-- The seconds of an instant as the nearest binary64 number. -/
def timestamp (t : DateTime) : Binary64 :=
  Binary64.ofFraction (t.instant < 0) t.instant.natAbs 1000000

/-- Whole seconds since 1970: the timestamp without its fraction. -/
def toUnix (t : DateTime) : Int := t.timestamp.truncate?.getD 0

/-- Numbers beyond this count milliseconds, the others seconds. -/
def millisecondWatershed : Nat := 20000000000

def unitOfCount (count : Rat) : Int :=
  if -(millisecondWatershed : Rat) ≤ count ∧ count ≤ (millisecondWatershed : Rat) then 1000000
  else 1000

def instantOfInt (count : Int) : Int := count * unitOfCount count

/-- The instant of a finite binary64 count. What the count exceeds its floor by
is rounded when it is taken, when it is scaled, and to a whole microsecond, of
two equally near ones to the later. -/
def instantOfBinary64? (count : Binary64) : Option Int :=
  count.toRat?.map fun q =>
    let unit := unitOfCount q
    let excess := (Binary64.ofRat (q - q.floor)).mul (Binary64.ofInt unit)
    q.floor * unit + ((excess.toRat?.getD 0) + 1 / 2).floor

def yearZero : Int := -62167219200000000

end DateTime

end DialogueQuery
