import DialogueQuery.Calendar.Date
import DialogueQuery.Number.Text

/-! Dates and times as text: the extended calendar format, written in one form
and read in several, and plain numbers that count from the start of 1970. -/

namespace DialogueQuery

def paddedDigits (width n : Nat) : List Char :=
  let digits := Nat.toDigits 10 n
  List.replicate (width - digits.length) '0' ++ digits

namespace DateTime

def dateChars (d : Date) : List Char :=
  paddedDigits 4 d.year ++ '-' :: paddedDigits 2 d.month ++ '-' :: paddedDigits 2 d.day

def timeChars (t : TimeOfDay) : List Char :=
  paddedDigits 2 t.hour ++ ':' :: paddedDigits 2 t.minute ++ ':' :: paddedDigits 2 t.second
    ++ if t.microsecond = 0 then [] else '.' :: paddedDigits 6 t.microsecond

def offsetChars : Option Int → List Char
  | none => []
  | some minutes =>
    let n := minutes.natAbs
    (if minutes < 0 then '-' else '+') :: paddedDigits 2 (n / 60) ++ ':' :: paddedDigits 2 (n % 60)

/-- The written form; the fraction of a second has six digits or is left out. -/
def isoFormat (t : DateTime) : String :=
  String.ofList (dateChars t.date ++ 'T' :: timeChars t.time ++ offsetChars t.offset)

inductive ReadError where
  /-- The text has no form that is read. -/
  | unreadable
  /-- The form is read, but the calendar does not reach that far. -/
  | outOfRange
  /-- A value of another kind. -/
  | wrongKind
deriving DecidableEq, Repr

def number? (cs : List Char) : Option Nat :=
  if cs.all Char.isDigit && !cs.isEmpty then
    some (cs.foldl (fun n c => n * 10 + (c.toNat - '0'.toNat)) 0)
  else none

def readDateParts (cs : List Char) : Option ((Nat × Nat × Nat) × List Char) :=
  match cs with
  | a :: b :: c :: d :: '-' :: e :: f :: '-' :: g :: h :: rest => do
    let year ← number? [a, b, c, d]
    let month ← number? [e, f]
    let day ← number? [g, h]
    if IsMonthDay year month day then return ((year, month, day), rest) else none
  | _ => none

def readClock (cs : List Char) : Option ((Nat × Nat × Nat) × List Char) :=
  match cs with
  | a :: b :: ':' :: c :: d :: ':' :: e :: f :: rest => do
    return ((← number? [a, b], ← number? [c, d], ← number? [e, f]), rest)
  | a :: b :: ':' :: c :: d :: rest => do
    return ((← number? [a, b], ← number? [c, d], 0), rest)
  | _ => none

/-- A fraction of a second after a point or a comma, cut after six digits. -/
def readFraction (cs : List Char) : Option (Nat × List Char) :=
  match cs with
  | c :: rest =>
    if c = '.' ∨ c = ',' then
      let digits := rest.takeWhile Char.isDigit
      let six := (digits ++ List.replicate 6 '0').take 6
      if digits.isEmpty then none
      else (number? six).map fun n => (n, rest.drop digits.length)
    else some (0, cs)
  | [] => some (0, [])

/-- The distance from universal time: none, `Z`, or hours and minutes with a sign. -/
def readOffset (cs : List Char) : Option (Option Int) :=
  let signed (sign : Char) (hours minutes : Option Nat) : Option (Option Int) := do
    let h ← hours
    let m ← minutes
    if m < 60 ∧ h * 60 + m < 1440 then
      let n : Int := h * 60 + m
      if sign = '+' then return some n
      else if sign = '-' ∨ sign = '\u2212' then return some (-n) else none
    else none
  match cs with
  | [] => some none
  | ['Z'] | ['z'] => some (some 0)
  | [s, a, b, ':', c, d] => signed s (number? [a, b]) (number? [c, d])
  | [s, a, b, c, d] => signed s (number? [a, b]) (number? [c, d])
  | _ => none

/-- Whether a fraction may follow: only seconds that are written have one. -/
def hasSeconds (cs : List Char) : Bool :=
  match cs with
  | _ :: _ :: ':' :: _ :: _ :: ':' :: _ => true
  | _ => false

def readTime (cs : List Char) : Option (TimeOfDay × Option Int) := do
  let ((hour, minute, second), rest) ← readClock cs
  let (microsecond, rest) ← if hasSeconds cs then readFraction rest else some (0, rest)
  let offset ← readOffset rest
  let time ← TimeOfDay.ofParts? hour minute second microsecond
  return (time, offset)

/-- The calendar form: a date alone, or a date and a time with a separator. -/
def readCalendar (cs : List Char) : Except ReadError DateTime :=
  match readDateParts cs with
  | none => .error .unreadable
  | some ((year, month, day), rest) =>
    let timed : Option (TimeOfDay × Option Int) := match rest with
      | [] => some (.midnight, none)
      | c :: rest => if c ∈ ['T', 't', ' ', '_'] then readTime rest else none
    match timed with
    | none => .error .unreadable
    | some (time, offset) => match Date.ofParts? year month day with
      | none => .error .outOfRange
      | some date => .ok ⟨date, time, offset⟩

/-- The instant that a count in a text stands for: an integer, or with a point
a binary64 number, which may have an exponent. -/
def readCount (cs : List Char) : Option (Option Int) :=
  let (negative, body) := Text.splitSign cs
  let whole := body.takeWhile Char.isDigit
  match body.drop whole.length with
  | [] => (number? whole).map fun n => some (instantOfInt (Text.signed negative n))
  | '.' :: _ => (Text.decimal? body).map fun d => instantOfBinary64? (d.toBinary64 negative)
  | _ => none

/-- The date and time of a count in a text. One that is out of reach is taken
for no count at all, except in the year before the first one. -/
def ofCountedInstant (instant : Int) : Except ReadError DateTime :=
  match ofInstant? instant with
  | some t => .ok t
  | none => if yearZero ≤ instant ∧ instant < 0 then .error .outOfRange else .error .unreadable

def ofText (s : String) : Except ReadError DateTime :=
  match readCount s.toList with
  | some (some instant) => ofCountedInstant instant
  | some none => .error .unreadable
  | none => readCalendar s.toList

def ofBinary64 (x : Binary64) : Except ReadError DateTime :=
  ((instantOfBinary64? x).bind ofInstant?).elim (.error .outOfRange) .ok

/-- An integer counts only if it is in the range of binary64 numbers. -/
def ofInt (n : Int) : Except ReadError DateTime :=
  match Binary64.ofInt n with
  | .finite .. => (ofInstant? (instantOfInt n)).elim (.error .outOfRange) .ok
  | _ => .error .wrongKind

end DateTime

end DialogueQuery
