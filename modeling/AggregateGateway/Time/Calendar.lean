/-!
Days of the proleptic Gregorian calendar and instants in UTC. An instant may lie in a leap
second, which is counted as a longer last second of its minute. Leap seconds that follow any other
second are left out: they can be written, but their text is not read back as the same instant.
-/

namespace AggregateGateway.Time

def isLeapYear (year : Int) : Bool :=
  year % 4 == 0 && (year % 100 != 0 || year % 400 == 0)

def daysIn (year : Int) (month : Nat) : Nat :=
  match month with
  | 2 => if isLeapYear year then 29 else 28
  | 4 | 6 | 9 | 11 => 30
  | _ => 31

/-- The first and the last year that a date may have. -/
def firstYear : Int := -262143
def lastYear : Int := 262142

structure Date where
  year : Int
  month : Nat
  day : Nat
  year_ge : firstYear ≤ year
  year_le : year ≤ lastYear
  month_pos : 1 ≤ month
  month_le : month ≤ 12
  day_pos : 1 ≤ day
  day_le : day ≤ daysIn year month
  deriving DecidableEq

namespace Date

def of? (year : Int) (month day : Nat) : Option Date :=
  if h : (firstYear ≤ year ∧ year ≤ lastYear) ∧ (1 ≤ month ∧ month ≤ 12) ∧
      (1 ≤ day ∧ day ≤ daysIn year month) then
    some ⟨year, month, day, h.1.1, h.1.2, h.2.1.1, h.2.1.2, h.2.2.1, h.2.2.2⟩
  else none

/-- The day after, if the calendar has one. -/
def next? (d : Date) : Option Date :=
  if d.day < daysIn d.year d.month then of? d.year d.month (d.day + 1)
  else if d.month < 12 then of? d.year (d.month + 1) 1
  else of? (d.year + 1) 1 1

def previous? (d : Date) : Option Date :=
  if 1 < d.day then of? d.year d.month (d.day - 1)
  else if 1 < d.month then of? d.year (d.month - 1) (daysIn d.year (d.month - 1))
  else of? (d.year - 1) 12 31

/-- Moves by at most one day in either direction. -/
def shift? (d : Date) (days : Int) : Option Date :=
  if days < 0 then d.previous? else if days = 0 then some d else d.next?

end Date

def secondsPerDay : Nat := 86400
def nanosPerSecond : Nat := 1000000000

structure Instant where
  date : Date
  secondOfDay : Nat
  /-- Nanoseconds since the second began; a billion or more inside a leap second. -/
  nano : Nat
  second_lt : secondOfDay < secondsPerDay
  nano_lt : nano < 2 * nanosPerSecond
  /-- Leap seconds follow the last second of a minute. -/
  leap : nanosPerSecond ≤ nano → secondOfDay % 60 = 59
  deriving DecidableEq

namespace Instant

def of? (date : Date) (secondOfDay nano : Nat) : Option Instant :=
  if h : secondOfDay < secondsPerDay ∧ nano < 2 * nanosPerSecond ∧
      (nanosPerSecond ≤ nano → secondOfDay % 60 = 59) then
    some ⟨date, secondOfDay, nano, h.1, h.2.1, h.2.2⟩
  else none

def hour (t : Instant) : Nat := t.secondOfDay / 3600
def minute (t : Instant) : Nat := t.secondOfDay / 60 % 60

/-- The second as a clock shows it, 60 inside a leap second. -/
def second (t : Instant) : Nat :=
  t.secondOfDay % 60 + t.nano / nanosPerSecond

def fraction (t : Instant) : Nat :=
  t.nano % nanosPerSecond

/-- Position on the time line, to be compared part by part. -/
def order (t : Instant) : List Int :=
  [t.date.year, t.date.month, t.date.day, t.secondOfDay, t.nano]

def notAfter (s t : Instant) : Bool :=
  !(List.lex t.order s.order (· < ·))

end Instant

end AggregateGateway.Time
