import AggregateGateway.Json.Record
import AggregateGateway.Text.Blank
import AggregateGateway.Text.Numeral
import AggregateGateway.Time.Calendar

/-!
Instants as text. Writing follows RFC 3339; reading is lenient about blanks, the number of
digits and the form of the offset, and turns every offset into UTC.
-/

namespace AggregateGateway.Time

open Text

inductive Unreadable where
  | outOfRange
  | impossible
  | invalid
  | tooShort
  | tooLong
  deriving DecidableEq

def Unreadable.message : Unreadable → String
  | .outOfRange => "input is out of range"
  | .impossible => "no possible date and time matching input"
  | .invalid => "input contains invalid characters"
  | .tooShort => "premature end of input"
  | .tooLong => "trailing input"

/-- Between one and `limit` digits, together below 2⁶³. -/
def readDigits (limit : Nat) (cs : List Char) : Except Unreadable (Nat × List Char) :=
  match cs with
  | [] => .error .tooShort
  | c :: _ =>
    if !c.isDigit then .error .invalid
    else
      let ds := (cs.take limit).takeWhile Char.isDigit
      let n := ds.foldl (fun n d => 10 * n + (d.toNat - 0x30)) 0
      if n < UInt64.size / 2 then .ok (n, cs.drop ds.length) else .error .outOfRange

/-- A number in a range, after blanks. -/
def readField (limit low high : Nat) (cs : List Char) : Except Unreadable (Nat × List Char) :=
  match readDigits limit (trimStart cs) with
  | .error e => .error e
  | .ok (n, cs) => if low ≤ n ∧ n ≤ high then .ok (n, cs) else .error .outOfRange

/-- A year has four digits, or a sign and any number of them. -/
def readYear (cs : List Char) : Except Unreadable (Int × List Char) :=
  let inRange (n : Int) (cs : List Char) : Except Unreadable (Int × List Char) :=
    if Int32.minValue.toInt ≤ n ∧ n ≤ Int32.maxValue.toInt then .ok (n, cs)
    else .error .outOfRange
  match trimStart cs with
  | '-' :: cs => (readDigits cs.length cs).bind fun (n, cs) => inRange (-(n : Int)) cs
  | '+' :: cs => (readDigits cs.length cs).bind fun (n, cs) => inRange n cs
  | cs => (readDigits 4 cs).bind fun (n, cs) => inRange n cs

/-- A separator after blanks. -/
def readMark (mark : Char) (cs : List Char) : Except Unreadable (List Char) :=
  match trimStart cs with
  | [] => .error .tooShort
  | c :: cs => if c == mark then .ok cs else .error .invalid

def readDate (cs : List Char) : Except Unreadable ((Int × Nat × Nat) × List Char) := do
  let (year, cs) ← readYear cs
  let (month, cs) ← readField 2 1 12 (← readMark '-' cs)
  let (day, cs) ← readField 2 1 31 (← readMark '-' cs)
  return ((year, month, day), cs)

/-- Up to nine digits of a fraction of a second count, in nanoseconds. -/
def readFraction (cs : List Char) : Except Unreadable (Nat × List Char) :=
  match cs with
  | '.' :: cs =>
    (readDigits 9 cs).map fun (n, rest) =>
      (n * Nat.pow 10 (9 - (cs.length - rest.length)), rest.dropWhile Char.isDigit)
  | cs => .ok (0, cs)

def readClock (cs : List Char) : Except Unreadable ((Nat × Nat × Nat × Nat) × List Char) := do
  let (hour, cs) ← readField 2 0 23 cs
  let (minute, cs) ← readField 2 0 59 (← readMark ':' cs)
  let (second, cs) ← readField 2 0 60 (← readMark ':' cs)
  let (nano, cs) ← readFraction cs
  return ((hour, minute, second, nano), cs)

/-- Two characters that are octets each. -/
def readPair (cs : List Char) : Except Unreadable (Char × Char × List Char) :=
  match cs with
  | [] => .error .tooShort
  | [c] => .error (if c.utf8Size < 2 then .tooShort else .invalid)
  | a :: b :: cs => .ok (a, b, cs)

def pairValue (a b : Char) : Nat :=
  10 * (a.toNat - 0x30) + (b.toNat - 0x30)

/-- Hours and minutes after the sign of an offset, in seconds. -/
def readOffset (cs : List Char) : Except Unreadable (Nat × List Char) := do
  let (a, b, cs) ← readPair cs
  if !(a.isDigit && b.isDigit) then throw .invalid
  let hours := pairValue a b
  let (c, d, cs) ← readPair (cs.dropWhile fun c => c == ':' || isBlank c)
  if !(c.isDigit && d.isDigit) then throw .invalid
  if '6' ≤ c then throw .outOfRange
  return (hours * 3600 + pairValue c d * 60, cs)

def readZone (cs : List Char) : Except Unreadable (Int × List Char) :=
  match cs with
  | [] => .error .tooShort
  | c :: rest =>
    if (String.ofList (cs.take 3)).toUpper == "UTC" then .ok (0, cs.drop 3)
    else if c == 'Z' || c == 'z' then .ok (0, rest)
    else if c == '+' then (readOffset rest).map fun (n, cs) => (n, cs)
    else if c == '-' || c == '\u2212' then (readOffset rest).map fun (n, cs) => (-(n : Int), cs)
    else .error .invalid

def read (text : String) : Except Unreadable Instant := do
  let ((year, month, day), cs) ← readDate text.toList
  let cs ← match cs with
    | [] => throw .tooShort
    | c :: cs => if c == 'T' || c == 't' || c == ' ' then pure cs else throw .invalid
  let ((hour, minute, second, nano), cs) ← readClock cs
  let (offset, cs) ← readZone (trimStart cs)
  if !(trimStart cs).isEmpty then throw .tooLong
  let some date := Date.of? year month day | throw .outOfRange
  if secondsPerDay ≤ offset.natAbs then throw .outOfRange
  let leap := if second = 60 then 1 else 0
  let wall := ((hour * 60 + minute) * 60 + (second - leap) : Nat) - offset
  let day := wall.fdiv secondsPerDay
  let some date := date.shift? day | throw .impossible
  let some instant :=
      Instant.of? date (wall.fmod secondsPerDay).toNat (nano + leap * nanosPerSecond)
    | throw .outOfRange
  return instant

def writeYear (year : Int) : List Char :=
  if 0 ≤ year ∧ year ≤ 9999 then padded 4 year.natAbs
  else (if year < 0 then '-' else '+') :: padded 4 year.natAbs

/-- No, three, six or nine places, whichever are enough. -/
def writeFraction (nano : Nat) : List Char :=
  if nano = 0 then []
  else if nano % 1000000 = 0 then '.' :: padded 3 (nano / 1000000)
  else if nano % 1000 = 0 then '.' :: padded 6 (nano / 1000)
  else '.' :: padded 9 nano

def writeWith (zone : String) (t : Instant) : String :=
  String.ofList (writeYear t.date.year ++ '-' :: padded 2 t.date.month ++ '-' ::
    padded 2 t.date.day ++ 'T' :: padded 2 t.hour ++ ':' :: padded 2 t.minute ++ ':' ::
    padded 2 t.second ++ writeFraction t.fraction) ++ zone

/-- The form in documents. -/
def write (t : Instant) : String := writeWith "Z" t

/-- The form with a numeric offset. -/
def writeOffset (t : Instant) : String := writeWith "+00:00" t

def Instant.codec : Json.Codec Instant :=
  Json.parsed "an RFC 3339 formatted date and time string"
    (fun text => (read text).mapError Unreadable.message) write

end AggregateGateway.Time
