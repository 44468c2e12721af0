import AggregateGateway.Json.Fault
import AggregateGateway.Text.Utf8

/-!
The lexical parts of a document: words, numbers and strings. `escape` writes what
`readString` reads.
-/

namespace AggregateGateway.Json

open Text

/-- Reads the remaining letters of a word whose first letter is consumed. -/
def readWord : List UInt8 → Bytes → Except Fault Bytes
  | [], s => .ok s
  | _ :: _, [] => .error (.behind .endInValue [])
  | w :: ws, b :: s => if b == w then readWord ws s else .error (.behind .wordExpected s)

/-- The letters of the words after their first one. -/
def nullTail : Bytes := utf8 "ull"
def trueTail : Bytes := utf8 "rue"
def falseTail : Bytes := utf8 "alse"

inductive Number where
  | natural (n : Nat)
  | negative (n : Nat)
  | real (x : Float)

def Number.found : Number → Found
  | .natural n => .integer n
  | .negative n => .integer (-(n : Int))
  | .real x => .real x

def signedFloat (negative : Bool) (x : Float) : Float :=
  if negative then -x else x

/-- `significand * 10 ^ exponent`, computed in steps of at most 10³⁰⁸. -/
def scaled? (significand : Nat) (exponent : Int) : Option Float :=
  let start := significand.toUInt64.toFloat
  let rec go (fuel : Nat) (x : Float) (exponent : Int) : Option Float :=
    if exponent.natAbs ≤ 308 then
      let power := Float.ofScientific 1 false exponent.natAbs
      if 0 ≤ exponent then
        let y := x * power
        if y.isInf then none else some y
      else some (x / power)
    else if x == 0.0 then some x
    else if 0 ≤ exponent then none
    else match fuel with
      | 0 => some 0.0
      | n + 1 => go n (x / 1e308) (exponent + 308)
  go 3 start exponent

def readScaled (negative : Bool) (significand : Nat) (exponent : Int) : Reader Number := fun s =>
  match scaled? significand exponent with
  | some x => .ok (.real (signedFloat negative x), s)
  | none => .error (.behind .numberOutOfRange s)

/-- After the exponent mark. Exponents beyond 32 bits give zero or are out of range. -/
def readExponent (negative : Bool) (significand : Nat) (start : Int) : Reader Number := fun s =>
  let (down, s) := match s with
    | 0x2B :: s => (false, s)
    | 0x2D :: s => (true, s)
    | s => (false, s)
  match s with
  | [] => .error (.behind .endInValue [])
  | d :: s =>
    if !isDigitOctet d then .error (.behind .numberInvalid s)
    else go down (digitValue d) s
where
  go (down : Bool) (exponent : Nat) : Reader Number
    | [] => finish down exponent []
    | d :: s =>
      if isDigitOctet d then
        if 10 * exponent + digitValue d < UInt32.size / 2 then
          go down (10 * exponent + digitValue d) s
        else if significand != 0 && !down then .error (.behind .numberOutOfRange s)
        else .ok (.real (signedFloat negative 0.0), s.dropWhile isDigitOctet)
      else finish down exponent (d :: s)
  finish (down : Bool) (exponent : Nat) : Reader Number :=
    readScaled negative significand (if down then start - exponent else start + exponent)

def atExponent (s : Bytes) : Option Bytes :=
  match s with
  | 0x65 :: s => some s
  | 0x45 :: s => some s
  | _ => none

def readScaledOrExponent (negative : Bool) (significand : Nat) (exponent : Int) :
    Reader Number := fun s =>
  match atExponent s with
  | some s => readExponent negative significand exponent s
  | none => readScaled negative significand exponent s

/-- After the decimal point. Digits that do not fit into 64 bits any more are dropped. -/
def readFraction (negative : Bool) (significand : Nat) (exponent : Int) : Reader Number := fun s =>
  go significand 0 s
where
  go (significand places : Nat) : Reader Number
    | [] => finish significand places []
    | d :: s =>
      if isDigitOctet d then
        if 10 * significand + digitValue d < UInt64.size then
          go (10 * significand + digitValue d) (places + 1) s
        else
          readScaledOrExponent negative significand (exponent - places)
            ((d :: s).dropWhile isDigitOctet)
      else finish significand places (d :: s)
  finish (significand places : Nat) : Reader Number := fun s =>
    if places == 0 then
      .error (.ahead (if s.isEmpty then .endInValue else .numberInvalid) s)
    else readScaledOrExponent negative significand (exponent - places) s

/-- Digits beyond 64 bits only count. -/
def readLong (negative : Bool) (significand : Nat) (s : Bytes) : Except Fault (Number × Bytes) :=
  let dropped := (s.takeWhile isDigitOctet).length
  match s.dropWhile isDigitOctet with
  | 0x2E :: s => readFraction negative significand dropped s
  | s => readScaledOrExponent negative significand dropped s

/-- What follows the integer part. An integer stays one if it fits into 64 bits. -/
def readRemainder (negative : Bool) (significand : Nat) (s : Bytes) :
    Except Fault (Number × Bytes) :=
  match s with
  | 0x2E :: s => readFraction negative significand 0 s
  | s =>
    match atExponent s with
    | some s => readExponent negative significand 0 s
    | none =>
      if !negative then .ok (.natural significand, s)
      else if significand == 0 || significand > UInt64.size / 2 then
        .ok (.real (-significand.toUInt64.toFloat), s)
      else .ok (.negative significand, s)

def readDigits (negative : Bool) (significand : Nat) : Reader Number
  | [] => readRemainder negative significand []
  | d :: s =>
    if isDigitOctet d then
      if 10 * significand + digitValue d < UInt64.size then
        readDigits negative (10 * significand + digitValue d) s
      else readLong negative significand (d :: s)
    else readRemainder negative significand (d :: s)

/-- A number after its sign. -/
def readUnsigned (negative : Bool) : Reader Number
  | [] => .error (.behind .endInValue [])
  | d :: s =>
    if d == 0x30 then
      match s with
      | e :: _ =>
        if isDigitOctet e then .error (.ahead .numberInvalid s) else readRemainder negative 0 s
      | [] => readRemainder negative 0 s
    else if isDigitOctet d then readDigits negative (digitValue d) s
    else .error (.behind .numberInvalid s)

/-- A number, the first octet of which is known to be a minus sign or a digit. -/
def readNumber : Reader Number
  | 0x2D :: s => readUnsigned true s
  | s => readUnsigned false s

/-- Four hexadecimal digits. -/
def readHex : Reader Nat
  | a :: b :: c :: d :: s =>
    match hexValue? a, hexValue? b, hexValue? c, hexValue? d with
    | some a, some b, some c, some d => .ok (((a * 16 + b) * 16 + c) * 16 + d, s)
    | _, _, _, _ => .error (.behind .escapeInvalid s)
  | _ => .error (.behind .endInString [])

/-- What a one-letter escape stands for. -/
def unescape? (b : UInt8) : Option UInt8 :=
  if b == 0x22 || b == 0x5C || b == 0x2F then some b
  else if b == 0x62 then some 0x08
  else if b == 0x66 then some 0x0C
  else if b == 0x6E then some 0x0A
  else if b == 0x72 then some 0x0D
  else if b == 0x74 then some 0x09
  else none

def isLead (n : Nat) : Bool := 0xD800 ≤ n && n ≤ 0xDBFF
def isTrail (n : Nat) : Bool := 0xDC00 ≤ n && n ≤ 0xDFFF

/-- Consumes one octet that the second half of a surrogate pair needs. -/
def expectOctet (b : UInt8) : Bytes → Except Fault Bytes
  | [] => .error (.behind .endInString [])
  | c :: s => if c == b then .ok s else .error (.behind .surrogateUnfinished s)

/-- A character given by its code, which for one beyond U+FFFF is a pair of codes. -/
def readCode : Reader Char := fun s =>
  match readHex s with
  | .error f => .error f
  | .ok (n, s) =>
    if isTrail n then .error (.behind .loneSurrogate s)
    else if !isLead n then .ok (Char.ofNat n, s)
    else
      match (expectOctet 0x5C s).bind (expectOctet 0x75) with
      | .error f => .error f
      | .ok s =>
        match readHex s with
        | .error f => .error f
        | .ok (m, s) =>
          if isTrail m then
            .ok (Char.ofNat (0x10000 + (n - 0xD800) * 0x400 + (m - 0xDC00)), s)
          else .error (.behind .loneSurrogate s)

/-- The octets of a string after its opening quote, escapes resolved, in reverse. -/
def readStringOctets (fuel : Bytes) (done : Bytes) (s : Bytes) : Except Fault (Bytes × Bytes) :=
  match fuel, s with
  | _, [] => .error (.behind .endInString [])
  | [], s => .error (.behind .endInString s)
  | _ :: fuel, b :: s =>
    if b == 0x22 then .ok (done, s)
    else if b == 0x5C then
      match s with
      | [] => .error (.behind .endInString [])
      | e :: s =>
        if e == 0x75 then
          match readCode s with
          | .error f => .error f
          | .ok (c, s) => readStringOctets fuel ((utf8 (String.singleton c)).reverse ++ done) s
        else match unescape? e with
          | some c => readStringOctets fuel (c :: done) s
          | none => .error (.behind .escapeInvalid s)
    else if b < 0x20 then .error (.behind .controlInString s)
    else readStringOctets fuel (b :: done) s

/-- A string after its opening quote. One that is no text is at fault as far before its end as
its octets, escapes resolved, go on after the last valid character. -/
def readString : Reader String := fun s =>
  match readStringOctets s [] s with
  | .error f => .error f
  | .ok (done, rest) =>
    match text? done.reverse with
    | some text => .ok (text, rest)
    | none =>
      let place := s.length - rest.length - (invalidPart done.reverse).length
      .error (.behind .codePointInvalid (s.drop place))

/-- Passes over a string after its opening quote, without resolving its escapes. -/
def skipString (fuel : Bytes) (s : Bytes) : Except Fault Bytes :=
  match fuel, s with
  | _, [] => .error (.behind .endInString [])
  | [], s => .error (.behind .endInString s)
  | _ :: fuel, b :: s =>
    if b == 0x22 then .ok s
    else if b == 0x5C then
      match s with
      | [] => .error (.behind .endInString [])
      | e :: s =>
        if e == 0x75 then
          match readHex s with
          | .error f => .error f
          | .ok (_, s) => skipString fuel s
        else if (unescape? e).isSome then skipString fuel s
        else .error (.behind .escapeInvalid s)
    else if b < 0x20 then .error (.behind .controlInString (b :: s))
    else skipString fuel s

def hexDigit (n : Nat) : UInt8 :=
  (if n < 10 then 0x30 + n else 0x57 + n).toUInt8

/-- One octet of a text inside quotes: only quotes, backslashes and controls are escaped. -/
def escape (b : UInt8) : Bytes :=
  if b == 0x22 then utf8 "\\\""
  else if b == 0x5C then utf8 "\\\\"
  else if b == 0x08 then utf8 "\\b"
  else if b == 0x0C then utf8 "\\f"
  else if b == 0x0A then utf8 "\\n"
  else if b == 0x0D then utf8 "\\r"
  else if b == 0x09 then utf8 "\\t"
  else if b < 0x20 then utf8 "\\u00" ++ [hexDigit (b.toNat / 16), hexDigit (b.toNat % 16)]
  else [b]

def writeString (text : String) : Bytes :=
  0x22 :: (utf8 text).flatMap escape ++ [0x22]

end AggregateGateway.Json
