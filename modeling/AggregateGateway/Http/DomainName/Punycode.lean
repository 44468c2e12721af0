/-!
Text in letters, digits and hyphens. The plain characters come first, behind them one number for
each other character: how far its code and place are from those of the one before it. A number is
written with its lowest digit first, and its last digit is the one below its threshold.
-/

namespace AggregateGateway.Http.DomainName.Punycode

def digitChar (d : Nat) : Char :=
  Char.ofNat (if d < 26 then 'a'.toNat + d else '0'.toNat + (d - 26))

def digit? (c : Char) : Option Nat :=
  if c.isLower then some (c.toNat - 'a'.toNat)
  else if c.isDigit then some (c.toNat - '0'.toNat + 26)
  else none

/-- At or above its threshold a digit is not the last one. Places count in steps of 36. -/
def threshold (place bias : Nat) : Nat :=
  min 26 (max 1 (place - bias))

theorem one_le_threshold (place bias : Nat) : 1 ≤ threshold place bias := by
  unfold threshold; omega

theorem threshold_le (place bias : Nat) : threshold place bias ≤ 26 :=
  Nat.min_le_left _ _

theorem div_threshold_lt {place bias q : Nat} (h : ¬ q < threshold place bias) :
    (q - threshold place bias) / (36 - threshold place bias) < q := by
  have h₁ := one_le_threshold place bias
  have h₂ := Nat.div_le_self (q - threshold place bias) (36 - threshold place bias)
  omega

/-- The bias for the next number, from the last one and the count of characters so far. -/
def adapt (delta count : Nat) (isFirst : Bool) : Nat :=
  let delta := if isFirst then delta / 700 else delta / 2
  shrink (delta + delta / count) 0
where
  shrink (delta bias : Nat) : Nat :=
    if 455 < delta then shrink (delta / 35) (bias + 36)
    else bias + 36 * delta / (delta + 38)
  termination_by delta
  decreasing_by exact Nat.div_lt_self (by omega) (by omega)

/-- The digits of a number. -/
def digits (bias place q : Nat) : List Char :=
  let t := threshold place bias
  if q < t then [digitChar q]
  else digitChar (t + (q - t) % (36 - t)) :: digits bias (place + 36) ((q - t) / (36 - t))
termination_by q
decreasing_by exact div_threshold_lt ‹_›

structure Encoder where
  /-- What is written, in reverse. -/
  written : List Char
  delta : Nat
  bias : Nat
  /-- How many characters are written. -/
  count : Nat

/-- Passes a character of the text in search of the code `m`; `plain` is the number of plain
characters. -/
def Encoder.pass (plain m : Nat) (e : Encoder) (c : Char) : Encoder :=
  if c.toNat < m then { e with delta := e.delta + 1 }
  else if c.toNat == m then
    { written := (digits e.bias 36 e.delta).reverse ++ e.written
      delta := 0
      bias := adapt e.delta (e.count + 1) (e.count == plain)
      count := e.count + 1 }
  else e

def isPlain (c : Char) : Bool :=
  c.toNat < 0x80

def encode (cs : List Char) : List Char :=
  let plain := cs.filter isPlain
  let codes := ((cs.filter (!isPlain ·)).map Char.toNat).mergeSort.eraseDups
  let start : Encoder :=
    ⟨if plain.isEmpty then [] else '-' :: plain.reverse, 0, 72, plain.length⟩
  let (e, _) := codes.foldl (fun (e, code) m =>
    let e := { e with delta := e.delta + (m - code) * (e.count + 1) }
    let e := cs.foldl (Encoder.pass plain.length m) e
    ({ e with delta := e.delta + 1 }, m + 1)) (start, 0x80)
  e.written.reverse

/-- Where the next character goes and which one it is. -/
structure Decoder where
  text : List Char
  code : Nat
  index : Nat
  bias : Nat
  /-- The index before the number that is being read. -/
  before : Nat
  place : Nat
  weight : Nat

/-- Inserts a character when its number is complete. -/
def Decoder.insert? (d : Decoder) : Option Decoder :=
  let count := d.text.length + 1
  let code := d.code + d.index / count
  let spot := d.index % count
  if code.isValidChar then
    some { text := d.text.take spot ++ Char.ofNat code :: d.text.drop spot
           code
           index := spot + 1
           bias := adapt (d.index - d.before) count (d.before == 0)
           before := spot + 1
           place := 36
           weight := 1 }
  else none

def Decoder.run (d : Decoder) : List Char → Option (List Char)
  | [] => if d.place == 36 then some d.text else none
  | c :: cs =>
    match digit? c with
    | none => none
    | some digit =>
      let t := threshold d.place d.bias
      let d := { d with index := d.index + digit * d.weight }
      if digit < t then
        match d.insert? with
        | none => none
        | some d => d.run cs
      else { d with place := d.place + 36, weight := d.weight * (36 - t) }.run cs

/-- The text that a code stands for, if the code is plain and whole. -/
def decode? (cs : List Char) : Option (List Char) :=
  let numbers := (cs.reverse.takeWhile (· != '-')).reverse
  let plain := ((cs.reverse.dropWhile (· != '-')).drop 1).reverse
  if plain.all isPlain then
    Decoder.run ⟨plain, 0x80, 0, 72, 0, 36, 1⟩ numbers
  else none

end AggregateGateway.Http.DomainName.Punycode
