import AggregateGateway.Text.Bytes

/-!
Decimal numerals. Reading a written numeral gives the number back (`value_digits`).
-/

namespace AggregateGateway.Text

/-- The decimal digits of `n`, without leading zeros. -/
def digits (n : Nat) : Bytes :=
  if n < 10 then [(0x30 + n).toUInt8]
  else digits (n / 10) ++ [(0x30 + n % 10).toUInt8]

/-- The number that a run of digits spells. -/
def value (ds : Bytes) : Nat :=
  ds.foldl (fun n d => 10 * n + digitValue d) 0

theorem digitValue_of_lt {n : Nat} (h : n < 10) : digitValue (0x30 + n).toUInt8 = n := by
  simp only [digitValue, Nat.toUInt8, UInt8.toNat_ofNat']
  omega

theorem value_append_digit (ds : Bytes) (d : UInt8) :
    value (ds ++ [d]) = 10 * value ds + digitValue d := by
  simp [value]

theorem value_digits (n : Nat) : value (digits n) = n := by
  fun_induction digits n with
  | case1 n h =>
    simp only [value, List.foldl_cons, List.foldl_nil]
    rw [digitValue_of_lt h]
    omega
  | case2 n h ih =>
    rw [value_append_digit, ih, digitValue_of_lt (Nat.mod_lt _ (by decide))]
    omega

def numeral (n : Nat) : Bytes :=
  digits n

def signedNumeral (n : Int) : Bytes :=
  if n < 0 then 0x2D :: digits n.natAbs else digits n.natAbs

/-- The digits of `n`, filled up with zeros on the left to at least `width` places. -/
def padded (width n : Nat) : List Char :=
  let ds := Nat.toDigits 10 n
  List.replicate (width - ds.length) '0' ++ ds

/-- Why a text is no numeral of a bounded kind. -/
inductive NumeralFault where
  | empty
  | invalidDigit
  | tooLarge
  deriving DecidableEq

def NumeralFault.message : NumeralFault → String
  | .empty => "cannot parse integer from empty string"
  | .invalidDigit => "invalid digit found in string"
  | .tooLarge => "number too large to fit in target type"

/-- Continues a number by the digits of `cs`; the first fault counts. -/
def continueNumeral (limit : Nat) (n : Nat) : List Char → Except NumeralFault Nat
  | [] => .ok n
  | d :: ds =>
    if !d.isDigit then .error .invalidDigit
    else
      let n := 10 * n + (d.toNat - 0x30)
      if n ≤ limit then continueNumeral limit n ds else .error .tooLarge

/-- Reads an unsigned decimal number of at most `limit`: an optional plus and at least one
digit, nothing else. -/
def readUnsigned (limit : Nat) (cs : List Char) : Except NumeralFault Nat :=
  match cs with
  | [] => .error .empty
  | ['+'] => .error .invalidDigit
  | '+' :: ds => continueNumeral limit 0 ds
  | ds => continueNumeral limit 0 ds

def unsigned? (limit : Nat) (cs : List Char) : Option Nat :=
  (readUnsigned limit cs).toOption

/-- Reads a signed decimal number between `-limit - 1` and `limit`. -/
def signed? (limit : Nat) (cs : List Char) : Option Int :=
  match cs with
  | '-' :: '+' :: _ => none
  | '-' :: ds => (unsigned? (limit + 1) ds).map fun n => -(n : Int)
  | ds => (unsigned? limit ds).map Int.ofNat

end AggregateGateway.Text
