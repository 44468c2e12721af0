import AggregateGateway.Text.Numeral

/-!
The shortest decimal text of a binary64 number: the fewest digits that round back to it, and
of those the nearest. All comparisons are made on natural numbers.
-/

namespace AggregateGateway.Text

/-- A finite positive number `mantissa * 2 ^ exponent`, with the open or closed interval of reals
that round to it. -/
structure Binary where
  mantissa : Nat
  exponent : Int
  /-- The gap below is half as wide as the gap above at a power of two. -/
  narrowBelow : Bool

/-- A digit string `coefficient * 10 ^ exponent`. -/
structure Decimal where
  coefficient : Nat
  exponent : Int

/-- The leading bit of a mantissa, which is not stored. -/
def hiddenBit : Nat := Nat.pow 2 52

def Binary.ofBits (bits : Nat) : Binary :=
  let fraction : Nat := bits % hiddenBit
  let biased : Nat := bits / hiddenBit % 2048
  if biased == 0 then ⟨fraction, -1074, false⟩
  else ⟨hiddenBit + fraction, (biased : Int) - 1075, fraction == 0 && biased != 1⟩

/-- Compares `a * 2 ^ p` with `b * 10 ^ q`. -/
def compareScaled (a : Nat) (p : Int) (b : Nat) (q : Int) : Ordering :=
  compare (a * Nat.pow 2 p.toNat * Nat.pow 10 (-q).toNat)
    (b * Nat.pow 10 q.toNat * Nat.pow 2 (-p).toNat)

/-- Whether the decimal rounds to the number; a midpoint goes to the even mantissa. -/
def Binary.admits (x : Binary) (d : Decimal) : Bool :=
  let low := if x.narrowBelow then 4 * x.mantissa - 1 else 4 * x.mantissa - 2
  let high := 4 * x.mantissa + 2
  let p := x.exponent - 2
  let above := compareScaled low p d.coefficient d.exponent
  let below := compareScaled high p d.coefficient d.exponent
  if x.mantissa % 2 == 0 then above != .gt && below != .lt
  else above == .lt && below == .gt

/-- The largest `e` with `10 ^ e ≤ x`, looked for from a lower bound upwards. -/
def Binary.magnitude (x : Binary) : Int :=
  let start := ((Nat.log2 x.mantissa : Int) + x.exponent) * 30103 / 100000 - 1
  let rec climb : Nat → Int → Int
    | 0, e => e
    | n + 1, e =>
      if compareScaled x.mantissa x.exponent 1 (e + 1) == .lt then e else climb n (e + 1)
  climb 4 start

/-- `x / 10 ^ q` rounded down. -/
def Binary.quotient (x : Binary) (q : Int) : Nat :=
  x.mantissa * Nat.pow 2 x.exponent.toNat * Nat.pow 10 (-q).toNat /
    (Nat.pow 10 q.toNat * Nat.pow 2 (-x.exponent).toNat)

/-- Whether the upper of two neighbours on a grid is nearer; a tie keeps the even one. -/
def Binary.nearerAbove (x : Binary) (down : Nat) (q : Int) : Bool :=
  match compareScaled (2 * x.mantissa) x.exponent (2 * down + 1) q with
  | .gt => true
  | .lt => false
  | .eq => down % 2 == 1

/-- The first grid, from one digit on, on which a neighbour of the number rounds back to it. -/
def Binary.shortest (x : Binary) : Decimal :=
  let top := x.magnitude
  let rec search : Nat → Int → Decimal
    | 0, q => ⟨x.quotient q, q⟩
    | n + 1, q =>
      let down := x.quotient q
      match x.admits ⟨down, q⟩, x.admits ⟨down + 1, q⟩ with
      | true, true => if x.nearerAbove down q then ⟨down + 1, q⟩ else ⟨down, q⟩
      | true, false => ⟨down, q⟩
      | false, true => ⟨down + 1, q⟩
      | false, false => search n (q - 1)
  search 17 top

def trimZeros (ds : List Char) : List Char :=
  (ds.reverse.dropWhile (· == '0')).reverse

/-- All places written out; `part` is what stands after the point of a whole number, if anything. -/
def Decimal.positional (d : Decimal) (part : String) : String :=
  let ds := Nat.toDigits 10 d.coefficient
  let trimmed := trimZeros ds
  let point : Int := d.exponent + ds.length
  if point ≤ 0 then
    String.ofList ("0.".toList ++ List.replicate (-point).toNat '0' ++ trimmed)
  else
    let n := point.toNat
    let whole := String.ofList (trimmed.take n ++ List.replicate (n - trimmed.length) '0')
    match trimmed.drop n with
    | [] => whole ++ part
    | ds => whole ++ "." ++ String.ofList ds

/-- Positional from 10⁻⁵ up to 10¹⁶, always with a point; beyond that one digit before the point
and a signed exponent. -/
def Decimal.text (d : Decimal) : String :=
  let ds := Nat.toDigits 10 d.coefficient
  let scientific : Int := d.exponent + ds.length - 1
  if -5 ≤ scientific ∧ scientific ≤ 15 then d.positional ".0"
  else
    let sign := if scientific < 0 then '-' else '+'
    let mark := 'e' :: sign :: Nat.toDigits 10 scientific.natAbs
    match trimZeros ds with
    | [] => "0.0"
    | [c] => String.ofList (c :: mark)
    | c :: cs => String.ofList (c :: '.' :: cs ++ mark)

def textOfBits (zero : String) (text : Decimal → String) (x : Float) : String :=
  let bits := x.toBits.toNat
  let sign := if bits / (UInt64.size / 2) == 1 then "-" else ""
  let magnitude := bits % (UInt64.size / 2)
  if magnitude == 0 then sign ++ zero
  else sign ++ text (Binary.ofBits magnitude).shortest

/-- A number as it stands in messages. -/
def floatText (x : Float) : String :=
  textOfBits "0.0" Decimal.text x

/-- A number as it stands among measurements: positional, whole numbers without a point. -/
def plainFloatText (x : Float) : String :=
  textOfBits "0" (fun d => d.positional "") x

end AggregateGateway.Text
