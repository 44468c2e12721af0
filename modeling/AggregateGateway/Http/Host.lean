import AggregateGateway.Http.DomainName

/-!
Hosts as they stand in addresses: names, four numbers with points between them in any of the
customary spellings, and eight numbers with colons in brackets. A host is written in one way only.
-/

namespace AggregateGateway.Http

namespace Host

def ofRadix? (radix : Nat) (cs : List Char) : Option Nat :=
  cs.foldl (fun n? c =>
    n?.bind fun n =>
      match (if c.toNat < 128 then Text.hexValue? (Text.octet c) else none) with
      | some d => if d < radix then some (radix * n + d) else none
      | none => none) (some 0)

/-- A number; one with a zero in front is octal, one behind `0x` hexadecimal. -/
def number? : List Char → Option Nat
  | [] => none
  | '0' :: 'x' :: cs => ofRadix? 16 cs
  | '0' :: 'X' :: cs => ofRadix? 16 cs
  | '0' :: c :: cs => ofRadix? 8 (c :: cs)
  | cs => ofRadix? 10 cs

/-- The parts of a host between points; one point may stand at the end. -/
def labels (cs : List Char) : List (List Char) :=
  let ps := parts '.' cs
  if 1 < ps.length && ps.getLast? == some [] then ps.dropLast else ps

def endsInNumber (cs : List Char) : Bool :=
  match (labels cs).getLast? with
  | none => false
  | some last => (!last.isEmpty && last.all Char.isDigit) || (number? last).isSome

/-- The value of up to four numbers, the last of which fills what is left of 32 bits. -/
def ipv4Value? (ns : List Nat) : Option Nat :=
  match ns.getLast? with
  | none => none
  | some last =>
    let front := ns.dropLast
    let room := Nat.pow 256 (4 - front.length)
    if 3 < front.length || room ≤ last || front.any (256 ≤ ·) then none
    else some (front.foldl (fun n d => 256 * n + d) 0 * room + last)

def ipv4? (cs : List Char) : Option Nat :=
  ((labels cs).mapM number?).bind ipv4Value?

def ipv4Text (n : Nat) : String :=
  ".".intercalate ([n >>> 24, (n >>> 16) % 256, (n >>> 8) % 256, n % 256].map toString)

/-- Splits at the first double colon. -/
def doubleColon? : List Char → Option (List Char × List Char)
  | ':' :: ':' :: rest => some ([], rest)
  | c :: rest => (doubleColon? rest).map fun (a, b) => (c :: a, b)
  | [] => none

def piece? (cs : List Char) : Option (List Nat) :=
  if cs.isEmpty || 4 < cs.length then none else (ofRadix? 16 cs).map fun n => [n]

/-- Four plain decimal numbers as two pieces. -/
def ipv4Pieces? (cs : List Char) : Option (List Nat) :=
  let ps := parts '.' cs
  let isPlain (p : List Char) : Bool :=
    !p.isEmpty && p.all Char.isDigit && (p.length == 1 || p.head? != some '0')
  if ps.length == 4 && ps.all isPlain then
    (ipv4? cs).map fun n => [n / UInt16.size, n % UInt16.size]
  else none

/-- The pieces between single colons. -/
def pieces? (cs : List Char) (mayEndInIpv4 : Bool) : Option (List Nat) :=
  if cs.isEmpty then some []
  else
    let ps := parts ':' cs
    let last := ps.getLastD []
    let final := if mayEndInIpv4 && last.contains '.' then ipv4Pieces? last else piece? last
    match ps.dropLast.mapM piece?, final with
    | some front, some final => some (front.flatten ++ final)
    | _, _ => none

def ipv6? (cs : List Char) : Option (List Nat) :=
  match doubleColon? cs with
  | none => (pieces? cs true).filter fun ps => ps.length == 8
  | some (a, b) =>
    match pieces? a false, pieces? b true with
    | some front, some back =>
      let given := front.length + back.length
      if given ≤ 7 then some (front ++ List.replicate (8 - given) 0 ++ back) else none
    | _, _ => none

/-- How many zeros stand at the front. -/
def zeros (ps : List Nat) : Nat :=
  (ps.takeWhile (· == 0)).length

/-- Where the first of the longest runs of zeros starts, and its length. -/
def longestZeros (ps : List Nat) : Nat × Nat :=
  (List.range ps.length).foldl (fun (start, length) i =>
    let here := zeros (ps.drop i)
    if length < here then (i, here) else (start, length)) (0, 0)

def ipv6Text (ps : List Nat) : String :=
  let joined (ps : List Nat) : String :=
    ":".intercalate (ps.map fun n => String.ofList (Nat.toDigits 16 n))
  let (start, length) := longestZeros ps
  if length < 2 then "[" ++ joined ps ++ "]"
  else "[" ++ joined (ps.take start) ++ "::" ++ joined (ps.drop (start + length)) ++ "]"

def bracketed? (cs : List Char) : Option String :=
  if cs.getLast? == some ']' then (ipv6? cs.dropLast).map ipv6Text else none

/-- A domain name, in which escapes are resolved; one that ends in a number is an address. -/
def name? (cs : List Char) : Option String :=
  match (Text.text? (decoded (Text.utf8 (String.ofList cs)))).bind (DomainName.ascii? ·.toList) with
  | none => none
  | some name =>
    if name.isEmpty then none
    else if endsInNumber name then (ipv4? name).map ipv4Text
    else some (String.ofList name)

/-- The written form of a host, if it is one. -/
def read? : List Char → Option String
  | '[' :: cs => bracketed? cs
  | cs => name? cs

end Host

end AggregateGateway.Http
