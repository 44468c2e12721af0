import AggregateGateway.Json.Skip

/-!
Codecs: how a value is written as a document and read back from the front of one. A reader
reports the first fault that stands in the document, be it of form or of contents.
-/

namespace AggregateGateway.Json

open Text

structure Codec (α : Type) where
  read : Reader α
  write : α → Bytes

/-- The fault of a value that is not what was expected. The value is consumed as far as its kind
has to be known; a list or an object is not entered. -/
def mismatch (expected : String) (s : Bytes) : Fault :=
  match s with
  | [] => .ahead .endInValue []
  | b :: rest =>
    let found (x : Found) (s : Bytes) : Fault := .behind (.typeMismatch x expected) s
    if b == 0x6E then after (readWord nullTail rest) fun s => found .null s
    else if b == 0x74 then after (readWord trueTail rest) fun s => found (.boolean true) s
    else if b == 0x66 then after (readWord falseTail rest) fun s => found (.boolean false) s
    else if b == 0x2D || isDigitOctet b then
      after (readNumber s) fun (n, s) => found n.found s
    else if b == 0x22 then after (readString rest) fun (text, s) => found (.text text) s
    else if b == 0x5B then found .list s
    else if b == 0x7B then found .object s
    else .ahead .valueExpected s
where
  after {α : Type} (r : Except Fault α) (k : α → Fault) : Fault :=
    match r with
    | .ok a => k a
    | .error f => f

/-- An integer of a bounded kind, the bounds being those of `fits?`. -/
def integer {α : Type} (kind : String) (fits? : Int → Option α) (toInt : α → Int) : Codec α where
  read s :=
    let s := skipBlanks s
    match s with
    | [] => .error (mismatch kind s)
    | b :: _ =>
      if b == 0x2D || isDigitOctet b then
        match readNumber s with
        | .error f => .error f
        | .ok (.natural n, s) => accept (Int.ofNat n) s
        | .ok (.negative n, s) => accept (-(n : Int)) s
        | .ok (.real x, s) => .error (.behind (.typeMismatch (.real x) kind) s)
      else .error (mismatch kind s)
  write a := signedNumeral (toInt a)
where
  accept (n : Int) (s : Bytes) : Except Fault (α × Bytes) :=
    match fits? n with
    | some a => .ok (a, s)
    | none => .error (.behind (.valueMismatch (.integer n) kind) s)

def int32 : Codec Int32 :=
  integer "i32"
    (fun n =>
      if Int32.minValue.toInt ≤ n ∧ n ≤ Int32.maxValue.toInt then some (Int32.ofInt n) else none)
    Int32.toInt

def boundedNat {α : Type} (kind : String) (size : Nat) (ofNat : Nat → α) (toNat : α → Nat) :
    Codec α :=
  integer kind (fun n => if 0 ≤ n ∧ n < size then some (ofNat n.toNat) else none)
    fun a => toNat a

def uint8 : Codec UInt8 := boundedNat "u8" UInt8.size UInt8.ofNat UInt8.toNat
def uint16 : Codec UInt16 := boundedNat "u16" UInt16.size UInt16.ofNat UInt16.toNat
def uint32 : Codec UInt32 := boundedNat "u32" UInt32.size UInt32.ofNat UInt32.toNat
def uint64 : Codec UInt64 := boundedNat "u64" UInt64.size UInt64.ofNat UInt64.toNat
def size : Codec UInt64 := boundedNat "usize" UInt64.size UInt64.ofNat UInt64.toNat

/-- A string; `expected` describes it where something else stands. -/
def readText (expected : String) : Reader String := fun s =>
  match skipBlanks s with
  | 0x22 :: s => readString s
  | s => .error (mismatch expected s)

def text : Codec String where
  read := readText "a string"
  write := writeString

/-- A value that is written as a string of a certain form. -/
def parsed {α : Type} (expected : String) (parse : String → Except String α)
    (print : α → String) : Codec α where
  read s :=
    match readText expected s with
    | .error f => .error f
    | .ok (text, s) =>
      match parse text with
      | .ok a => .ok (a, s)
      | .error reason => .error (.behind (.unreadable reason) s)
  write a := writeString (print a)

/-- A value or null. -/
def nullable {α : Type} (c : Codec α) : Codec (Option α) where
  read s :=
    match skipBlanks s with
    | 0x6E :: s => (readWord nullTail s).map (none, ·)
    | s => (c.read s).map fun (a, s) => (some a, s)
  write
    | none => utf8 "null"
    | some a => c.write a

/-- Whether another element follows in a list, and what then is left. -/
def nextElement (first : Bool) (s : Bytes) : Except Fault (Bool × Bytes) :=
  match skipBlanks s with
  | [] => .error (.ahead .endInList [])
  | b :: rest =>
    if b == 0x5D then .ok (false, b :: rest)
    else if first then .ok (true, b :: rest)
    else if b == 0x2C then
      match skipBlanks rest with
      | [] => .error (.ahead .endInValue [])
      | c :: rest => if c == 0x5D then .error (.ahead .trailingComma (c :: rest)) else .ok (true, c :: rest)
    else .error (.ahead .listCommaOrEndExpected (b :: rest))

/-- The elements up to the closing bracket, which is not consumed, in reverse. A fault between
two elements is one of the whole list. -/
def readElements {α : Type} (read : Reader α) (fuel : Bytes) (done : List α) (index : Nat) :
    Reader (List α) := fun s =>
  match fuel, nextElement (index == 0) s with
  | _, .error f => .error f
  | _, .ok (false, s) => .ok (done, s)
  | [], .ok (true, s) => .ok (done, s)
  | _ :: fuel, .ok (true, s) =>
    match read s with
    | .error f => .error (f.within (.element index))
    | .ok (a, s) => readElements read fuel (a :: done) (index + 1) s

/-- The end of a list. -/
def closeList (s : Bytes) : Except Fault Bytes :=
  match skipBlanks s with
  | [] => .error (.ahead .endInList [])
  | b :: rest =>
    if b == 0x5D then .ok rest
    else if b == 0x2C then
      match skipBlanks rest with
      | 0x5D :: rest => .error (.ahead .trailingComma (0x5D :: rest))
      | rest => .error (.ahead .trailingCharacters rest)
    else .error (.ahead .trailingCharacters (b :: rest))

/-- Texts one after the other, commas between them. -/
def joined : List Bytes → Bytes
  | [] => []
  | [b] => b
  | b :: bs => b ++ 0x2C :: joined bs

def list {α : Type} (c : Codec α) : Codec (List α) where
  read s :=
    match skipBlanks s with
    | 0x5B :: s =>
      match readElements c.read s [] 0 s with
      | .error f => .error f
      | .ok (done, s) => (closeList s).map (done.reverse, ·)
    | s => .error (mismatch "a sequence" s)
  write as := 0x5B :: joined (as.map c.write) ++ [0x5D]

/-- One of finitely many names, either as a string or as the only key of an object that holds
null. -/
def variant {α : Type} (names : List (String × α)) (name : α → String) : Codec α where
  read s :=
    match skipBlanks s with
    | [] => .error (.ahead .endInValue [])
    | b :: s =>
      if b == 0x22 then readName (b :: s)
      else if b == 0x7B then
        match (keyAhead s).bind readName with
        | .error f => .error f
        | .ok (a, s) =>
          match (readColon s).bind readUnit with
          | .error f => .error f
          | .ok s =>
            match skipBlanks s with
            | [] => .error (.behind .endInObject [])
            | b :: s =>
              if b == 0x7D then .ok (a, s) else .error (.behind .valueExpected (b :: s))
      else .error (.ahead .valueExpected (b :: s))
  write a := writeString (name a)
where
  keyAhead (s : Bytes) : Except Fault Bytes :=
    match skipBlanks s with
    | [] => .error (.ahead .endInObject [])
    | b :: s => if b == 0x22 then .ok (b :: s) else .error (.ahead .keyNotString (b :: s))
  readName (s : Bytes) : Except Fault (α × Bytes) :=
    match readText "variant identifier" s with
    | .error f => .error f
    | .ok (text, s) =>
      match names.lookup text with
      | some a => .ok (a, s)
      | none => .error (.behind (.unknownVariant text (names.map Prod.fst)) s)
  readUnit (s : Bytes) : Except Fault Bytes :=
    match skipBlanks s with
    | 0x6E :: s => readWord nullTail s
    | s => .error (mismatch "unit" s)

/-- Reads a document that is one value and nothing else but blanks. -/
def Codec.decode {α : Type} (c : Codec α) (document : Bytes) : Except Fault α :=
  match c.read document with
  | .error f => .error f
  | .ok (a, s) =>
    match skipBlanks s with
    | [] => .ok a
    | s => .error (.ahead .trailingCharacters s)

end AggregateGateway.Json
