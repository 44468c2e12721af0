import AggregateGateway.Json.Token

/-!
Passing over a value that nobody asked for. Open brackets are kept in a list, so values may be
nested to any depth.
-/

namespace AggregateGateway.Json

open Text

inductive Bracket where
  | list
  | object

def Bracket.closing : Bracket → UInt8
  | .list => 0x5D
  | .object => 0x7D

def Bracket.commaOrEndExpected : Bracket → Cause
  | .list => .listCommaOrEndExpected
  | .object => .objectCommaOrEndExpected

def Bracket.endInside : Bracket → Cause
  | .list => .endInList
  | .object => .endInObject

def skipExponent (s : Bytes) : Except Fault Bytes :=
  let s := match s with
    | 0x2B :: s => s
    | 0x2D :: s => s
    | s => s
  match s with
  | [] => .error (.behind .numberInvalid [])
  | d :: s =>
    if isDigitOctet d then .ok (s.dropWhile isDigitOctet) else .error (.behind .numberInvalid s)

def skipFraction (s : Bytes) : Except Fault Bytes :=
  match s with
  | d :: _ =>
    if isDigitOctet d then
      let s := s.dropWhile isDigitOctet
      match atExponent s with
      | some s => skipExponent s
      | none => .ok s
    else .error (.ahead .numberInvalid s)
  | [] => .error (.ahead .numberInvalid [])

/-- What may follow the integer part of a number. -/
def skipRemainder (s : Bytes) : Except Fault Bytes :=
  match s with
  | 0x2E :: s => skipFraction s
  | s =>
    match atExponent s with
    | some s => skipExponent s
    | none => .ok s

/-- A number after its sign. -/
def skipUnsigned : Bytes → Except Fault Bytes
  | [] => .error (.behind .numberInvalid [])
  | d :: s =>
    if d == 0x30 then
      match s with
      | e :: _ => if isDigitOctet e then .error (.ahead .numberInvalid s) else skipRemainder s
      | [] => .ok []
    else if isDigitOctet d then skipRemainder (s.dropWhile isDigitOctet)
    else .error (.behind .numberInvalid s)

/-- Passes over a scalar, or opens a bracket. -/
def skipScalar (s : Bytes) : Except Fault (Option Bracket × Bytes) :=
  match skipBlanks s with
  | [] => .error (.ahead .endInValue [])
  | b :: s =>
    if b == 0x6E then (readWord nullTail s).map (none, ·)
    else if b == 0x74 then (readWord trueTail s).map (none, ·)
    else if b == 0x66 then (readWord falseTail s).map (none, ·)
    else if b == 0x2D then (skipUnsigned s).map (none, ·)
    else if isDigitOctet b then (skipUnsigned (b :: s)).map (none, ·)
    else if b == 0x22 then (skipString s s).map (none, ·)
    else if b == 0x5B then .ok (some .list, s)
    else if b == 0x7B then .ok (some .object, s)
    else .error (.ahead .valueExpected (b :: s))

/-- The colon between a key and its value. -/
def readColon (s : Bytes) : Except Fault Bytes :=
  match skipBlanks s with
  | [] => .error (.ahead .endInObject [])
  | b :: s => if b == 0x3A then .ok s else .error (.ahead .colonExpected (b :: s))

def skipKey (s : Bytes) : Except Fault Bytes :=
  match skipBlanks s with
  | [] => .error (.ahead .endInObject [])
  | b :: s =>
    if b == 0x22 then (skipString s s).bind readColon else .error (.ahead .keyNotString (b :: s))

/-- The first part of the next value inside a bracket: its key, if it has one, and a scalar or an
opening bracket. -/
def skipEntry (bracket : Bracket) (s : Bytes) : Except Fault (Option Bracket × Bytes) :=
  match bracket with
  | .list => skipScalar s
  | .object => (skipKey s).bind skipScalar

/-- Goes on until the brackets in `pending` are closed. `comma` tells whether a value has just
ended, so that a comma may follow. Every round takes an octet away, so `fuel` lasts if it is no
shorter than what is left. -/
def skipPending (fuel : Bytes) (comma : Bool) (pending : List Bracket) (s : Bytes) :
    Except Fault Bytes :=
  match pending with
  | [] => .ok s
  | bracket :: outer =>
    match skipBlanks s with
    | [] => .error (.ahead bracket.endInside [])
    | b :: rest =>
      match fuel with
      | [] => .error (.ahead bracket.endInside (b :: rest))
      | _ :: fuel =>
        if b == bracket.closing then skipPending fuel true outer rest
        else if comma && b != 0x2C then .error (.ahead bracket.commaOrEndExpected (b :: rest))
        else
          match skipEntry bracket (if comma then rest else b :: rest) with
          | .error f => .error f
          | .ok (none, s) => skipPending fuel true (bracket :: outer) s
          | .ok (some inner, s) => skipPending fuel false (inner :: bracket :: outer) s

def skipValue (s : Bytes) : Except Fault Bytes :=
  match skipScalar s with
  | .error f => .error f
  | .ok (none, s) => .ok s
  | .ok (some bracket, s) => skipPending s false [bracket] s

end AggregateGateway.Json
