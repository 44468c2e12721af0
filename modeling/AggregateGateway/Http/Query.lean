import AggregateGateway.Catalog.Record
import AggregateGateway.Http.Target
import AggregateGateway.Text.Numeral
import AggregateGateway.Text.Utf8

/-!
Queries: names and values, with blanks sent as plus signs and octets as escapes. A read may ask for
a delay and a fault percentage; whatever else a query names is passed over.
-/

namespace AggregateGateway.Http

/-- A part of a query. Octets that are not UTF-8 are replaced. -/
def plainText (cs : List Char) : String :=
  let spaced := String.ofList (cs.map fun c => if c == '+' then ' ' else c)
  Text.lossyText (decoded (Text.utf8 spaced))

/-- The names and values of a query. Empty parts are left out; a name without an equals sign has
an empty value. -/
def queryPairs (query : String) : List (String × String) :=
  ((parts '&' query.toList).filter fun part => !part.isEmpty).map fun part =>
    (plainText (part.takeWhile (· != '=')), plainText ((part.dropWhile (· != '=')).drop 1))

inductive QueryFault where
  | duplicate (name : String)
  | numeral (f : Text.NumeralFault)
  deriving DecidableEq

def QueryFault.message : QueryFault → String
  | .duplicate name => "duplicate field `" ++ name ++ "`"
  | .numeral f => f.message

/-- What a query asks of a read. -/
structure ReadQuery where
  delay : UInt32
  faultPercent : UInt32
  deriving DecidableEq

namespace ReadQuery

/-- The values met so far. -/
structure Draft where
  delay : Option UInt32
  faultPercent : Option UInt32

def number (value : String) : Except QueryFault UInt32 :=
  ((Text.readUnsigned (UInt32.size - 1) value.toList).map UInt32.ofNat).mapError .numeral

/-- Sets a value that has not been met before. -/
def once (name : String) (before : Option UInt32) (value : String) :
    Except QueryFault (Option UInt32) :=
  match before with
  | some _ => .error (.duplicate name)
  | none => (number value).map some

def Draft.take (d : Draft) (name value : String) : Except QueryFault Draft :=
  if name == "delay" then (once name d.delay value).map fun n => { d with delay := n }
  else if name == "faultPercent" then
    (once name d.faultPercent value).map fun n => { d with faultPercent := n }
  else .ok d

def Draft.takeAll (d : Draft) : List (String × String) → Except QueryFault Draft
  | [] => .ok d
  | (name, value) :: more =>
    match d.take name value with
    | .error f => .error f
    | .ok d => d.takeAll more

/-- Reads a query; without one, and for what it does not name, there is neither delay nor fault. -/
def ofQuery (query : Option String) : Except QueryFault ReadQuery :=
  ((Draft.mk none none).takeAll (queryPairs (query.getD ""))).map fun d =>
    ⟨d.delay.getD 0, d.faultPercent.getD 0⟩

def options (q : ReadQuery) (group : Option String) : Catalog.ReadOptions :=
  ⟨q.delay, q.faultPercent, group⟩

end ReadQuery

end AggregateGateway.Http
