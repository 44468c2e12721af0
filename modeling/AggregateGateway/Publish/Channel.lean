import AggregateGateway.Catalog.Event
import AggregateGateway.Text.Numeral
import AggregateGateway.Time.Span

/-!
The event channel: how a connection to the brokers is set up, why a message may be refused, and
what a broker keeps of the messages it accepts.
-/

namespace AggregateGateway.Publish

open Catalog (Message)
open Time (Span)

inductive ChannelError where
  | connection (reason : String)
  | publish (topic reason : String)
  | transport (reason : String)
  deriving DecidableEq

def ChannelError.message : ChannelError → String
  | .connection reason => "Connection failed: " ++ reason
  | .publish topic reason => "Publish failed for topic '" ++ topic ++ "': " ++ reason
  | .transport reason => "Transport error: " ++ reason

/-- What is asked of a connection; what is left open has a default. -/
structure ConnectionRequest where
  brokers : Option String
  acks : Option String
  compression : Option String
  timeout : Option Span
  deriving DecidableEq

structure Connection where
  brokers : String
  acks : String
  compression : String
  timeout : Span
  deriving DecidableEq

namespace ConnectionRequest

def ofBrokers (brokers : String) : ConnectionRequest := ⟨some brokers, none, none, none⟩

def defaultTimeout : Span := Span.millis 5000

def isSpace (c : Char) : Bool :=
  c == ' ' || ('\t' ≤ c && c ≤ '\r')

/-- The value of the digits at the front of the text, if there are any. -/
def leadingValue? (radix : Nat) (cs : List Char) : Option Nat :=
  let digit? (c : Char) : Option Nat :=
    (if c.toNat < 128 then Text.hexValue? (Text.octet c) else none).filter (· < radix)
  match cs.takeWhile fun c => (digit? c).isSome with
  | [] => none
  | ds => some (ds.foldl (fun n d => radix * n + (digit? d).getD 0) 0)

/-- The number at the front of the text: decimal, octal behind a zero, hexadecimal behind `0x`. -/
def leadingNumber? (cs : List Char) : Option Int :=
  match cs.dropWhile isSpace with
  | '-' :: cs => (magnitude? cs).map fun n => -(n : Int)
  | '+' :: cs => (magnitude? cs).map Int.ofNat
  | cs => (magnitude? cs).map Int.ofNat
where
  magnitude? (cs : List Char) : Option Nat :=
    match cs with
    | '0' :: x :: ds =>
      if x == 'x' || x == 'X' then (leadingValue? 16 ds).or (some 0) else leadingValue? 8 cs
    | cs => leadingValue? 10 cs

/-- What a setting of 32 bits makes of a number: 64 bits are kept at first, then the lower half. -/
def settingOf (n : Int) : Int :=
  Int.bmod (max Int64.minValue.toInt (min n Int64.maxValue.toInt)) UInt32.size

/-- A number of replicas from -1, which stands for all of them, to 1000, or the word for all. -/
def admitsAcks (acks : String) : Bool :=
  match leadingNumber? acks.toList with
  | some n => -1 ≤ settingOf n && settingOf n ≤ 1000
  | none => acks.toLower == "all"

def compressions : List String := ["none", "gzip", "snappy", "lz4"]

/-- A name of a compression in any case, perhaps with blanks in front. Blanks alone keep the
default, but an empty text is refused. -/
def admitsCompression (compression : String) : Bool :=
  let name := String.ofList (compression.toList.dropWhile isSpace)
  if name.isEmpty then !compression.isEmpty else compressions.contains name.toLower

def admitsTimeout (timeout : Span) : Bool :=
  0 ≤ settingOf timeout.wholeMillis

/-- A setting is handed on as a text that a NUL would end. -/
def isSetting (text : String) : Bool :=
  !text.toList.contains '\x00'

def refused : ChannelError := .connection "Failed to create producer:"

def connect (r : ConnectionRequest) : Except ChannelError Connection :=
  match r.brokers with
  | none => .error (.connection "Brokers not configured")
  | some brokers =>
    let c : Connection :=
      ⟨brokers, r.acks.getD "all", r.compression.getD "none", r.timeout.getD defaultTimeout⟩
    if [c.brokers, c.acks, c.compression].all isSetting && admitsAcks c.acks &&
        admitsCompression c.compression && admitsTimeout c.timeout then .ok c
    else .error refused

end ConnectionRequest

/-- The name of the header that tells the kind of an event. -/
def kindHeader : String := "eventType"

/-- A message as a broker keeps it. -/
structure Entry where
  key : Bytes
  payload : Bytes
  headers : List (String × Bytes)
  deriving DecidableEq

def Entry.of (m : Message) : Entry :=
  ⟨Text.utf8 m.key, m.data, [(kindHeader, Text.utf8 m.kind)]⟩

/-- How many octets a number takes when seven bits go into each, the sign among them. -/
def varintSize (n : Nat) : Nat :=
  if n < 64 then 1
  else 1 + varintSize (n / 128)
decreasing_by omega

/-- What a message takes on the wire besides key, payload and headers, at most. -/
def frameSize : Nat := 36

def Entry.headerSize (name : String) (value : Bytes) : Nat :=
  let name := (Text.utf8 name).length
  varintSize name + name + varintSize value.length + value.length

def Entry.wireSize (e : Entry) : Nat :=
  frameSize + e.key.length + e.payload.length +
    e.headers.foldl (fun n (name, value) => n + Entry.headerSize name value) 0

/-- A broker that accepts messages of a limited size. -/
structure Broker where
  sizeLimit : Nat
  /-- How long it takes to acknowledge a message; nothing if nobody reaches it. -/
  latency : Option Span
  /-- The accepted messages with their topics, oldest first. -/
  entries : List (String × Entry)
  deriving DecidableEq

namespace Broker

def fresh (latency : Option Span) : Broker := ⟨1000000, latency, []⟩

/-- Whether an acknowledgement comes in time; without a timeout any does. -/
def isInTime (c : Connection) (b : Broker) : Bool :=
  b.latency.any fun latency => c.timeout.nanos = 0 || latency.nanos < c.timeout.nanos

/-- A topic's name has at most 512 octets. -/
def admitsTopic (topic : String) : Bool :=
  topic.utf8ByteSize ≤ 512

def badTopic : String :=
  "Message production error: InvalidArgument (Local: Invalid argument or configuration)"

def tooLarge : String :=
  "Message production error: MessageSizeTooLarge (Broker: Message size too large)"

def timedOut : String :=
  "Message production error: MessageTimedOut (Local: Message timed out)"

def publish (c : Connection) (topic : String) (m : Message) (b : Broker) :
    Broker × Except ChannelError Unit :=
  let e := Entry.of m
  if !admitsTopic topic then (b, .error (.publish topic badTopic))
  else if b.sizeLimit < e.wireSize then (b, .error (.publish topic tooLarge))
  else if b.isInTime c then ({ b with entries := b.entries ++ [(topic, e)] }, .ok ())
  else (b, .error (.publish topic timedOut))

end Broker

end AggregateGateway.Publish
