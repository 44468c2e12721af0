import AggregateGateway.Catalog.Aggregate
import AggregateGateway.Catalog.Endpoints
import AggregateGateway.Catalog.Failure
import AggregateGateway.Http.Extract
import AggregateGateway.Http.Url

/-!
Services across a network. Every read is one request to the address of a service; what the network
makes of it becomes the answer of the read or the failure that explains why there is none. A service
that refuses a request says so in a problem document, the message of which is passed on.
-/

namespace AggregateGateway

open Catalog
open Http
open Json (Codec)
open Time (Span)

namespace Remote

/-- A request for a document, ready to be sent. -/
structure Outbound where
  url : Url
  group : Option String
  timeout : Option Span
  deriving DecidableEq

/-- What a network makes of a request; redirections have been followed. -/
inductive Exchange where
  | unreachable
  | timedOut
  | answered (status : Status) (body : Bytes)
  /-- The answer broke off before its end. -/
  | interrupted (status : Status)

abbrev Network := Outbound → Exchange

/-- Why a request got no answer. -/
inductive SendFault where
  /-- It could not even be built. -/
  | unbuilt (url : Option Url)
  | unsent (url : Url)
  | timedOut
  deriving DecidableEq

def SendFault.failure (s : Service) : SendFault → Failure
  | .unbuilt none => .transport ("Request to " ++ s.name ++ " failed: builder error")
  | .unbuilt (some url) =>
    .transport ("Request to " ++ s.name ++ " failed: builder error for url (" ++ url.text ++ ")")
  | .unsent url =>
    .transport ("Request to " ++ s.name ++ " failed: error sending request for url (" ++
      url.text ++ ")")
  | .timedOut => .timeout ("Request to " ++ s.name ++ " timed out")

/-- Whether a text may be the value of a header. -/
def isHeaderValue (value : String) : Bool :=
  value.toList.all fun c => (0x20 ≤ c.toNat && c.toNat != 0x7F) || c == '\t'

def longestAddress : Nat := 65534

/-- Whether an address can stand in a request; a name may hold characters that cannot. -/
def isSendable (url : Url) : Bool :=
  (url.scheme == "http" || url.scheme == "https") && url.text.utf8ByteSize ≤ longestAddress &&
    !(((url.authority.bind Authority.host).getD "").toList.any "\"\x60\x7b\x7d".toList.contains)

/-- Builds a request. An address needs a host, a header value may not contain control characters,
and only addresses of the web can be asked. -/
def build (address : String) (pairs : List (String × String)) (group : Option String)
    (timeout : Option Span) : Except SendFault Outbound :=
  match Url.read? address with
  | none => .error (.unbuilt none)
  | some url =>
    if !url.hasHost then .error (.unbuilt (some url))
    else if !(group.all isHeaderValue) then .error (.unbuilt none)
    else
      let url := if pairs.isEmpty then url else url.withPairs pairs
      if isSendable url then .ok ⟨url, group, timeout⟩ else .error (.unbuilt (some url))

def itemRequest (e : Endpoints) (id : ItemId) (o : ReadOptions) : Except SendFault Outbound :=
  build (e.base .item ++ "/item/" ++ toString id.toInt)
    [("delay", toString o.delay.toNat), ("faultPercent", toString o.faultPercent.toNat)]
    o.group none

/-- The records of an item, from a service that is given only some time. -/
def recordsRequest (e : Endpoints) (s : Service) (timeout : Span) (id : ItemId)
    (o : ReadOptions) : Except SendFault Outbound :=
  build (e.base s ++ "/" ++ s.name) [("itemId", toString id.toInt)] o.group (some timeout)

def probeRequest (e : Endpoints) (s : Service) (timeout : Span) : Except SendFault Outbound :=
  build (e.base s ++ "/health") [] none (some timeout)

/-- The message of a problem document; else the body as it is; else the status. -/
def errorMessage (status : Status) (body : String) : String :=
  match ProblemDocument.codec.decode (Text.utf8 body) with
  | .ok d => if d.message.isEmpty then plain else d.message
  | .error _ => plain
where
  plain : String := if Text.isBlankText body then status.line else body

/-- The failure that an unsuccessful answer stands for. -/
def answerFailure (status : Status) (body : String) : Failure :=
  let message := errorMessage status body
  if status = .notFound then .notFound message
  else if status = .unprocessable then .invalidInput message
  else .unexpectedStatus (UInt16.ofNat status.code) message

/-- Sends a request; only a successful answer has a body, unless it broke off. -/
def send (network : Network) (s : Service) (request : Except SendFault Outbound) :
    Except Failure (Option Bytes) :=
  match request with
  | .error f => .error (f.failure s)
  | .ok outbound =>
    match network outbound with
    | .unreachable => .error ((SendFault.unsent outbound.url).failure s)
    | .timedOut => .error (SendFault.timedOut.failure s)
    | .answered status body =>
      if status.isSuccess then .ok (some body)
      else .error (answerFailure status (Text.lossyText body))
    | .interrupted status =>
      if status.isSuccess then .ok none else .error (answerFailure status "")

def undecodable (s : Service) : Failure :=
  .transport ("Could not decode " ++ s.name ++ " response: error decoding response body")

def get {α : Type} (network : Network) (s : Service) (c : Codec α)
    (request : Except SendFault Outbound) : Except Failure α :=
  match send network s request with
  | .error f => .error f
  | .ok none => .error (undecodable s)
  | .ok (some body) => (c.decode body).mapError fun _ => undecodable s

def fetchItem (network : Network) (e : Endpoints) (id : ItemId) (o : ReadOptions) :
    Except Failure Item :=
  get network .item Item.codec (itemRequest e id o)

def fetchRatings (network : Network) (e : Endpoints) (timeout : Span) (id : ItemId)
    (o : ReadOptions) : Except Failure (List Rating) :=
  get network .ratings (Json.list Rating.codec) (recordsRequest e .ratings timeout id o)

def fetchCommentary (network : Network) (e : Endpoints) (timeout : Span) (id : ItemId)
    (o : ReadOptions) : Except Failure (List Commentary) :=
  get network .commentary (Json.list Commentary.codec)
    (recordsRequest e .commentary timeout id o)

def probe (network : Network) (e : Endpoints) (timeout : Span) (s : Service) :
    Except Failure Unit :=
  (send network s (probeRequest e s timeout)).map fun _ => ()

end Remote

end AggregateGateway
