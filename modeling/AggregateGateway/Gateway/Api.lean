import AggregateGateway.Gateway.Write
import AggregateGateway.Http.Extract

/-!
The interface of the gateway. A request is routed, its parts are taken, and what the gateway then
says becomes the response; failures become problem documents that name the path of the request.
Every response shows a correlation identifier.
-/

namespace AggregateGateway

open Catalog
open Http
open Json (Codec)
open Time (Clock Instant)

/-- The answer to whoever asks whether the gateway lives. -/
structure Alive where
  status : String
  version : String
  deriving DecidableEq

def Alive.codec : Codec Alive :=
  Json.record "HealthResponse"
    (.required "status" Json.text <| .required "version" Json.text .nil)
    (fun (status, version, ()) => ⟨status, version⟩)
    fun a => (a.status, a.version, ())

def alive : Alive := ⟨"UP", "0.1.0"⟩

namespace Api

inductive Endpoint where
  | createAggregate
  | readAggregate
  | deleteAggregate
  | liveness
  | dependencies
  | metrics
  deriving DecidableEq

def aggregates : Segment := .fixed "aggregate"

def health : Segment := .fixed "health"

def routes : List (Route Endpoint) :=
  [⟨"POST", [aggregates], .createAggregate⟩,
   ⟨"GET", [aggregates, .parameter "id"], .readAggregate⟩,
   ⟨"DELETE", [aggregates, .parameter "id"], .deleteAggregate⟩,
   ⟨"GET", [health], .liveness⟩,
   ⟨"GET", [health, .fixed "dependencies"], .dependencies⟩,
   ⟨"GET", [.fixed "metrics"], .metrics⟩]

variable {ι ρ κ β : Type}

/-- A response once there is one, and what the gateway is left with. -/
abbrev Answer (ι ρ κ β : Type) := Option Response × Gateway ι ρ κ β

/-- The times of a request: what the clock shows while its messages are stamped, and when it is
answered. -/
structure Moments extends Clock where
  answered : Instant

instance : Coe Instant Moments := ⟨fun t => ⟨.still t, t⟩⟩

/-- A failure as it is shown to whoever made the request. -/
def failed (now : Instant) (r : Request) (f : Failure) : Response :=
  .problem now ((Problem.ofFailure f).withPath r.target.path)

def rejected (now : Instant) (r : Request) (reason : Rejection) : Response :=
  .problem now (reason.problem r.target.path)

/-- The response to a write, which has nothing to show. -/
def written (now : Instant) (r : Request) : Except Failure Unit → Response
  | .ok () => .empty .accepted
  | .error f => failed now r f

def viewed (now : Instant) (r : Request) : Except Failure View → Response
  | .ok view => .json .ok View.codec view
  | .error f => failed now r f

/-- What a request asks to be read; of two faults the one in the path is told. -/
def wish (r : Request) (parameters : Parameters) : Except Rejection Wish :=
  match numberParameter parameters with
  | .error reason => .error reason
  | .ok id => (readQuery r).map fun q => ⟨id, q.options (routingGroup r)⟩

def createAggregate (d : Deployment ι ρ κ β) (m : Moments) (r : Request)
    (g : Gateway ι ρ κ β) : Answer ι ρ κ β :=
  match jsonBody Spec.codec r with
  | .error reason => (some (rejected m.answered r reason), g)
  | .ok s =>
    let (result, g) := g.create d m.toClock s
    (result.map (written m.answered r), g)

def readAggregate (d : Deployment ι ρ κ β) (m : Moments) (r : Request)
    (parameters : Parameters) (g : Gateway ι ρ κ β) : Answer ι ρ κ β :=
  match wish r parameters with
  | .error reason => (some (rejected m.answered r reason), g)
  | .ok w =>
    let (result, g) := g.read d w
    (result.map (viewed m.answered r), g)

def deleteAggregate (d : Deployment ι ρ κ β) (m : Moments) (r : Request)
    (parameters : Parameters) (g : Gateway ι ρ κ β) : Answer ι ρ κ β :=
  match numberParameter parameters with
  | .error reason => (some (rejected m.answered r reason), g)
  | .ok id =>
    let (result, g) := g.delete d m.toClock id
    (result.map (written m.answered r), g)

def dependencies (d : Deployment ι ρ κ β) (g : Gateway ι ρ κ β) : Answer ι ρ κ β :=
  let (h, g) := g.health d
  (some (.json .ok Health.codec h), g)

def metrics (d : Deployment ι ρ κ β) (g : Gateway ι ρ κ β) : Response :=
  if d.showsMetrics then .text .ok g.registry.exposition
  else .text .serviceUnavailable "metrics recorder not installed"

def serve (d : Deployment ι ρ κ β) (m : Moments) (r : Request) (parameters : Parameters)
    (g : Gateway ι ρ κ β) : Endpoint → Answer ι ρ κ β
  | .createAggregate => createAggregate d m r g
  | .readAggregate => readAggregate d m r parameters g
  | .deleteAggregate => deleteAggregate d m r parameters g
  | .liveness => (some (.json .ok Alive.codec alive), g)
  | .dependencies => dependencies d g
  | .metrics => (some (metrics d g), g)

/-- What is noted about a request once all its parts are taken. -/
structure Note where
  event : String
  correlation : Uuid
  item : ItemId
  deriving DecidableEq

/-- What an endpoint notes when it is called; only those for aggregates do so. -/
def note (attached : Option Uuid) (fresh : Uuid) (r : Request) (parameters : Parameters) :
    Endpoint → Option Note
  | .createAggregate => (jsonBody Spec.codec r).toOption.map fun s =>
    ⟨"createAggregate", givenId attached fresh r, s.id⟩
  | .readAggregate => (wish r parameters).toOption.map fun w =>
    ⟨"getAggregate", givenId attached fresh r, w.id⟩
  | .deleteAggregate => (numberParameter parameters).toOption.map fun id =>
    ⟨"deleteAggregate", givenId attached fresh r, id⟩
  | .liveness | .dependencies | .metrics => none

/-- What is noted about a request that has its correlation identifier attached; `other` is there for
endpoints that would need one themselves. -/
def noted (fresh other : Uuid) (r : Request) : Option Note :=
  match route routes r.method r.target.path with
  | .found endpoint parameters => note (some (correlationId fresh r)) other r parameters endpoint
  | .wrongMethod _ | .unknown => none

/-- The answer to a request at its moments. The identifier `fresh` is shown where the request
brings none along. -/
def respond (d : Deployment ι ρ κ β) (m : Moments) (fresh : Uuid) (r : Request)
    (g : Gateway ι ρ κ β) : Answer ι ρ κ β :=
  let (answer, g) := match route routes r.method r.target.path with
    | .found endpoint parameters => serve d m r parameters g endpoint
    | .wrongMethod allowed => (some (.methodNotAllowed allowed), g)
    | .unknown => (some (.empty .notFound), g)
  (answer.map fun a => (a.forMethod r.method).correlated (correlationId fresh r), g)

end Api

end AggregateGateway
