import AggregateGateway.Catalog.Aggregate
import AggregateGateway.Http.Extract

/-!
An interface that answers each request with what it takes from it. All routes are served twice, once
at the root and once below `/api`.
-/

namespace AggregateGateway.Http.Echo

open Text (utf8)

inductive Endpoint where
  | number
  | pair
  | query
  | spec
  | group
  | id
  deriving DecidableEq

def localRoutes : List (Route Endpoint) :=
  [⟨"GET", [.fixed "item", .parameter "id"], .number⟩,
   ⟨"GET", [.fixed "pair", .parameter "a", .parameter "b"], .pair⟩,
   ⟨"GET", [.fixed "query"], .query⟩,
   ⟨"POST", [.fixed "spec"], .spec⟩,
   ⟨"GET", [.fixed "group"], .group⟩,
   ⟨"GET", [.fixed "id"], .id⟩]

def routes : List (Route Endpoint) :=
  localRoutes ++ nested "api" localRoutes

def groupText : Option String → String
  | none => "None"
  | some group => "Some(" ++ Text.quoted group ++ ")"

def echo (attached : Option Uuid) (fresh : Uuid) (r : Request) (parameters : Parameters) :
    Endpoint → Except Rejection Response
  | .number => (numberParameter parameters).map fun n => .text .ok (toString n.toInt)
  | .pair => (pairParameters parameters).map fun (n, s) => .text .ok (toString n.toInt ++ "|" ++ s)
  | .query => (readQuery r).map fun q =>
    .text .ok (toString q.delay.toNat ++ "|" ++ toString q.faultPercent.toNat)
  | .spec => (jsonBody Catalog.Spec.codec r).map fun s => .json .ok Catalog.Spec.codec s
  | .group => .ok (.text .ok (groupText (routingGroup r)))
  | .id => .ok ⟨.ok, [(Response.contentType, "text/x-id")], utf8 (givenId attached fresh r).text⟩

/-- The response to a request that may have got an identifier attached. -/
def answer (attached : Option Uuid) (now : Time.Instant) (fresh : Uuid) (r : Request) : Response :=
  let answer := match route routes r.method r.target.path with
    | .found endpoint parameters =>
      match echo attached fresh r parameters endpoint with
      | .ok answer => answer
      | .error rejection => .problem now (rejection.problem r.target.path)
    | .wrongMethod allowed => .methodNotAllowed allowed
    | .unknown => .empty .notFound
  answer.forMethod r.method

/-- The request is answered with its correlation identifier attached, and the response shows it.
Where the request brings none along, `fresh` is attached; `other` is there for endpoints that would
need one themselves. -/
def correlated (now : Time.Instant) (fresh other : Uuid) (r : Request) : Response :=
  let id := correlationId fresh r
  (answer (some id) now other r).correlated id

/-- The response; it shows the correlation identifier if `isCorrelated` says so. -/
def respond (isCorrelated : Bool) (now : Time.Instant) (fresh : Uuid) (r : Request) : Response :=
  if isCorrelated then correlated now fresh fresh r else answer none now fresh r

end AggregateGateway.Http.Echo
