import AggregateGateway.Http.Message

/-!
Routing: which endpoint answers a request. A pattern fits a path of as many segments as it has; a
path that some pattern fits is refused for other methods than those of its routes.
-/

namespace AggregateGateway.Http

inductive Segment where
  | fixed (text : String)
  /-- Any segment, but at the end of a pattern not an empty one. -/
  | parameter (name : String)
  deriving DecidableEq

structure Route (ε : Type) where
  method : String
  pattern : List Segment
  endpoint : ε

/-- Parameters with the segments they stand for, as these were sent. -/
abbrev Parameters := List (String × String)

inductive Routing (ε : Type) where
  | found (endpoint : ε) (parameters : Parameters)
  | wrongMethod (allowed : List String)
  | unknown

/-- The segments of a path, which starts with a slash. -/
def segments? (path : String) : Option (List String) :=
  match path.toList with
  | '/' :: cs => some ((parts '/' cs).map String.ofList)
  | _ => none

def fit? : List Segment → List String → Option Parameters
  | [], [] => some []
  | .fixed text :: pattern, segment :: segments =>
    if segment == text then fit? pattern segments else none
  | .parameter name :: pattern, segment :: segments =>
    if pattern.isEmpty && segment.isEmpty then none
    else (fit? pattern segments).map ((name, segment) :: ·)
  | _, _ => none

/-- Whoever may get a document may also ask for its headers alone. -/
def Route.methods {ε : Type} (r : Route ε) : List String :=
  if r.method == "GET" then ["GET", "HEAD"] else [r.method]

variable {ε : Type}

/-- The routes whose patterns fit a path, with the parameters. -/
def fitting (routes : List (Route ε)) (path : String) : List (Route ε × Parameters) :=
  match segments? path with
  | none => []
  | some segments =>
    routes.filterMap fun r => (fit? r.pattern segments).map fun parameters => (r, parameters)

def route (routes : List (Route ε)) (method path : String) : Routing ε :=
  match fitting routes path with
  | [] => .unknown
  | fits =>
    match fits.find? fun (r, _) => r.methods.contains method with
    | some (r, parameters) => .found r.endpoint parameters
    | none => .wrongMethod (fits.flatMap fun (r, _) => r.methods)

/-- The same routes below a path. -/
def nested (base : String) (routes : List (Route ε)) : List (Route ε) :=
  routes.map fun r => { r with pattern := .fixed base :: r.pattern }

/-- The refusal of a method, with those that are admitted. -/
def Response.methodNotAllowed (allowed : List String) : Response :=
  (Response.empty .methodNotAllowed).setHeader "allow" (",".intercalate allowed)

/-- Answers to HEAD requests have no body. -/
def Response.forMethod (method : String) (r : Response) : Response :=
  if method == "HEAD" then r.withoutBody else r

end AggregateGateway.Http
