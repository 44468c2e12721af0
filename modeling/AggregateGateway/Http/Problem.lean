import AggregateGateway.Catalog.Failure
import AggregateGateway.Http.Status
import AggregateGateway.Time.Rfc3339

/-!
Problems: the answers to requests that went wrong, and the document that all of them are sent as.
The services behind the gateway answer with the same document.
-/

namespace AggregateGateway.Http

open Json (Codec Fields)
open Time (Instant)

structure ProblemDocument where
  timestamp : Instant
  path : String
  httpStatus : String
  message : String
  deriving DecidableEq

def ProblemDocument.codec : Codec ProblemDocument :=
  Json.record "HttpErrorInfo"
    (.required "timestamp" Time.Instant.codec <| .defaulted "path" Json.text "" <|
      .required "httpStatus" Json.text <| .defaulted "message" Json.text "" .nil)
    (fun (timestamp, path, httpStatus, message, ()) => ⟨timestamp, path, httpStatus, message⟩)
    fun d => (d.timestamp, d.path, d.httpStatus, d.message, ())

structure Problem where
  status : Status
  message : String
  path : Option String
  /-- What lies behind the problem; never shown to a client. -/
  cause : Option String
  deriving DecidableEq

namespace Problem

def of (status : Status) (message : String) : Problem := ⟨status, message, none, none⟩

def badRequest (message : String) : Problem := of .badRequest message
def notFound (message : String) : Problem := of .notFound message
def unprocessable (message : String) : Problem := of .unprocessable message
def internal (message : String) : Problem := of .internalError message

def withPath (p : Problem) (path : String) : Problem := { p with path := some path }
def withCause (p : Problem) (cause : String) : Problem := { p with cause := some cause }

/-- A failure nobody foresaw; its text stays inside. -/
def unforeseen (cause : String) : Problem :=
  (internal "An internal error occurred").withCause cause

def ofFailure : Catalog.Failure → Problem
  | .badRequest m => badRequest m
  | .notFound m => notFound m
  | .invalidInput m => unprocessable m
  | f => of ((Status.of? f.status).getD .badGateway) f.message

/-- One line for the log. -/
def summary (p : Problem) : String :=
  "[" ++ p.status.name ++ "] " ++ p.message

def document (p : Problem) (now : Instant) : ProblemDocument :=
  ⟨now, p.path.getD "", p.status.name, p.message⟩

/-- The body of the response. -/
def body (p : Problem) (now : Instant) : Bytes :=
  ProblemDocument.codec.write (p.document now)

end Problem

end AggregateGateway.Http
