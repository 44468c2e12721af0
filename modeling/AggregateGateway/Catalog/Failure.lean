import AggregateGateway.Resilience.Policy

/-!
Why the gateway could not do what it was asked for, with the consequences each reason has: whether
a repetition may help, whether it says anything about the health of a service, and the HTTP status
it is answered with.
-/

namespace AggregateGateway.Catalog

inductive Failure where
  | badRequest (message : String)
  | invalidInput (message : String)
  | notFound (message : String)
  | timeout (message : String)
  | transport (message : String)
  | circuitOpen (message : String)
  /-- A service answered with a status that has no reading of its own. -/
  | unexpectedStatus (status : UInt16) (message : String)
  | eventSubmission (message : String)
  deriving DecidableEq

namespace Failure

def message : Failure → String
  | .badRequest m | .invalidInput m | .notFound m | .timeout m | .transport m | .circuitOpen m
  | .unexpectedStatus _ m | .eventSubmission m => m

/-- The same call may succeed when it is made again. -/
def isTransient : Failure → Bool
  | .timeout _ | .transport _ => true
  | _ => false

/-- The service answered as it should, so a breaker takes no notice. -/
def isIgnored : Failure → Bool
  | .notFound _ | .invalidInput _ => true
  | _ => false

/-- A failure inside a service is passed on; any other unexpected answer makes a bad gateway. -/
def status : Failure → Nat
  | .badRequest _ => 400
  | .invalidInput _ => 422
  | .notFound _ => 404
  | .timeout _ => 504
  | .transport _ | .circuitOpen _ | .eventSubmission _ => 503
  | .unexpectedStatus status _ =>
    if 500 ≤ status ∧ status ≤ 599 then status.toNat else 502

/-- A call that exceeded its deadline. -/
def timedOut (after : Time.Span) : Failure :=
  .timeout ("Downstream call timed out after " ++ toString after.wholeMillis ++ "ms")

instance : Resilience.Classified Failure where
  timedOut := timedOut
  isTransient := isTransient
  isIgnored := isIgnored
  message := message

/-- The failure that is reported when nothing answers in place of the service. -/
def ofRefusal : Resilience.Refusal Failure → Failure
  | .circuitOpen breaker => .circuitOpen ("Circuit breaker for " ++ breaker ++ " is open")
  | .exhausted _ last => last
  | .failed e => e

end Failure

end AggregateGateway.Catalog
