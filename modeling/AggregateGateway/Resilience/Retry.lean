import AggregateGateway.Metrics
import AggregateGateway.Time.Span

/-!
Repeating a call that failed in a way that may pass. What happens after an attempt is decided by
`Retry.Policy.after`; `Retry.run` plays a whole series of attempts, each of which takes its time.
-/

namespace AggregateGateway.Resilience

open Metrics (Measurement Metric)
open Time (Moment Span)

namespace Retry

structure Policy where
  /-- The number of attempts, the first one included. -/
  maxAttempts : Nat
  /-- The pause between two attempts. -/
  wait : Span
  deriving DecidableEq

def Policy.build (maxAttempts : Nat) (wait : Span) : Policy :=
  ⟨max maxAttempts 1, wait⟩

def Policy.default : Policy := .build 3 (Span.millis 1000)

def Policy.once : Policy := ⟨1, Span.zero⟩

/-- Why a call was given up. -/
inductive Failure (ε : Type) where
  | exhausted (attempts : Nat) (last : ε)
  | aborted (e : ε)
  deriving DecidableEq

def Failure.last {ε : Type} : Failure ε → ε
  | .exhausted _ e => e
  | .aborted e => e

def Failure.message {ε : Type} (text : ε → String) : Failure ε → String
  | .exhausted attempts last =>
    "Operation failed after " ++ toString attempts ++ " attempts: " ++ text last
  | .aborted e => text e

/-- What to do after an attempt. -/
inductive Verdict (ε α : Type) where
  | settled (r : Except (Failure ε) α)
  | again

variable {ε α : Type}

/-- What follows on the answer to attempt number `attempt`. -/
def Policy.after (p : Policy) (isRetryable : ε → Bool) (attempt : Nat) (answer : Except ε α) :
    Verdict ε α :=
  match answer with
  | .ok a => .settled (.ok a)
  | .error e =>
    if !isRetryable e then .settled (.error (.aborted e))
    else if p.maxAttempts ≤ attempt then .settled (.error (.exhausted attempt e))
    else .again

/-- What is measured after attempt number `attempt`. -/
def Verdict.measurements (attempt : Nat) : Verdict ε α → List Measurement
  | .settled (.ok _) => if 1 < attempt then [.count .retrySuccesses ""] else []
  | .settled (.error (.exhausted ..)) => [.count .retryExhausted ""]
  | .settled (.error (.aborted _)) => []
  | .again => [.count .retryAttempts ""]

/-- The answer to an attempt and how long it takes. -/
structure Reply (ε α : Type) where
  latency : Nat
  answer : Except ε α

/-- A finished series of attempts. -/
structure Run (ε α : Type) where
  result : Except (Failure ε) α
  attempts : Nat
  elapsed : Nat
  measurements : List Measurement

/-- Plays attempts from number `attempt` on, with at most `left` more after it. -/
def runFrom (p : Policy) (isRetryable : ε → Bool) (replies : Nat → Reply ε α) (attempt : Nat) :
    Nat → Run ε α
  | 0 =>
    let reply := replies attempt
    let verdict := p.after isRetryable attempt reply.answer
    let result := match verdict, reply.answer with
      | .settled r, _ => r
      | .again, .ok a => .ok a
      | .again, .error e => .error (.exhausted attempt e)
    ⟨result, attempt, reply.latency, verdict.measurements attempt⟩
  | left + 1 =>
    let reply := replies attempt
    let verdict := p.after isRetryable attempt reply.answer
    match verdict with
    | .settled result => ⟨result, attempt, reply.latency, verdict.measurements attempt⟩
    | .again =>
      let rest := runFrom p isRetryable replies (attempt + 1) left
      { rest with
        elapsed := reply.latency + p.wait.nanos + rest.elapsed
        measurements := verdict.measurements attempt ++ rest.measurements }

/-- Plays the attempts, which are numbered from one. -/
def run (p : Policy) (isRetryable : ε → Bool) (replies : Nat → Reply ε α) : Run ε α :=
  runFrom p isRetryable replies 1 (p.maxAttempts - 1)

end Retry

end AggregateGateway.Resilience
