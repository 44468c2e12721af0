import AggregateGateway.Resilience.Breaker
import AggregateGateway.Resilience.Retry

/-!
Calls under a policy: a deadline for each attempt, attempts repeated as the retry policy says, and
all attempts of one execution together shown to the breaker as a single call. Executions may
overlap; each is a small machine that waits for a moment, and `Schedule` moves the clock from one
such moment to the next.
-/

namespace AggregateGateway.Resilience

open Metrics (Measurement Registry)
open Time (Moment Span)

/-- What a policy has to know about the errors of a call. -/
class Classified (ε : Type) where
  timedOut : Span → ε
  isTransient : ε → Bool
  isIgnored : ε → Bool
  message : ε → String

structure Policy where
  /-- The name of the service that the breaker guards. -/
  name : String
  breaker : Breaker.Settings
  retry : Retry.Policy
  /-- The deadline of each attempt. -/
  timeout : Span
  deriving DecidableEq

/-- Why an execution produced no value. -/
inductive Refusal (ε : Type) where
  | circuitOpen (breaker : String)
  | exhausted (attempts : Nat) (last : ε)
  | failed (e : ε)
  deriving DecidableEq

namespace Refusal

variable {ε : Type}

def ofFailure : Retry.Failure ε → Refusal ε
  | .exhausted attempts last => .exhausted attempts last
  | .aborted e => .failed e

def message [Classified ε] : Refusal ε → String
  | .circuitOpen breaker => "Circuit breaker '" ++ breaker ++ "' is open"
  | .exhausted attempts last =>
    "Gave up after " ++ toString attempts ++ " attempts: " ++ Classified.message last
  | .failed e => Classified.message e

/-- Something else may answer in place of the service. -/
def allowsFallback : Refusal ε → Bool
  | .circuitOpen _ | .exhausted .. => true
  | .failed _ => false

end Refusal

/-- An execution between two moments at which something happens to it. -/
inductive Execution (ε α : Type) where
  | ready
  | attempting (permit : Breaker.Permit) (attempt : Nat) (due : Moment) (answer : Except ε α)
  /-- Before attempt number `attempt`. -/
  | pausing (permit : Breaker.Permit) (attempt : Nat) (due : Moment)
  | ended (r : Except (Refusal ε) α)

/-- What executions share: the breaker, the measurements taken so far and the service. -/
structure Guard (σ : Type) where
  breaker : Breaker
  registry : Registry
  service : σ

/-- A call of the service at one moment, with the answer it will give. -/
abbrev Call (σ ε α : Type) := σ → Retry.Reply ε α × σ

variable {σ ε α : Type} [Classified ε]

/-- An attempt that takes longer than its deadline fails when that has passed; one that is just in
time keeps its answer. -/
def Policy.cut (p : Policy) (r : Retry.Reply ε α) : Retry.Reply ε α :=
  if r.latency ≤ p.timeout.nanos then r
  else ⟨p.timeout.nanos, .error (Classified.timedOut p.timeout)⟩

def outcome : Except (Retry.Failure ε) α → Breaker.Outcome
  | .ok _ => .success
  | .error f => if Classified.isIgnored f.last then .ignored else .failure

namespace Guard

def fresh (name : String) (service : σ) : Guard σ :=
  ⟨.fresh, Registry.empty.record (Breaker.fresh.stateMeasurement name), service⟩

def setBreaker (g : Guard σ) (name : String) (b : Breaker) : Guard σ :=
  { g with
    breaker := b
    registry := g.registry.recordAll (Breaker.measurements name g.breaker b) }

end Guard

namespace Policy

def attemptFrom (p : Policy) (call : Call σ ε α) (now : Moment) (permit : Breaker.Permit)
    (attempt : Nat) (g : Guard σ) : Execution ε α × Guard σ :=
  let (reply, service) := call g.service
  let reply := p.cut reply
  (.attempting permit attempt (now + reply.latency) reply.answer, { g with service })

/-- What happens to an execution next, if the time for it has come. -/
def step (p : Policy) (call : Call σ ε α) (now : Moment) (e : Execution ε α) (g : Guard σ) :
    Option (Execution ε α × Guard σ) :=
  match e with
  | .ready =>
    match g.breaker.begin p.breaker now with
    | (b, none) => some (.ended (.error (.circuitOpen p.name)), g.setBreaker p.name b)
    | (b, some permit) => some (p.attemptFrom call now permit 1 (g.setBreaker p.name b))
  | .attempting permit attempt due answer =>
    if now < due then none
    else
      let verdict := p.retry.after Classified.isTransient attempt answer
      let g := { g with registry := g.registry.recordAll (verdict.measurements attempt) }
      match verdict with
      | .again => some (.pausing permit (attempt + 1) (now + p.retry.wait.nanos), g)
      | .settled r =>
        let g := g.setBreaker p.name (g.breaker.finish p.breaker now permit (outcome r))
        some (.ended (r.mapError Refusal.ofFailure), g)
  | .pausing permit attempt due =>
    if now < due then none else some (p.attemptFrom call now permit attempt g)
  | .ended _ => none

/-- An upper bound of the steps of one execution. -/
def stepLimit (p : Policy) : Nat :=
  2 * p.retry.maxAttempts + 3

/-- Takes every step that is due. -/
def poll (p : Policy) (call : Call σ ε α) (now : Moment) :
    Nat → Execution ε α → Guard σ → Execution ε α × Guard σ
  | 0, e, g => (e, g)
  | n + 1, e, g =>
    match p.step call now e g with
    | none => (e, g)
    | some (e, g) => p.poll call now n e g

/-- Gives an execution up; a permit that it holds goes back. -/
def cancel (p : Policy) (e : Execution ε α) (g : Guard σ) : Guard σ :=
  match e with
  | .attempting permit .. | .pausing permit .. =>
    g.setBreaker p.name (g.breaker.abandon permit)
  | _ => g

end Policy

/-- The moment an execution waits for. -/
def Execution.due? : Execution ε α → Option Moment
  | .attempting _ _ due _ => some due
  | .pausing _ _ due => some due
  | _ => none

def Execution.result? : Execution ε α → Option (Except (Refusal ε) α)
  | .ended r => some r
  | _ => none

/-- An execution with the call that it makes and, once it has ended, the time of that. -/
structure Task (σ ε α : Type) where
  call : Call σ ε α
  execution : Execution ε α
  endedAt : Option Moment

namespace Schedule

def task (call : Call σ ε α) : Task σ ε α := ⟨call, .ready, none⟩

def pollTask (p : Policy) (now : Moment) (t : Task σ ε α) (g : Guard σ) : Task σ ε α × Guard σ :=
  let (e, g) := p.poll t.call now p.stepLimit t.execution g
  let endedAt := t.endedAt.or (e.result?.map fun _ => now)
  (⟨t.call, e, endedAt⟩, g)

/-- Polls executions one after the other. -/
def pollAll (p : Policy) (now : Moment) :
    List (Task σ ε α) → Guard σ → List (Task σ ε α) × Guard σ
  | [], g => ([], g)
  | t :: ts, g =>
    let (t, g) := pollTask p now t g
    let (ts, g) := pollAll p now ts g
    (t :: ts, g)

def nextMoment (ts : List (Task σ ε α)) : Option Moment :=
  (ts.filterMap fun t => t.execution.due?).min?

/-- Polls at `now` and at each later moment some execution waits for, up to `deadline` if there is
one. -/
def run (p : Policy) (deadline : Option Moment) :
    Nat → Moment → List (Task σ ε α) → Guard σ → Moment × List (Task σ ε α) × Guard σ
  | 0, now, ts, g => (now, ts, g)
  | n + 1, now, ts, g =>
    let (ts, g) := pollAll p now ts g
    match nextMoment ts with
    | none => (now, ts, g)
    | some later =>
      match deadline with
      | some d => if d < later then (d, ts, g) else run p deadline n later ts g
      | none => run p deadline n later ts g

/-- Runs executions together until all have ended. -/
def together (p : Policy) (now : Moment) (calls : List (Call σ ε α)) (g : Guard σ) :
    Moment × List (Task σ ε α) × Guard σ :=
  run p none (calls.length * p.stepLimit + 1) now (calls.map task) g

/-- Runs one execution, which is given up if it has not ended by the deadline. -/
def within (p : Policy) (now deadline : Moment) (call : Call σ ε α) (g : Guard σ) :
    Moment × Option (Except (Refusal ε) α) × Guard σ :=
  let (later, ts, g) := run p (some deadline) (p.stepLimit + 1) now [task call] g
  match ts with
  | [t] =>
    match t.execution.result? with
    | some r => (later, some r, g)
    | none => (later, none, p.cancel t.execution g)
  | _ => (later, none, g)

end Schedule

end AggregateGateway.Resilience
