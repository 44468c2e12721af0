import AggregateGateway.Publish.Pool

/-!
Rehearsals of the publish pool on a channel whose behaviour is set from outside: it may hold every
message at a gate until a permit for its key is there, and refuse the messages of some keys or
break the worker that publishes them.
-/

namespace AggregateGateway.Publish

open Catalog (Message)
open Metrics (Registry)

inductive Sabotage where
  | connection (reason : String)
  | publish (reason : String)
  | transport (reason : String)
  | crash
  deriving DecidableEq

/-- What the channel then does with a message on a topic. -/
def Sabotage.verdict (topic : String) : Sabotage → Verdict
  | .connection reason => .refused (.connection reason)
  | .publish reason => .refused (.publish topic reason)
  | .transport reason => .refused (.transport reason)
  | .crash => .crashed

/-- A channel under control, with the jobs that it has accepted, oldest first. -/
structure Stage where
  isGated : Bool
  permits : List (String × Nat)
  sabotages : List (String × Sabotage)
  accepted : List Job
  deriving DecidableEq

namespace Stage

def permit (s : Stage) (key : String) : Nat :=
  (s.permits.lookup key).getD 0

/-- A permit for the key of a message is used up before anything else happens to the message. -/
def passGate (s : Stage) (key : String) : Option Stage :=
  if !s.isGated then some s
  else if s.permit key = 0 then none
  else some { s with permits := Metrics.update key (· - 1) 0 s.permits }

def publish : Publishing Stage := fun job s =>
  (s.passGate job.message.key).map fun s =>
    match s.sabotages.lookup job.message.key with
    | some sabotage => (sabotage.verdict job.topic, s)
    | none => (.accepted, { s with accepted := s.accepted ++ [job] })

end Stage

/-- A pool, possibly shut down, on its stage. -/
structure Rehearsal where
  pool : Pool
  isShutDown : Bool
  stage : Stage
  registry : Registry
  /-- Submissions made since the workers last ran whose receipts nobody has thrown away. -/
  held : List Nat
  /-- Submissions whose receipts are waited for. -/
  awaited : List Nat

namespace Rehearsal

def start (s : Sizing) (isGated : Bool) : Rehearsal :=
  ⟨.ofSizing s, false, ⟨isGated, [], [], []⟩, .empty, [], []⟩

def submit (topic : String) (m : Message) (r : Rehearsal) :
    Rehearsal × Except SubmissionError Nat :=
  let (pool, answer) := r.pool.submit topic m
  let held := match answer with
    | .ok n => r.held ++ [n]
    | .error _ => r.held
  ({ r with pool, held, registry := r.registry.recordAll (Pool.submitMeasurements topic answer) },
    answer)

/-- Throws a receipt away, which is possible until the workers run. -/
def drop (n : Nat) (r : Rehearsal) : Rehearsal × Bool :=
  ({ r with held := r.held.filter (· != n) }, r.held.contains n)

/-- Lets the workers run. The answers to awaited receipts come with the numbers of their
submissions in ascending order, the jobs that were accepted in the order of their keys. -/
def settle (r : Rehearsal) : Rehearsal × List Acknowledgement × List Job :=
  let (pool, stage, acks, ms) := r.pool.run Stage.publish { r.stage with accepted := [] }
  let awaited := r.awaited ++ r.held
  let heard := (acks.filter fun a => awaited.contains a.number).mergeSort
    fun a b => a.number ≤ b.number
  let accepted := stage.accepted.mergeSort fun a b => decide (a.message.key ≤ b.message.key)
  ({ r with
      pool, stage, held := []
      awaited := awaited.filter fun n => !(acks.any fun a => a.number == n)
      registry := r.registry.recordAll ms },
    heard, accepted)

def release (key : String) (n : Nat) (r : Rehearsal) : Rehearsal :=
  { r with stage := { r.stage with permits := Metrics.update key (· + n) 0 r.stage.permits } }

def sabotage (key : String) (s : Option Sabotage) (r : Rehearsal) : Rehearsal :=
  let others := r.stage.sabotages.filter fun (k, _) => k != key
  { r with stage := { r.stage with
      sabotages := match s with
        | some s => (key, s) :: others
        | none => others } }

/-- No more submissions; what is queued is still published. -/
def shutDown (r : Rehearsal) : Rehearsal :=
  { r with isShutDown := true }

end Rehearsal

end AggregateGateway.Publish
