import AggregateGateway.Metrics
import AggregateGateway.Publish.Channel
import AggregateGateway.Publish.Hash
import AggregateGateway.Publish.Sizing

/-!
The publish pool: workers with a bounded queue each. The key of a message alone decides which
worker publishes it, so messages with one key are offered to the channel in the order in which
they were submitted. A full queue refuses at once; a worker that breaks down takes its queue with
it.
-/

namespace AggregateGateway.Publish

open Catalog (Message)
open Metrics (Measurement)

/-- A message that waits to be published, with the number of its submission. -/
structure Job where
  number : Nat
  topic : String
  message : Message
  deriving DecidableEq

inductive SubmissionError where
  | queueFull (topic : String)
  | closed
  | rejected (e : ChannelError)
  deriving DecidableEq

def SubmissionError.message : SubmissionError → String
  | .queueFull topic => "Publish queue full for topic '" ++ topic ++ "'"
  | .closed => "Publish pool is shut down"
  | .rejected e => e.message

structure Worker where
  queue : List Job
  /-- The job that has left the queue and is being published. -/
  current : Option Job
  isAlive : Bool
  deriving DecidableEq

/-- What the channel does with a message. -/
inductive Verdict where
  | accepted
  | refused (e : ChannelError)
  /-- The worker that publishes breaks down. -/
  | crashed
  deriving DecidableEq

/-- The answer to a submission: its number, and whether it was published. -/
structure Acknowledgement where
  number : Nat
  result : Except SubmissionError Unit

namespace Worker

def idle : Worker := ⟨[], none, true⟩

/-- Moves the oldest job out of the queue if the worker is free. -/
def take (w : Worker) : Option Worker :=
  match w.isAlive, w.current, w.queue with
  | true, none, job :: queue => some { w with queue, current := some job }
  | _, _, _ => none

/-- What a worker is left with when the channel has dealt with its current job, and which
submissions are thereby answered. -/
def settle (v : Verdict) (job : Job) (w : Worker) : Worker × List Acknowledgement :=
  match v with
  | .accepted => ({ w with current := none }, [⟨job.number, .ok ()⟩])
  | .refused e => ({ w with current := none }, [⟨job.number, .error (.rejected e)⟩])
  | .crashed =>
    (⟨[], none, false⟩, (job :: w.queue).map fun j => ⟨j.number, .error .closed⟩)

end Worker

/-- What is measured of a verdict. How long the channel took to accept a message is measured too, but
not shown here, as publishing has no duration in a pool of steps. -/
def Verdict.measurements (topic : String) : Verdict → List Measurement
  | .accepted => [.count .publishPublished topic]
  | .refused _ => [.count .publishFailed topic]
  | .crashed => []

structure Pool where
  capacity : Nat
  workers : List Worker
  /-- The number of the next submission. -/
  next : Nat
  deriving DecidableEq

namespace Pool

def ofSizing (s : Sizing) : Pool :=
  ⟨s.perWorker, List.replicate s.workerCount .idle, 0⟩

/-- The worker for a key, of `count` workers. -/
def shardOf (count : Nat) (key : String) : Nat :=
  (hashText key).toNat % count

def shard (p : Pool) (key : String) : Nat :=
  shardOf p.workers.length key

def worker (p : Pool) (i : Nat) : Worker :=
  (p.workers[i]?).getD ⟨[], none, false⟩

def setWorker (p : Pool) (i : Nat) (w : Worker) : Pool :=
  { p with workers := p.workers.set i w }

/-- Puts a message into the queue of its worker. The submission gets its number even if it is
refused. -/
def submit (topic : String) (m : Message) (p : Pool) : Pool × Except SubmissionError Nat :=
  let i := p.shard m.key
  let w := p.worker i
  let counted := { p with next := p.next + 1 }
  if !w.isAlive then (counted, .error .closed)
  else if p.capacity ≤ w.queue.length then (counted, .error (.queueFull topic))
  else
    (counted.setWorker i { w with queue := w.queue ++ [⟨p.next, topic, m⟩] }, .ok p.next)

/-- What is measured when a submission has been answered. -/
def submitMeasurements (topic : String) : Except SubmissionError Nat → List Measurement
  | .ok _ => [.count .publishSubmitted topic]
  | .error (.queueFull _) => [.count .publishRejected topic]
  | .error _ => []

end Pool

/-- A channel as the workers see it: what it does with a message now, or nothing yet. -/
abbrev Publishing (β : Type) := Job → β → Option (Verdict × β)

/-- A worker together with the channel and what its work has brought about. -/
structure Work (β : Type) where
  worker : Worker
  channel : β
  acknowledgements : List Acknowledgement
  measurements : List Measurement

variable {β : Type}

/-- The next thing a worker does, if it can do anything. -/
def Work.step (publish : Publishing β) (k : Work β) : Option (Work β) :=
  match k.worker.current with
  | none => k.worker.take.map fun w => { k with worker := w }
  | some job =>
    (publish job k.channel).map fun (v, channel) =>
      let (worker, acks) := k.worker.settle v job
      { worker, channel
        acknowledgements := k.acknowledgements ++ acks
        measurements := k.measurements ++ v.measurements job.topic }

/-- Works until nothing can move. -/
def Work.run (publish : Publishing β) : Nat → Work β → Work β
  | 0, k => k
  | n + 1, k =>
    match k.step publish with
    | none => k
    | some k => k.run publish n

/-- Every job is taken once and settled once. -/
def Worker.stepLimit (w : Worker) : Nat :=
  2 * w.queue.length + 2

/-- All workers, one after the other, until nothing can move. -/
def Pool.run (publish : Publishing β) (p : Pool) (channel : β) :
    Pool × β × List Acknowledgement × List Measurement :=
  let (workers, channel, acks, ms) := go p.workers channel
  ({ p with workers }, channel, acks, ms)
where
  go : List Worker → β → List Worker × β × List Acknowledgement × List Measurement
    | [], channel => ([], channel, [], [])
    | w :: ws, channel =>
      let k := Work.run publish w.stepLimit ⟨w, channel, [], []⟩
      let (ws, channel, acks, ms) := go ws k.channel
      (k.worker :: ws, channel, k.acknowledgements ++ acks, k.measurements ++ ms)

/-- Nothing is queued or being published. -/
def Pool.isDrained (p : Pool) : Bool :=
  p.workers.all fun w => w.queue.isEmpty && w.current.isNone

end AggregateGateway.Publish
