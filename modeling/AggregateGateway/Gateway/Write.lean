import AggregateGateway.Catalog.Event
import AggregateGateway.Gateway.Read
import AggregateGateway.Time.Clock

/-!
Creating and deleting aggregates. A write is a batch of messages, each stamped when it is its turn,
that are queued one after the other before the channel accepts any of them; it has succeeded when
the channel has accepted all.
-/

namespace AggregateGateway

open Catalog
open Metrics (Measurement)
open Publish (Pool Acknowledgement SubmissionError)
open Time (Clock Instant)

/-- A message on the topic of a service. -/
structure Dispatch where
  service : Service
  message : Message
  deriving DecidableEq

/-- A message that has no time yet. -/
abbrev Draft := Instant → Dispatch

/-- The creation of an item, then of its ratings and of its commentary. -/
def creationDrafts (s : Spec) : List Draft :=
  (fun stamp => ⟨.item, (Event.create s.item stamp).message⟩) ::
    s.ratingRecords.map (fun r stamp => ⟨.ratings, (Event.create r stamp).message⟩) ++
    s.commentaryRecords.map fun c stamp => ⟨.commentary, (Event.create c stamp).message⟩

def creation (clock : Clock) (s : Spec) : List Dispatch :=
  clock.stamp (creationDrafts s)

def itemDeletion (stamp : Instant) (id : ItemId) : Dispatch :=
  ⟨.item, (Event.delete id stamp : Event Item).message⟩

def ratingsDeletion (stamp : Instant) (id : ItemId) : Dispatch :=
  ⟨.ratings, (Event.delete id stamp : Event Rating).message⟩

def commentaryDeletion (stamp : Instant) (id : ItemId) : Dispatch :=
  ⟨.commentary, (Event.delete id stamp : Event Commentary).message⟩

/-- The deletion of an item, of its ratings and of its commentary. -/
def deletionDrafts (id : ItemId) : List Draft :=
  [(itemDeletion · id), (ratingsDeletion · id), (commentaryDeletion · id)]

def deletion (clock : Clock) (id : ItemId) : List Dispatch :=
  clock.stamp (deletionDrafts id)

/-- Queues messages up to the first that is refused; the numbers of their submissions if none is. -/
def queueAll (topics : Topics) :
    List Dispatch → Pool → Pool × List Measurement × Except SubmissionError (List Nat)
  | [], p => (p, [], .ok [])
  | x :: xs, p =>
    let topic := topics.of x.service
    let (p, answer) := p.submit topic x.message
    let ms := Pool.submitMeasurements topic answer
    match answer with
    | .error e => (p, ms, .error e)
    | .ok n =>
      let (p, more, numbers) := queueAll topics xs p
      (p, ms ++ more, numbers.map (n :: ·))

/-- What a write comes to: the first refusal in the order of its submissions, or success. Nothing
is known of it while an acknowledgement is missing. -/
def outcome : List Nat → List Acknowledgement → Option (Except SubmissionError Unit)
  | [], _ => some (.ok ())
  | n :: ns, acks =>
    match acks.find? fun a => a.number == n with
    | none => none
    | some a =>
      match a.result with
      | .error e => some (.error e)
      | .ok () => outcome ns acks

def submissionFailure (e : SubmissionError) : Failure :=
  .eventSubmission e.message

namespace Gateway

variable {ι ρ κ β : Type}

/-- Queues a batch and lets the workers run. What was queued before a refusal is published all the
same. -/
def write (d : Deployment ι ρ κ β) (batch : List Dispatch) (g : Gateway ι ρ κ β) :
    Option (Except Failure Unit) × Gateway ι ρ κ β :=
  let (pool, queued, numbers) := queueAll d.settings.topics batch g.pool
  let (pool, channel, acks, published) := pool.run d.publish g.channel
  let result : Option (Except SubmissionError Unit) := match numbers with
    | .error e => some (.error e)
    | .ok numbers => outcome numbers acks
  (result.map fun r => r.mapError submissionFailure,
    { g.recordAll (queued ++ published) with pool, channel })

def create (d : Deployment ι ρ κ β) (clock : Clock) (s : Spec) (g : Gateway ι ρ κ β) :
    Option (Except Failure Unit) × Gateway ι ρ κ β :=
  match checkId s.id with
  | .error e => (some (.error e), g)
  | .ok () => g.write d (creation clock s)

/-- Deleting an aggregate that does not exist is no failure. -/
def delete (d : Deployment ι ρ κ β) (clock : Clock) (id : ItemId) (g : Gateway ι ρ κ β) :
    Option (Except Failure Unit) × Gateway ι ρ κ β :=
  match checkId id with
  | .error e => (some (.error e), g)
  | .ok () => g.write d (deletion clock id)

end Gateway

end AggregateGateway
