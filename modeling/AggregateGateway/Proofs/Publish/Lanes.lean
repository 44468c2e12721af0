import AggregateGateway.Proofs.Publish.Acknowledgements

/-! One bounded queue with the worker that empties it, apart from every other. A pool is told by
its deeds, in which the decisions of the channel are written down; what is seen of a pool through
one of its workers is again such a lane. -/

namespace AggregateGateway.Publish

open Catalog (Message)

/-- A step of a pool. A receipt is told by its worker and by its place among the submissions that
the worker has accepted. -/
inductive Deed where
  | submit (topic : String) (m : Message)
  | take (i : Nat)
  | settle (i : Nat) (v : Verdict)
  | drop (i place : Nat)
  | close
  deriving DecidableEq

/-- Nobody but its worker is concerned by a deed, unless the whole pool is closed. -/
def Deed.concerns (count i : Nat) : Deed → Bool
  | .submit _ m => Pool.shardOf count m.key == i
  | .take j | .settle j _ | .drop j _ => j == i
  | .close => true

/-- What has become of an accepted submission. -/
structure Receipt where
  isHeld : Bool
  answer : Option (Except SubmissionError Unit)

namespace Receipt

def dropped (r : Receipt) : Receipt := { r with isHeld := false }

/-- The first answer counts. -/
def answered (answer : Except SubmissionError Unit) (r : Receipt) : Receipt :=
  { r with answer := r.answer.or (some answer) }

/-- Answers the first receipt that has no answer. -/
def answerFirst (answer : Except SubmissionError Unit) : List Receipt → List Receipt
  | [] => []
  | r :: rs => if r.answer.isNone then r.answered answer :: rs else r :: answerFirst answer rs

end Receipt

/-- What is seen of a lane, in which submissions have no numbers. -/
inductive Sighting where
  | queued (topic : String) (m : Message)
  | refused (topic : String) (m : Message) (e : SubmissionError)
  | offered (topic : String) (m : Message)
  | settled (topic : String) (m : Message) (v : Verdict)

structure Lane where
  isOpen : Bool
  isAlive : Bool
  queue : List (String × Message)
  current : Option (String × Message)
  /-- One for each accepted submission, in their order. -/
  receipts : List Receipt
  log : List Sighting

namespace Lane

def idle : Lane := ⟨true, true, [], none, [], []⟩

/-- Why a submission is refused, if it is. -/
def refusal? (capacity : Nat) (l : Lane) (topic : String) : Option SubmissionError :=
  if !l.isAlive then some .closed
  else if capacity ≤ l.queue.length then some (.queueFull topic)
  else none

def submit (capacity : Nat) (topic : String) (m : Message) (l : Lane) : Lane :=
  match l.refusal? capacity topic with
  | some e => { l with log := l.log ++ [.refused topic m e] }
  | none => { l with
      queue := l.queue ++ [(topic, m)]
      receipts := l.receipts ++ [⟨true, none⟩]
      log := l.log ++ [.queued topic m] }

def take (l : Lane) : Lane :=
  match l.isAlive, l.current, l.queue with
  | true, none, (topic, m) :: queue => { l with
      queue
      current := some (topic, m)
      log := l.log ++ [.offered topic m] }
  | _, _, _ => l

/-- A worker that breaks down leaves no receipt without an answer. -/
def settle (v : Verdict) (l : Lane) : Lane :=
  match l.current with
  | none => l
  | some (topic, m) =>
    let log := l.log ++ [.settled topic m v]
    match v with
    | .crashed => { l with
        isAlive := false, queue := [], current := none, log
        receipts := l.receipts.map (Receipt.answered (.error .closed)) }
    | v => { l with current := none, log, receipts := Receipt.answerFirst v.answer l.receipts }

def step (capacity : Nat) (l : Lane) : Deed → Lane
  | .submit topic m => if l.isOpen then l.submit capacity topic m else l
  | .take _ => l.take
  | .settle _ v => l.settle v
  | .drop _ place => { l with receipts := l.receipts.modify place Receipt.dropped }
  | .close => { l with isOpen := false }

def run (capacity : Nat) (l : Lane) (deeds : List Deed) : Lane :=
  deeds.foldl (step capacity) l

end Lane

/-! ### Pools seen through their lanes -/

def Job.unnumbered (job : Job) : String × Message := (job.topic, job.message)

def Occurrence.sighting? (count i : Nat) : Occurrence → Option Sighting
  | .answered topic m answer =>
    if Pool.shardOf count m.key == i then
      match answer with
      | .ok _ => some (.queued topic m)
      | .error e => some (.refused topic m e)
    else none
  | .offered j job => if j == i then some (.offered job.topic job.message) else none
  | .settled j job v => if j == i then some (.settled job.topic job.message v) else none

namespace Traffic

variable {β : Type}

def receipt (t : Traffic β) (job : Job) : Receipt where
  isHeld := t.receipts.contains job.number
  answer := (t.acknowledgements.find? fun a => a.number == job.number).map
    Acknowledgement.result

/-- What is seen of a pool by those whose keys belong to one of its workers. -/
def lane (count i : Nat) (t : Traffic β) : Lane where
  isOpen := t.isOpen
  isAlive := (t.pool.worker i).isAlive
  queue := (t.pool.worker i).queue.map Job.unnumbered
  current := (t.pool.worker i).current.map Job.unnumbered
  receipts := (acceptedFor count i t.history).map t.receipt
  log := t.history.filterMap (Occurrence.sighting? count i)

/-- The deed of throwing the receipt of a submission away, if the submission was accepted. -/
def dropOf (count n : Nat) (t : Traffic β) : Option Deed :=
  ((accepted t.history).find? fun job => job.number == n).map fun job =>
    let i := Pool.shardOf count job.message.key
    .drop i ((acceptedFor count i t.history).idxOf job)

/-- What an action comes to. -/
def deed? (publish : Publishing β) (count : Nat) (t : Traffic β) : Action β → Option Deed
  | .submit topic m => some (.submit topic m)
  | .work i =>
    match (t.pool.worker i).current with
    | none => some (.take i)
    | some job => (publish job t.channel).map fun (v, _) => .settle i v
  | .shift _ => none
  | .drop n => t.dropOf count n
  | .close => some .close

def deeds (publish : Publishing β) (count : Nat) : Traffic β → List (Action β) → List Deed
  | _, [] => []
  | t, a :: actions =>
    (t.deed? publish count a).toList ++ (t.step publish a).deeds publish count actions

end Traffic

end AggregateGateway.Publish
