import AggregateGateway.Publish.Pool

/-! A publish pool at work. Submissions, steps of the workers, changes of the channel and receipts
thrown away follow one another in any order. What has happened is kept as a history. -/

namespace AggregateGateway.Publish

open Catalog (Message)
open Metrics (Measurement)

inductive Action (β : Type) where
  | submit (topic : String) (m : Message)
  /-- A worker does the next thing it can do. -/
  | work (i : Nat)
  /-- The channel changes on its own account. -/
  | shift (channel : β)
  | drop (n : Nat)
  /-- No more submissions. -/
  | close

inductive Occurrence where
  | answered (topic : String) (m : Message) (answer : Except SubmissionError Nat)
  /-- A worker has handed a job to the channel. -/
  | offered (i : Nat) (job : Job)
  /-- The channel has dealt with the job of a worker. -/
  | settled (i : Nat) (job : Job) (v : Verdict)

structure Traffic (β : Type) where
  pool : Pool
  channel : β
  isOpen : Bool
  /-- The submissions whose receipts are still held. -/
  receipts : List Nat
  history : List Occurrence
  acknowledgements : List Acknowledgement
  measurements : List Measurement

variable {β : Type}

/-- What a step of a worker adds to the history. -/
def Worker.occurrences (publish : Publishing β) (i : Nat) (w : Worker) (channel : β) :
    List Occurrence :=
  match w.current with
  | none => w.queue.head?.toList.map (.offered i)
  | some job => (publish job channel).toList.map fun (v, _) => .settled i job v

namespace Traffic

def start (s : Sizing) (channel : β) : Traffic β :=
  ⟨.ofSizing s, channel, true, [], [], [], []⟩

def answered (t : Traffic β) (topic : String) (m : Message)
    (r : Pool × Except SubmissionError Nat) : Traffic β :=
  { t with
    pool := r.1
    receipts := t.receipts ++ r.2.toOption.toList
    history := t.history ++ [.answered topic m r.2]
    measurements := t.measurements ++ Pool.submitMeasurements topic r.2 }

def step (publish : Publishing β) (t : Traffic β) : Action β → Traffic β
  | .submit topic m =>
    if t.isOpen then t.answered topic m (t.pool.submit topic m) else t
  | .work i =>
    let w := t.pool.worker i
    match Work.step publish ⟨w, t.channel, t.acknowledgements, t.measurements⟩ with
    | none => t
    | some k =>
      { t with
        pool := t.pool.setWorker i k.worker
        channel := k.channel
        history := t.history ++ w.occurrences publish i t.channel
        acknowledgements := k.acknowledgements
        measurements := k.measurements }
  | .shift channel => { t with channel }
  | .drop n => { t with receipts := t.receipts.filter (· != n) }
  | .close => { t with isOpen := false }

def run (publish : Publishing β) (t : Traffic β) (actions : List (Action β)) : Traffic β :=
  actions.foldl (step publish) t

theorem run_cons (publish : Publishing β) (t : Traffic β) (a : Action β)
    (actions : List (Action β)) :
    t.run publish (a :: actions) = (t.step publish a).run publish actions := rfl

theorem run_append (publish : Publishing β) (t : Traffic β) (actions later : List (Action β)) :
    t.run publish (actions ++ later) = (t.run publish actions).run publish later :=
  List.foldl_append

theorem run_induction {P : Traffic β → Prop} {publish : Publishing β} {t : Traffic β}
    (start : P t) (next : ∀ t a, P t → P (t.step publish a)) (actions : List (Action β)) :
    P (t.run publish actions) :=
  List.foldlRecOn actions _ start fun t ht a _ => next t a ht

end Traffic

theorem Pool.worker_setWorker_self {p : Pool} {i : Nat} (w : Worker)
    (h : i < p.workers.length) : (p.setWorker i w).worker i = w := by
  simp [Pool.worker, Pool.setWorker, h]

theorem Pool.worker_setWorker_other {i j : Nat} (p : Pool) (w : Worker) (h : i ≠ j) :
    (p.setWorker i w).worker j = p.worker j := by
  simp only [Pool.worker, Pool.setWorker, List.getElem?_set_ne h]

@[simp] theorem Pool.length_setWorker (p : Pool) (i : Nat) (w : Worker) :
    (p.setWorker i w).workers.length = p.workers.length := by
  simp only [Pool.setWorker, List.length_set]

theorem Pool.lt_of_alive {p : Pool} {i : Nat} (h : (p.worker i).isAlive = true) :
    i < p.workers.length := by
  rcases Nat.lt_or_ge i p.workers.length with hlt | hge
  · exact hlt
  · simp [Pool.worker, List.getElem?_eq_none hge] at h

/-! ### Submissions -/

def Pool.counted (p : Pool) : Pool := { p with next := p.next + 1 }

@[simp] theorem Pool.counted_worker (p : Pool) (i : Nat) : p.counted.worker i = p.worker i := rfl

@[simp] theorem Pool.counted_workers (p : Pool) : p.counted.workers = p.workers := rfl

/-- A submission is refused by a dead worker and by a full queue; else it ends the queue of the
worker for its key. -/
theorem Pool.submit_cases (p : Pool) (topic : String) (m : Message) :
    let w := p.worker (p.shard m.key)
    w.isAlive = false ∧ p.submit topic m = (p.counted, .error .closed) ∨
    w.isAlive = true ∧ p.capacity ≤ w.queue.length ∧
      p.submit topic m = (p.counted, .error (.queueFull topic)) ∨
    w.isAlive = true ∧ w.queue.length < p.capacity ∧
      p.submit topic m = (p.counted.setWorker (p.shard m.key)
        { w with queue := w.queue ++ [⟨p.next, topic, m⟩] }, .ok p.next) := by
  intro w
  cases hw : w.isAlive with
  | false =>
    refine .inl ⟨rfl, ?_⟩
    change (p.worker (p.shard m.key)).isAlive = false at hw
    simp only [submit, hw, Bool.not_false, if_true, counted]
  | true =>
    refine .inr ?_
    change (p.worker (p.shard m.key)).isAlive = true at hw
    rcases Nat.lt_or_ge w.queue.length p.capacity with hlt | hge
    · have hn : ¬ p.capacity ≤ (p.worker (p.shard m.key)).queue.length := Nat.not_le.mpr hlt
      refine .inr ⟨rfl, hlt, ?_⟩
      simp only [submit, hw, Bool.not_true, Bool.false_eq_true, if_false, hn, counted, w]
    · have hf : p.capacity ≤ (p.worker (p.shard m.key)).queue.length := hge
      refine .inl ⟨rfl, hge, ?_⟩
      simp only [submit, hw, Bool.not_true, Bool.false_eq_true, if_false, hf, if_true, counted]

/-! ### Steps of a worker -/

/-- A worker moves by taking the oldest job of its queue or by the channel dealing with the job it
has taken; a dead one never moves. -/
theorem Work.step_cases {publish : Publishing β} {k k' : Work β}
    (h : k.step publish = some k') :
    (∃ job queue, k.worker = ⟨job :: queue, none, true⟩ ∧
      k' = { k with worker := ⟨queue, some job, true⟩ }) ∨
    ∃ job v channel, k.worker.current = some job ∧ publish job k.channel = some (v, channel) ∧
      k' = ⟨(k.worker.settle v job).1, channel,
        k.acknowledgements ++ (k.worker.settle v job).2,
        k.measurements ++ v.measurements job.topic⟩ := by
  obtain ⟨⟨queue, current, isAlive⟩, channel, acks, ms⟩ := k
  cases current with
  | none =>
    cases isAlive <;> cases queue <;>
      simp only [Work.step, Worker.take, Option.map_none, Option.map_some, reduceCtorEq,
        Option.some.injEq] at h
    subst h
    exact .inl ⟨_, _, rfl, rfl⟩
  | some job =>
    simp only [Work.step, Option.map_eq_some_iff, Prod.exists] at h
    obtain ⟨v, channel', hp, rfl⟩ := h
    exact .inr ⟨job, v, channel', rfl, hp, rfl⟩

theorem Traffic.work_cases (publish : Publishing β) (t : Traffic β) (i : Nat) :
    t.step publish (.work i) = t ∨
    (∃ job queue, t.pool.worker i = ⟨job :: queue, none, true⟩ ∧
      t.step publish (.work i) = { t with
        pool := t.pool.setWorker i ⟨queue, some job, true⟩
        history := t.history ++ [.offered i job] }) ∨
    ∃ job v channel, (t.pool.worker i).current = some job ∧
      publish job t.channel = some (v, channel) ∧
      t.step publish (.work i) = { t with
        pool := t.pool.setWorker i ((t.pool.worker i).settle v job).1
        channel
        history := t.history ++ [.settled i job v]
        acknowledgements := t.acknowledgements ++ ((t.pool.worker i).settle v job).2
        measurements := t.measurements ++ v.measurements job.topic } := by
  cases hk : Work.step publish
      ⟨t.pool.worker i, t.channel, t.acknowledgements, t.measurements⟩ with
  | none => exact .inl (by simp only [Traffic.step, hk])
  | some k =>
    refine .inr ?_
    rcases Work.step_cases hk with ⟨job, queue, hw, rfl⟩ | ⟨job, v, channel, hc, hp, rfl⟩
    · have hw' : t.pool.worker i = ⟨job :: queue, none, true⟩ := hw
      refine .inl ⟨job, queue, hw', ?_⟩
      simp only [Traffic.step, hk]
      simp only [hw', Worker.occurrences, List.head?_cons, Option.toList_some, List.map_cons,
        List.map_nil]
    · have hc' : (t.pool.worker i).current = some job := hc
      have hp' : publish job t.channel = some (v, channel) := hp
      refine .inr ⟨job, v, channel, hc', hp', ?_⟩
      simp only [Traffic.step, hk]
      simp only [hc', hp', Worker.occurrences, Option.toList_some, List.map_cons, List.map_nil]

end AggregateGateway.Publish
