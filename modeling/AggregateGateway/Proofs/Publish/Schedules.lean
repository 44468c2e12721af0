import AggregateGateway.Proofs.Publish.PoolTraffic

/-! Letting the workers of a pool run one after the other is one of the ways in which a pool can be
at work: each takes its turns until nothing of it can move. What holds of every order of steps
therefore holds of this one. -/

namespace AggregateGateway.Publish

open Metrics (Measurement)

variable {β : Type} {publish : Publishing β}

/-! ### One worker -/

theorem Work.run_of_step_none {k : Work β} (n : Nat) (h : k.step publish = none) :
    k.run publish n = k := by
  cases n with
  | zero => rfl
  | succ n => simp only [run, h]

/-- Each job in the queue is taken and settled, the current one is settled. -/
def Worker.movesLeft (w : Worker) : Nat :=
  2 * w.queue.length + w.current.toList.length

theorem Work.movesLeft_step {k k' : Work β} (h : k.step publish = some k') :
    k'.worker.movesLeft < k.worker.movesLeft := by
  rcases Work.step_cases h with ⟨job, queue, hw, rfl⟩ | ⟨job, v, channel, hc, -, rfl⟩
  · simp only [hw, Worker.movesLeft, List.length_cons, Option.toList_some, Option.toList_none,
      List.length_nil]
    omega
  · cases v <;>
      simp only [Worker.movesLeft, Worker.settle, hc, Option.toList_some, Option.toList_none,
        List.length_cons, List.length_nil] <;>
      omega

theorem Work.step_run_of_movesLeft {n : Nat} {k : Work β} (h : k.worker.movesLeft ≤ n) :
    (k.run publish n).step publish = none := by
  induction n generalizing k with
  | zero =>
    cases hk : k.step publish with
    | none => exact hk
    | some k' =>
      have hlt := Work.movesLeft_step hk
      omega
  | succ n ih =>
    cases hk : k.step publish with
    | none =>
      rw [Work.run_of_step_none _ hk]
      exact hk
    | some k' =>
      have hlt := Work.movesLeft_step hk
      simp only [run, hk]
      exact ih (by omega)

/-- The limit is never what ends the work. -/
theorem Work.step_run_stepLimit (publish : Publishing β) (k : Work β) :
    (k.run publish k.worker.stepLimit).step publish = none := by
  apply Work.step_run_of_movesLeft
  cases hc : k.worker.current <;>
    simp only [Worker.movesLeft, Worker.stepLimit, hc, Option.toList_some, Option.toList_none,
      List.length_cons, List.length_nil] <;>
    omega

/-- What a worker brings about comes after what was there before. -/
def Work.after (k : Work β) (acks : List Acknowledgement) (ms : List Measurement) : Work β :=
  { k with acknowledgements := acks ++ k.acknowledgements, measurements := ms ++ k.measurements }

theorem Work.step_after (k : Work β) (acks : List Acknowledgement) (ms : List Measurement) :
    (k.after acks ms).step publish = (k.step publish).map (·.after acks ms) := by
  obtain ⟨⟨queue, current, isAlive⟩, channel, acks', ms'⟩ := k
  cases current with
  | none => cases isAlive <;> cases queue <;> rfl
  | some job =>
    simp only [step, after]
    cases publish job channel with
    | none => rfl
    | some r => simp only [Option.map_some, List.append_assoc]

theorem Work.run_after (n : Nat) (k : Work β) (acks : List Acknowledgement)
    (ms : List Measurement) :
    (k.after acks ms).run publish n = (k.run publish n).after acks ms := by
  induction n generalizing k with
  | zero => rfl
  | succ n ih =>
    simp only [run, step_after]
    cases k.step publish with
    | none => rfl
    | some k' => exact ih k'

namespace Traffic

def work (t : Traffic β) (i : Nat) : Work β :=
  ⟨t.pool.worker i, t.channel, t.acknowledgements, t.measurements⟩

def put (t : Traffic β) (i : Nat) (k : Work β) (history : List Occurrence) : Traffic β :=
  { t with
    pool := t.pool.setWorker i k.worker
    channel := k.channel
    history
    acknowledgements := k.acknowledgements
    measurements := k.measurements }

theorem work_put {t : Traffic β} {i : Nat} (k : Work β) (history : List Occurrence)
    (hi : i < t.pool.workers.length) : (t.put i k history).work i = k := by
  simp only [work, put, Pool.worker_setWorker_self k.worker hi]

theorem put_put (t : Traffic β) (i : Nat) (k k' : Work β) (history history' : List Occurrence) :
    (t.put i k history).put i k' history' = t.put i k' history' := by
  simp only [put, Pool.setWorker, List.set_set]

theorem put_work {t : Traffic β} {i : Nat} (hi : i < t.pool.workers.length) :
    t.put i (t.work i) t.history = t := by
  have hw : t.pool.workers.set i (t.pool.worker i) = t.pool.workers := by
    simp only [Pool.worker, List.getElem?_eq_getElem hi, Option.getD_some,
      List.set_getElem_self]
  simp only [put, work, Pool.setWorker, hw]

theorem step_work_none {t : Traffic β} {i : Nat} (h : (t.work i).step publish = none) :
    t.step publish (.work i) = t := by
  rw [work] at h
  simp only [step, h]

theorem step_work_some {t : Traffic β} {i : Nat} {k : Work β}
    (h : (t.work i).step publish = some k) :
    t.step publish (.work i) =
      t.put i k (t.history ++ (t.pool.worker i).occurrences publish i t.channel) := by
  rw [work] at h
  simp only [step, h, put]

theorem run_worker {t : Traffic β} {i : Nat} (publish : Publishing β) (n : Nat)
    (hi : i < t.pool.workers.length) :
    ∃ history, t.run publish (List.replicate n (.work i)) =
      t.put i ((t.work i).run publish n) history := by
  induction n generalizing t with
  | zero => exact ⟨t.history, (put_work hi).symm⟩
  | succ n ih =>
    cases hk : (t.work i).step publish with
    | none =>
      obtain ⟨history, h⟩ := ih hi
      refine ⟨history, ?_⟩
      rw [Work.run_of_step_none n hk] at h
      rw [Work.run_of_step_none (n + 1) hk, ← h, List.replicate_succ, run_cons,
        step_work_none hk]
    | some k =>
      have hs := step_work_some hk
      obtain ⟨history, h⟩ := ih (t := t.step publish (.work i)) (by
        rw [hs]
        simpa [put] using hi)
      refine ⟨history, ?_⟩
      rw [List.replicate_succ, run_cons, h, hs, work_put _ _ hi, put_put]
      simp only [Work.run, hk]

end Traffic

/-! ### All workers -/

/-- The turns of workers that stand in the pool from a place on. -/
def Pool.turns (start : Nat) (workers : List Worker) : List (Action β) :=
  (workers.zipIdx start).flatMap fun (w, i) => List.replicate w.stepLimit (.work i)

theorem Pool.turns_eq_map (start : Nat) (workers : List Worker) :
    ∃ turns : List Nat, Pool.turns (β := β) start workers = turns.map .work := by
  refine ⟨(workers.zipIdx start).flatMap fun x => List.replicate x.1.stepLimit x.2, ?_⟩
  simp only [Pool.turns, List.map_flatMap, List.map_replicate]

theorem Traffic.run_turns_from (t : Traffic β) (before workers : List Worker)
    (h : t.pool.workers = before ++ workers) :
    ∃ history, t.run publish (Pool.turns before.length workers) =
      let (workers', channel, acks, ms) := Pool.run.go publish workers t.channel
      { t with
        pool := { t.pool with workers := before ++ workers' }
        channel, history
        acknowledgements := t.acknowledgements ++ acks
        measurements := t.measurements ++ ms } := by
  induction workers generalizing t before with
  | nil =>
    refine ⟨t.history, ?_⟩
    simp only [Pool.turns, List.zipIdx_nil, List.flatMap_nil, run, List.foldl_nil, Pool.run.go,
      List.append_nil, ← h]
  | cons w rest ih =>
    have hi : before.length < t.pool.workers.length := by simp [h]
    have hw : t.work before.length =
        Work.after ⟨w, t.channel, [], []⟩ t.acknowledgements t.measurements := by
      simp [work, Work.after, Pool.worker, h]
    obtain ⟨history, hfirst⟩ := run_worker publish w.stepLimit hi
    rw [hw, Work.run_after] at hfirst
    generalize hk : Work.run publish w.stepLimit ⟨w, t.channel, [], []⟩ = k at hfirst
    let next := t.put before.length (k.after t.acknowledgements t.measurements) history
    have hnext : next.pool.workers = (before ++ [k.worker]) ++ rest := by
      simp [next, put, Pool.setWorker, Work.after, h]
    obtain ⟨history', hrest⟩ := ih next _ hnext
    refine ⟨history', ?_⟩
    have hturns : Pool.turns before.length (w :: rest) =
        List.replicate w.stepLimit (.work before.length) ++
          Pool.turns (β := β) (before ++ [k.worker]).length rest := by
      simp [Pool.turns]
    rw [hturns, run_append, hfirst, hrest]
    simp [Pool.run.go, hk, next, put, Work.after, Pool.setWorker]

/-- Letting all workers run is one way of being at work. -/
theorem Traffic.run_turns (publish : Publishing β) (t : Traffic β) :
    ∃ history, t.run publish (Pool.turns 0 t.pool.workers) =
      let (pool, channel, acks, ms) := t.pool.run publish t.channel
      { t with
        pool, channel, history
        acknowledgements := t.acknowledgements ++ acks
        measurements := t.measurements ++ ms } :=
  t.run_turns_from [] t.pool.workers rfl

end AggregateGateway.Publish
