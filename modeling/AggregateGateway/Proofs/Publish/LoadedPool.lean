import AggregateGateway.Proofs.Publish.Schedules
import AggregateGateway.Proofs.Publish.SubmissionOrder

/-! A pool in which a single worker has something to do. Its queue takes jobs as long as there is
room, and a channel that accepts everything is given all of them when the workers run. -/

namespace AggregateGateway.Publish

open Catalog (Message)
open Metrics (Measurement)

variable {β : Type} {publish : Publishing β}

namespace Pool

/-- One worker has jobs in its queue, the others are idle. -/
def loaded (capacity count i next : Nat) (jobs : List Job) : Pool :=
  ⟨capacity, (List.replicate count .idle).set i ⟨jobs, none, true⟩, next⟩

section Loaded

variable (capacity : Nat) {count i : Nat} (next : Nat) (jobs : List Job)

theorem loaded_nil : loaded capacity count i next [] =
    ⟨capacity, List.replicate count .idle, next⟩ :=
  congrArg (Pool.mk capacity · next) List.set_replicate_self

theorem worker_loaded (hi : i < count) :
    (loaded capacity count i next jobs).worker i = ⟨jobs, none, true⟩ := by
  simp [worker, loaded, hi]

theorem shard_loaded (key : String) :
    (loaded capacity count i next jobs).shard key = shardOf count key := by
  simp only [shard, loaded, List.length_set, List.length_replicate]

variable {m : Message} (hm : shardOf count m.key = i) (hi : i < count) (topic : String)
include hm hi

theorem submit_loaded_of_lt (h : jobs.length < capacity) :
    (loaded capacity count i next jobs).submit topic m =
      (loaded capacity count i (next + 1) (jobs ++ [⟨next, topic, m⟩]), .ok next) := by
  have hw := worker_loaded capacity next jobs hi
  have hcases := (loaded capacity count i next jobs).submit_cases topic m
  simp only [shard_loaded, hm, hw] at hcases
  rcases hcases with ⟨hdead, -⟩ | ⟨-, hfull, -⟩ | ⟨-, -, he⟩
  · cases hdead
  · exact absurd hfull (Nat.not_le.mpr h)
  · rw [he]
    simp only [loaded, counted, setWorker, List.set_set]

theorem submit_loaded_of_le (h : capacity ≤ jobs.length) :
    (loaded capacity count i next jobs).submit topic m =
      (loaded capacity count i (next + 1) jobs, .error (.queueFull topic)) := by
  have hw := worker_loaded capacity next jobs hi
  have hcases := (loaded capacity count i next jobs).submit_cases topic m
  simp only [shard_loaded, hm, hw] at hcases
  rcases hcases with ⟨hdead, -⟩ | ⟨-, -, he⟩ | ⟨-, hroom, -⟩
  · cases hdead
  · exact he
  · exact absurd h (Nat.not_le.mpr hroom)

end Loaded

end Pool

/-! ### Working off the queue -/

/-- While the channel is in a certain condition it accepts every job and stays in that condition. -/
structure Accepting (publish : Publishing β) (keep : Job → β → β) (isWilling : β → Prop) :
    Prop where
  accepts : ∀ job b, isWilling b → publish job b = some (.accepted, keep job b)
  stays : ∀ job b, isWilling b → isWilling (keep job b)

/-- What a channel becomes that accepts some jobs. -/
def kept (keep : Job → β → β) (jobs : List Job) (channel : β) : β :=
  jobs.foldl (fun b job => keep job b) channel

namespace Accepting

variable {keep : Job → β → β} {isWilling : β → Prop}

theorem run (h : Accepting publish keep isWilling) (jobs : List Job) (n : Nat) {channel : β}
    (hwilling : isWilling channel) (acks : List Acknowledgement) (ms : List Measurement) :
    Work.run publish (2 * jobs.length + n) ⟨⟨jobs, none, true⟩, channel, acks, ms⟩ =
      ⟨.idle, kept keep jobs channel, acks ++ jobs.map fun job => ⟨job.number, .ok ()⟩,
        ms ++ jobs.map fun job => .count .publishPublished job.topic⟩ := by
  induction jobs generalizing channel acks ms with
  | nil =>
    rw [Work.run_of_step_none _ rfl]
    simp [Worker.idle, kept]
  | cons job jobs ih =>
    -- two steps for each job: it is taken, then settled
    have hlimit : 2 * (job :: jobs).length + n = (2 * jobs.length + n) + 2 := by
      rw [List.length_cons]
      omega
    have htake : Work.step publish ⟨⟨job :: jobs, none, true⟩, channel, acks, ms⟩ =
        some ⟨⟨jobs, some job, true⟩, channel, acks, ms⟩ := rfl
    have hsettle : Work.step publish ⟨⟨jobs, some job, true⟩, channel, acks, ms⟩ =
        some ⟨⟨jobs, none, true⟩, keep job channel, acks ++ [⟨job.number, .ok ()⟩],
          ms ++ [.count .publishPublished job.topic]⟩ := by
      simp only [Work.step, h.accepts job channel hwilling, Option.map_some, Worker.settle,
        Verdict.measurements]
    rw [hlimit]
    simp only [Work.run, htake, hsettle]
    rw [ih (h.stays job channel hwilling)]
    simp [kept]

end Accepting

theorem Pool.go_idle (n : Nat) (channel : β) :
    Pool.run.go publish (List.replicate n .idle) channel =
      (List.replicate n .idle, channel, [], []) := by
  induction n with
  | zero => rfl
  | succ n ih =>
    have hidle : Work.run publish Worker.idle.stepLimit ⟨.idle, channel, [], []⟩ =
        ⟨.idle, channel, [], []⟩ := Work.run_of_step_none _ rfl
    simp only [List.replicate_succ, run.go, hidle, ih, List.append_nil]

theorem Pool.go_append (workers later : List Worker) (channel : β) :
    Pool.run.go publish (workers ++ later) channel =
      let (workers', channel, acks, ms) := Pool.run.go publish workers channel
      let (later', channel, acks', ms') := Pool.run.go publish later channel
      (workers' ++ later', channel, acks ++ acks', ms ++ ms') := by
  induction workers generalizing channel with
  | nil => rfl
  | cons w workers ih => simp only [List.cons_append, run.go, ih, List.append_assoc]

/-- Everything in the queue is published. -/
theorem Accepting.run_loaded {keep : Job → β → β} {isWilling : β → Prop}
    (h : Accepting publish keep isWilling) (capacity : Nat) {count i : Nat} (hi : i < count)
    (next : Nat) (jobs : List Job) {channel : β} (hwilling : isWilling channel) :
    (Pool.loaded capacity count i next jobs).run publish channel =
      (⟨capacity, List.replicate count .idle, next⟩, kept keep jobs channel,
        jobs.map fun job => ⟨job.number, .ok ()⟩,
        jobs.map fun job => .count .publishPublished job.topic) := by
  have hsplit (w : Worker) : (List.replicate count .idle).set i w =
      List.replicate i .idle ++ w :: List.replicate (count - (i + 1)) .idle := by
    rw [List.set_eq_take_append_cons_drop, List.length_replicate, if_pos hi, List.take_replicate,
      List.drop_replicate, Nat.min_eq_left (Nat.le_of_lt hi)]
  have hall := List.set_replicate_self (n := count) (i := i) (a := Worker.idle)
  rw [hsplit] at hall
  have hwork := h.run jobs 2 hwilling [] []
  simp only [Pool.run, Pool.loaded, hsplit, Pool.go_append, Pool.go_idle, Pool.run.go,
    Worker.stepLimit, hwork, hall, List.nil_append, List.append_nil]

/-! ### Idle pools -/

theorem Traffic.capacity_step (t : Traffic β) (a : Action β) :
    (t.step publish a).pool.capacity = t.pool.capacity := by
  cases a with
  | submit topic m =>
    simp only [step]
    split
    · rcases t.pool.submit_cases topic m with ⟨-, he⟩ | ⟨-, -, he⟩ | ⟨-, -, he⟩
      · rw [he]
        rfl
      · rw [he]
        rfl
      · rw [he]
        rfl
    · rfl
  | work i =>
    rcases t.work_cases publish i with he | ⟨job, queue, -, he⟩ | ⟨job, v, channel, -, -, he⟩
    · rw [he]
    · rw [he]
      rfl
    · rw [he]
      rfl
  | shift channel => rfl
  | drop n => rfl
  | close => rfl

theorem Traffic.capacity_run (t : Traffic β) (actions : List (Action β)) :
    (t.run publish actions).pool.capacity = t.pool.capacity :=
  run_induction (P := fun u => u.pool.capacity = t.pool.capacity) rfl
    (fun u a h => (u.capacity_step a).trans h) actions

theorem Ordered.worker_of_idle {count i : Nat} {t : Traffic β} (h : Ordered count t)
    (hidle : ∀ w ∈ t.pool.workers, w = .idle) (hi : i < count) : t.pool.worker i = .idle := by
  have hreplicate := List.eq_replicate_iff.mpr ⟨h.workers, hidle⟩
  simp only [Pool.worker, hreplicate, List.getElem?_replicate, hi, if_true, Option.getD_some]

theorem Pool.queue_of_idle {p : Pool} (hidle : ∀ w ∈ p.workers, w = .idle) (i : Nat) :
    (p.worker i).queue = [] := by
  cases hw : p.workers[i]? with
  | none => simp [worker, hw]
  | some w => simp [worker, hw, hidle w (List.mem_of_getElem? hw), Worker.idle]

/-- Idle pools differ in nothing but the number of the next submission. -/
theorem Traffic.idle_pool (s : Sizing) (channel : β) (actions : List (Action β)) (i : Nat)
    (hidle : ∀ w ∈ ((start s channel).run publish actions).pool.workers, w = .idle) :
    ((start s channel).run publish actions).pool =
      Pool.loaded s.perWorker s.workerCount i
        ((start s channel).run publish actions).pool.next [] := by
  have hcapacity : ((start s channel).run publish actions).pool.capacity = s.perWorker :=
    (start s channel).capacity_run actions
  have hordered : Ordered s.workerCount ((start s channel).run publish actions) :=
    (Ordered.start s channel).run actions
  have hworkers := List.eq_replicate_iff.mpr ⟨hordered.workers, hidle⟩
  rw [Pool.loaded_nil, ← hworkers, ← hcapacity]

end AggregateGateway.Publish
