import AggregateGateway.Proofs.Metrics.Counters
import AggregateGateway.Proofs.Publish.QueuedJobs
import Mathlib.Algebra.BigOperators.Group.Finset.Piecewise

/-! The books of a publish pool. What is counted follows from the history, and every submission that
was accepted is in one place: published, refused, waiting, in flight or lost to a dead worker. -/

namespace AggregateGateway.Publish

open Metrics (Measurement Metric Registry)

variable {β : Type} {publish : Publishing β} {count : Nat} {t : Traffic β}

/-! ### Counters -/

def Traffic.counter (t : Traffic β) (metric : Metric) (topic : String) : Nat :=
  (Registry.empty.recordAll t.measurements).count metric topic

def onTopic (topic : String) (jobs : List Job) : Nat :=
  jobs.countP fun job => job.topic == topic

def turnedAway (topic : String) (history : List Occurrence) : Nat :=
  history.countP fun
    | .answered topic' _ (.error (.queueFull _)) => topic' == topic
    | _ => false

/-- The jobs that the channel has accepted or refused, each with its worker. -/
def finished (history : List Occurrence) : List (Nat × Job) :=
  history.filterMap fun
    | .settled i job v => if v = .crashed then none else some (i, job)
    | _ => none

def Occurrence.measurements : Occurrence → List Measurement
  | .answered topic _ answer => Pool.submitMeasurements topic answer
  | .offered .. => []
  | .settled _ job v => v.measurements job.topic

def Traffic.Measured (t : Traffic β) : Prop :=
  t.measurements = t.history.flatMap Occurrence.measurements

theorem Traffic.Measured.step (h : t.Measured) (a : Action β) : (t.step publish a).Measured := by
  have happend (x : Occurrence) : t.measurements ++ x.measurements =
      (t.history ++ [x]).flatMap Occurrence.measurements := by
    rw [List.flatMap_append, List.flatMap_singleton, ← h]
  cases a with
  | submit topic m =>
    simp only [Traffic.step]
    split
    · exact happend (.answered topic m _)
    · exact h
  | work i =>
    rcases t.work_cases publish i with he | ⟨job, queue, -, he⟩ | ⟨job, v, channel, -, -, he⟩
    · rw [he]
      exact h
    · rw [he]
      exact (List.append_nil _).symm.trans (happend (.offered i job))
    · rw [he]
      exact happend (.settled i job v)
  | shift channel => exact h
  | drop n => exact h
  | close => exact h

theorem Traffic.measured_run (s : Sizing) (channel : β) (actions : List (Action β)) :
    ((start s channel).run publish actions).Measured := by
  have hstart : (start s channel).Measured := by rfl
  exact run_induction hstart (fun _ a h => h.step a) actions

namespace Traffic.Measured

theorem counter_eq (h : t.Measured) (metric : Metric) (topic : String) :
    t.counter metric topic =
      (t.history.flatMap Occurrence.measurements).count (.count metric topic) := by
  rw [Traffic.counter, Registry.count_recordAll, h]
  exact Nat.zero_add _

theorem submitted (h : t.Measured) (topic : String) :
    t.counter .publishSubmitted topic = onTopic topic (accepted t.history) := by
  rw [h.counter_eq]
  induction t.history with
  | nil => rfl
  | cons x history ih =>
    rw [List.flatMap_cons, List.count_append, ih]
    rcases x with ⟨topic', m, (_ | _ | _) | n⟩ | ⟨i, job⟩ | ⟨i, job, (_ | _ | _)⟩ <;>
      simp [Occurrence.measurements, Pool.submitMeasurements, Verdict.measurements, onTopic,
        accepted, List.count_singleton, List.countP_cons, Nat.add_comm]

theorem rejected (h : t.Measured) (topic : String) :
    t.counter .publishRejected topic = turnedAway topic t.history := by
  rw [h.counter_eq]
  induction t.history with
  | nil => rfl
  | cons x history ih =>
    rw [List.flatMap_cons, List.count_append, ih]
    rcases x with ⟨topic', m, (_ | _ | _) | n⟩ | ⟨i, job⟩ | ⟨i, job, (_ | _ | _)⟩ <;>
      simp [Occurrence.measurements, Pool.submitMeasurements, Verdict.measurements, turnedAway,
        List.count_singleton, List.countP_cons, Nat.add_comm]

theorem published_failed (h : t.Measured) (topic : String) :
    t.counter .publishPublished topic + t.counter .publishFailed topic =
      onTopic topic ((finished t.history).map Prod.snd) := by
  rw [h.counter_eq, h.counter_eq]
  induction t.history with
  | nil => rfl
  | cons x history ih =>
    rw [List.flatMap_cons, List.count_append, List.count_append]
    rcases x with ⟨topic', m, (_ | _ | _) | n⟩ | ⟨i, job⟩ | ⟨i, job, (_ | _ | _)⟩ <;>
      simp [Occurrence.measurements, Pool.submitMeasurements, Verdict.measurements, onTopic,
        finished, List.count_singleton, List.countP_cons] at ih ⊢ <;> omega

end Traffic.Measured

/-! ### Where the accepted jobs are -/

namespace Pool

def queued (p : Pool) : List Job :=
  p.workers.flatMap Worker.queue

def inFlight (p : Pool) : List Job :=
  p.workers.flatMap fun w => w.current.toList

end Pool

/-- The jobs that dead workers had accepted and not finished. -/
def lostJobs (count : Nat) (t : Traffic β) : List Job :=
  (accepted t.history).filter fun job =>
    let i := Pool.shardOf count job.message.key
    !(t.pool.worker i).isAlive && !(finishedBy i t.history).contains job

theorem finishedBy_eq (i : Nat) (history : List Occurrence) :
    finishedBy i history = ((finished history).filter (·.1 == i)).map Prod.snd := by
  induction history with
  | nil => rfl
  | cons x history ih =>
    rcases x with _ | _ | ⟨j, job, v⟩
    · exact ih
    · exact ih
    · by_cases hv : v = .crashed <;> by_cases hj : j = i <;>
        simpa [finishedBy, finished, hv, hj] using ih

theorem Ordered.finished_isPrefix_step (h : Ordered count t)
    (hp : ∀ i, finishedBy i t.history <+: offeredBy i t.history) (a : Action β) (i : Nat) :
    finishedBy i (t.step publish a).history <+: offeredBy i (t.step publish a).history := by
  cases a with
  | submit topic m =>
    simp only [Traffic.step]
    split
    · simpa [Traffic.answered, finishedBy, offeredBy, offered] using hp i
    · exact hp i
  | work j =>
    rcases t.work_cases publish j with he | ⟨job, queue, -, he⟩ | ⟨job, v, channel, hc, -, he⟩
    · rw [he]
      exact hp i
    · rw [he]
      simp only [finishedBy_append, offeredBy_append]
      have hf : finishedBy i [.offered j job] = [] := rfl
      rw [hf, List.append_nil]
      exact (hp i).trans (List.prefix_append _ _)
    · rw [he]
      simp only [finishedBy_append, offeredBy_append]
      have ho : offeredBy i [.settled j job v] = [] := rfl
      rw [ho, List.append_nil]
      by_cases hj : j = i
      · -- the job in flight is the only one offered and not finished
        subst hj
        rw [(h.inOrder j).offered_eq (h.alive_of_current hc), hc]
        refine (List.prefix_append_right_inj _).mpr ?_
        by_cases hv : v = .crashed <;> simp [finishedBy, hv]
      · have hf : finishedBy i [.settled j job v] = [] := by simp [finishedBy, hj]
        rw [hf, List.append_nil]
        exact hp i
  | shift channel => exact hp i
  | drop n => exact hp i
  | close => exact hp i

theorem Ordered.finished_isPrefix (s : Sizing) (channel : β) (actions : List (Action β)) (i : Nat) :
    let t := (Traffic.start s channel).run publish actions
    finishedBy i t.history <+: acceptedFor s.workerCount i t.history := by
  intro t
  obtain ⟨ho, hp⟩ : Ordered s.workerCount t ∧
      ∀ i, finishedBy i t.history <+: offeredBy i t.history :=
    Traffic.run_induction
      (P := fun t => Ordered s.workerCount t ∧
        ∀ i, finishedBy i t.history <+: offeredBy i t.history)
      ⟨.start s channel, fun _ => List.prefix_rfl⟩
      (fun _ a ⟨ho, hp⟩ => ⟨ho.step a, ho.finished_isPrefix_step hp a⟩) actions
  exact (hp i).trans (ho.inOrder i).offered_isPrefix

/-! ### Adding up over the workers -/

theorem sum_countP_filter {α : Type} {n : Nat} (l : List α) (f : α → Nat) (p : α → Bool)
    (h : ∀ a ∈ l, f a < n) :
    ∑ i ∈ Finset.range n, (l.filter fun a => f a == i).countP p = l.countP p := by
  induction l with
  | nil => simp
  | cons a l ih =>
    rw [List.forall_mem_cons] at h
    have hone (i : Nat) : ((a :: l).filter fun b => f b == i).countP p =
        (l.filter fun b => f b == i).countP p + if i = f a then [a].countP p else 0 := by
      by_cases hi : f a = i
      · simp [hi, List.countP_cons]
      · simp [hi, Ne.symm hi]
    have hmem : f a ∈ Finset.range n := Finset.mem_range.mpr h.1
    simp only [hone, Finset.sum_add_distrib, ih h.2, Finset.sum_ite_eq', hmem, if_true]
    simp [List.countP_cons]

theorem Pool.sum_held (p : Pool) (topic : String) :
    ∑ i ∈ Finset.range p.workers.length, onTopic topic (p.worker i).held =
      onTopic topic p.queued + onTopic topic p.inFlight := by
  obtain ⟨capacity, workers, next⟩ := p
  induction workers with
  | nil => rfl
  | cons w workers ih =>
    have hlater (i : Nat) : (⟨capacity, w :: workers, next⟩ : Pool).worker (i + 1) =
        (⟨capacity, workers, next⟩ : Pool).worker i := rfl
    have hfirst : (⟨capacity, w :: workers, next⟩ : Pool).worker 0 = w := rfl
    simp only [List.length_cons, Finset.sum_range_succ', hlater, hfirst]
    rw [ih]
    simp only [onTopic, Worker.held, queued, inFlight, List.flatMap_cons, List.countP_append]
    omega

theorem lostJobs_of_worker (count i : Nat) (t : Traffic β) :
    (lostJobs count t).filter (fun job => Pool.shardOf count job.message.key == i) =
      (acceptedFor count i t.history).filter fun job =>
        !(t.pool.worker i).isAlive && !(finishedBy i t.history).contains job := by
  simp only [lostJobs, acceptedFor, List.filter_filter]
  apply List.filter_congr
  intro job _
  by_cases hi : Pool.shardOf count job.message.key = i
  · simp [hi]
  · have hne : (Pool.shardOf count job.message.key == i) = false := beq_eq_false_iff_ne.mpr hi
    rw [hne, Bool.false_and, Bool.and_false]

theorem Answered.accepted_of_worker (h : Answered count t) (ho : Ordered count t) {i : Nat}
    (hp : finishedBy i t.history <+: acceptedFor count i t.history) (topic : String) :
    onTopic topic (acceptedFor count i t.history) =
      onTopic topic (finishedBy i t.history) + onTopic topic (t.pool.worker i).held +
        onTopic topic
          ((lostJobs count t).filter fun job => Pool.shardOf count job.message.key == i) := by
  rw [lostJobs_of_worker]
  cases hw : (t.pool.worker i).isAlive with
  | true =>
    rw [ho.accepted_eq_finished_held hw]
    simp [onTopic]
  | false =>
    -- what a dead worker has not finished is the end of what it was given
    obtain ⟨rest, hrest⟩ := hp
    have hnodup := h.acceptedFor_nodup i
    rw [← hrest] at hnodup ⊢
    obtain ⟨-, -, hdisjoint⟩ := List.nodup_append.mp hnodup
    have hfront : (finishedBy i t.history).filter
        (fun job => !(finishedBy i t.history).contains job) = [] := by simp
    have hback : rest.filter (fun job => !(finishedBy i t.history).contains job) = rest := by
      simpa using fun job hj hmem => hdisjoint job hmem job hj rfl
    have hheld : (t.pool.worker i).held = [] := by
      rw [(ho.inOrder i).dead hw]
      rfl
    simp only [Bool.not_false, Bool.true_and, List.filter_append, hfront, hback, hheld, onTopic,
      List.countP_append, List.countP_nil, List.nil_append, Nat.add_zero]

/-- Every submission to a topic that was accepted is in exactly one place. -/
theorem Answered.accepted_conserved (h : Answered count t) (ho : Ordered count t)
    (hcount : 0 < count)
    (hp : ∀ i, finishedBy i t.history <+: acceptedFor count i t.history) (topic : String) :
    onTopic topic (accepted t.history) =
      onTopic topic ((finished t.history).map Prod.snd) + onTopic topic t.pool.queued +
        onTopic topic t.pool.inFlight + onTopic topic (lostJobs count t) := by
  have hshard (job : Job) : Pool.shardOf count job.message.key < count := Nat.mod_lt _ hcount
  have hworker : ∀ x ∈ finished t.history, x.1 < count := by
    rintro ⟨i, job⟩ hx
    have hj : job ∈ finishedBy i t.history := by
      rw [finishedBy_eq]
      exact List.mem_map.mpr ⟨(i, job), List.mem_filter.mpr ⟨hx, by simp⟩, rfl⟩
    obtain ⟨-, hi⟩ := mem_acceptedFor.mp ((hp i).subset hj)
    exact hi ▸ hshard job
  have haccepted := sum_countP_filter (accepted t.history)
    (fun job => Pool.shardOf count job.message.key) (fun job => job.topic == topic)
    fun job _ => hshard job
  have hlost := sum_countP_filter (lostJobs count t)
    (fun job => Pool.shardOf count job.message.key) (fun job => job.topic == topic)
    fun job _ => hshard job
  have hfinished : ∑ i ∈ Finset.range count, onTopic topic (finishedBy i t.history) =
      onTopic topic ((finished t.history).map Prod.snd) := by
    simp only [finishedBy_eq, onTopic, List.countP_map]
    exact sum_countP_filter (finished t.history) Prod.fst _ hworker
  have hheld := t.pool.sum_held topic
  rw [ho.workers] at hheld
  calc onTopic topic (accepted t.history)
      = ∑ i ∈ Finset.range count, onTopic topic (acceptedFor count i t.history) := haccepted.symm
    _ = ∑ i ∈ Finset.range count, onTopic topic (finishedBy i t.history) +
          ∑ i ∈ Finset.range count, onTopic topic (t.pool.worker i).held +
          ∑ i ∈ Finset.range count, onTopic topic
            ((lostJobs count t).filter fun job => Pool.shardOf count job.message.key == i) := by
        simp only [fun i => h.accepted_of_worker ho (hp i) topic, Finset.sum_add_distrib]
    _ = _ := by
        rw [hfinished, hheld]
        simp only [onTopic] at hlost ⊢
        omega

end AggregateGateway.Publish
