import AggregateGateway.Proofs.Publish.Accounting
import AggregateGateway.Proofs.Publish.Uncongested
import Mathlib.Algebra.Order.BigOperators.Group.Finset

/-! How full a publish pool gets. A submission is refused only by a dead worker or by a queue that
holds exactly its share, and a refusal leaves nothing behind but a count; the shares together are
the capacity, rounded up by less than one place for each worker. -/

namespace AggregateGateway.Publish

open Catalog (Message)
open Metrics (Measurement Metric Registry)

variable {β : Type} {publish : Publishing β} {count : Nat} {t : Traffic β}

/-! ### Shares -/

theorem Sizing.workerCount_of_pos {s : Sizing} (h : 0 < s.workers) : s.workerCount = s.workers :=
  Nat.max_eq_left h

/-- The shares of all workers hold the capacity, with less than one place to spare for each. -/
theorem Sizing.total_of_pos {s : Sizing} (hw : 0 < s.workers) (hc : 0 < s.queueCapacity) :
    s.queueCapacity ≤ s.workers * s.perWorker ∧
      s.workers * s.perWorker < s.queueCapacity + s.workers := by
  have hshare : 1 ≤ (s.queueCapacity + s.workers - 1) / s.workers :=
    Nat.div_pos (by omega) hw
  have hperWorker : s.perWorker = (s.queueCapacity + s.workers - 1) / s.workers := by
    rw [perWorker, workerCount_of_pos hw]
    exact Nat.max_eq_left hshare
  have hlow := Nat.mul_div_le (s.queueCapacity + s.workers - 1) s.workers
  have hhigh := Nat.lt_mul_div_succ (s.queueCapacity + s.workers - 1) hw
  rw [← hperWorker] at hlow hhigh
  rw [Nat.mul_succ] at hhigh
  omega

/-! ### Queues and their bound -/

theorem Pool.sum_queues (p : Pool) :
    ∑ i ∈ Finset.range p.workers.length, (p.worker i).queue.length = p.queued.length := by
  obtain ⟨capacity, workers, next⟩ := p
  induction workers with
  | nil => rfl
  | cons w workers ih =>
    have hlater (i : Nat) : (⟨capacity, w :: workers, next⟩ : Pool).worker (i + 1) =
        (⟨capacity, workers, next⟩ : Pool).worker i := rfl
    have hfirst : (⟨capacity, w :: workers, next⟩ : Pool).worker 0 = w := rfl
    simp only [List.length_cons, Finset.sum_range_succ', hlater, hfirst]
    rw [ih]
    simp only [queued, List.flatMap_cons, List.length_append]
    omega

theorem Pool.submit_of_room {p : Pool} (topic : String) {m : Message}
    (hw : (p.worker (p.shard m.key)).isAlive = true)
    (hroom : (p.worker (p.shard m.key)).queue.length < p.capacity) :
    (p.submit topic m).2 = .ok p.next ∧ ∀ i,
      ((p.submit topic m).1.worker i).isAlive = (p.worker i).isAlive ∧
      ((p.submit topic m).1.worker i).queue.length =
        (p.worker i).queue.length + if p.shard m.key = i then 1 else 0 := by
  rcases p.submit_cases topic m with ⟨hdead, -⟩ | ⟨-, hfull, -⟩ | ⟨-, -, he⟩
  · exact absurd (hdead.symm.trans hw) Bool.false_ne_true
  · exact absurd hfull (Nat.not_le.mpr hroom)
  · rw [he]
    refine ⟨rfl, fun i => ?_⟩
    by_cases hi : p.shard m.key = i
    · subst hi
      have hl : p.shard m.key < p.counted.workers.length := lt_of_alive hw
      rw [worker_setWorker_self _ hl]
      simp
    · rw [worker_setWorker_other _ _ hi]
      simp [hi]

def Traffic.Bounded (t : Traffic β) : Prop :=
  ∀ i, (t.pool.worker i).queue.length ≤ t.pool.capacity

theorem Traffic.Bounded.submit (h : t.Bounded) (topic : String) (m : Message) (i : Nat) :
    ((t.pool.submit topic m).1.worker i).queue.length ≤ t.pool.capacity := by
  rcases t.pool.submit_cases topic m with ⟨-, he⟩ | ⟨-, -, he⟩ | ⟨hw, hroom, -⟩
  · rw [he]
    exact h i
  · rw [he]
    exact h i
  · rw [((t.pool.submit_of_room topic hw hroom).2 i).2]
    split
    · next hi => exact hi ▸ hroom
    · exact h i

theorem Traffic.Bounded.step (h : t.Bounded) (a : Action β) : (t.step publish a).Bounded := by
  intro i
  rw [t.capacity_step]
  cases a with
  | submit topic m =>
    simp only [Traffic.step]
    split
    · exact h.submit topic m i
    · exact h i
  | work j => exact Nat.le_trans ((t.work_accepts_nothing publish j).2.2 i) (h i)
  | shift channel => exact h i
  | drop n => exact h i
  | close => exact h i

theorem Traffic.bounded_run (s : Sizing) (channel : β) (actions : List (Action β)) :
    ((start s channel).run publish actions).Bounded := by
  refine run_induction ?_ (fun _ a h => h.step a) actions
  intro i
  rw [Pool.queue_of_idle (p := (start s channel).pool) (fun w hw => List.eq_of_mem_replicate hw)]
  exact Nat.zero_le _

/-! ### Dead workers -/

/-- A worker is dead exactly if it has broken down over a job. -/
def Traffic.CrashesTold (count : Nat) (t : Traffic β) : Prop :=
  ∀ i < count, ((t.pool.worker i).isAlive = false ↔ ∃ job, .settled i job .crashed ∈ t.history)

namespace Traffic.CrashesTold

theorem start (s : Sizing) (channel : β) : CrashesTold s.workerCount (start s channel) := by
  intro i hi
  simp [Traffic.start, Pool.ofSizing, Pool.worker, hi, Worker.idle]

/-- Nobody breaks down, and nobody comes back to life. -/
theorem unconcerned {t' : Traffic β} {x : Occurrence} (h : CrashesTold count t)
    (halive : ∀ i, (t'.pool.worker i).isAlive = (t.pool.worker i).isAlive)
    (hhistory : t'.history = t.history ++ [x]) (hx : ∀ i job, x ≠ .settled i job .crashed) :
    CrashesTold count t' := by
  intro i hi
  rw [halive, h i hi, hhistory]
  refine exists_congr fun job => ?_
  rw [Occurrence.settled_mem_append_one, or_iff_left (hx i job)]

theorem submit (h : CrashesTold count t) (topic : String) (m : Message) :
    CrashesTold count (t.answered topic m (t.pool.submit topic m)) := by
  refine h.unconcerned (fun i => ?_) rfl (fun i job hx => by cases hx)
  show ((t.pool.submit topic m).1.worker i).isAlive = _
  rcases t.pool.submit_cases topic m with ⟨-, he⟩ | ⟨-, -, he⟩ | ⟨hw, hroom, -⟩
  · rw [he, Pool.counted_worker]
  · rw [he, Pool.counted_worker]
  · exact ((t.pool.submit_of_room topic hw hroom).2 i).1

theorem crashed (h : CrashesTold count t) {i : Nat} {job : Job} (channel : β)
    (acks : List Acknowledgement) (ms : List Measurement) (hi : i < t.pool.workers.length) :
    CrashesTold count { t with
      pool := t.pool.setWorker i ((t.pool.worker i).settle .crashed job).1
      channel
      history := t.history ++ [.settled i job .crashed]
      acknowledgements := acks
      measurements := ms } := by
  intro j hj
  by_cases hij : i = j
  · subst hij
    rw [Pool.worker_setWorker_self _ hi]
    exact ⟨fun _ => ⟨job, List.mem_append_right _ List.mem_cons_self⟩, fun _ => rfl⟩
  · rw [Pool.worker_setWorker_other _ _ hij, h j hj]
    refine exists_congr fun job' => ?_
    rw [Occurrence.settled_mem_append_one, or_iff_left]
    intro hx
    exact hij (Occurrence.settled.inj hx).1

theorem work (h : CrashesTold count t) (ho : Ordered count t) (i : Nat) :
    CrashesTold count (t.step publish (.work i)) := by
  have hset (hi : i < t.pool.workers.length) {w : Worker}
      (hw : w.isAlive = (t.pool.worker i).isAlive) (j : Nat) :
      ((t.pool.setWorker i w).worker j).isAlive = (t.pool.worker j).isAlive := by
    by_cases hij : i = j
    · subst hij
      rw [Pool.worker_setWorker_self _ hi, hw]
    · rw [Pool.worker_setWorker_other _ _ hij]
  rcases t.work_cases publish i with he | ⟨job, queue, hw, he⟩ | ⟨job, v, channel, hc, -, he⟩
  · rw [he]
    exact h
  · have hi : i < t.pool.workers.length := Pool.lt_of_alive (by rw [hw])
    rw [he]
    exact h.unconcerned (hset hi (by rw [hw])) rfl fun i job hx => by cases hx
  · have hi : i < t.pool.workers.length := ho.lt_of_current hc
    rw [he]
    by_cases hv : v = .crashed
    · subst hv
      exact h.crashed channel _ _ hi
    · refine h.unconcerned (hset hi (Worker.settle_isAlive job _ hv)) rfl ?_
      intro j job' hx
      exact hv (Occurrence.settled.inj hx).2.2

theorem step (h : CrashesTold count t) (ho : Ordered count t) (a : Action β) :
    CrashesTold count (t.step publish a) := by
  cases a with
  | submit topic m =>
    simp only [Traffic.step]
    split
    · exact h.submit topic m
    · exact h
  | work i => exact h.work ho i
  | shift channel => exact h
  | drop n => exact h
  | close => exact h

theorem run (publish : Publishing β) (s : Sizing) (channel : β) (actions : List (Action β)) :
    CrashesTold s.workerCount ((Traffic.start s channel).run publish actions) :=
  (run_induction (P := fun t => Ordered s.workerCount t ∧ CrashesTold s.workerCount t)
    ⟨.start s channel, .start s channel⟩ (fun _ a ⟨ho, h⟩ => ⟨ho.step a, h.step ho a⟩) actions).2

end Traffic.CrashesTold

/-! ### Filling the queues -/

def Action.ofSubmission (x : String × Message) : Action β :=
  .submit x.1 x.2

theorem Traffic.run_submissions (publish : Publishing β) (messages : List (String × Message))
    (hcount : 0 < count) (hworkers : t.pool.workers.length = count) (hopen : t.isOpen = true)
    (halive : ∀ i < count, (t.pool.worker i).isAlive = true)
    (hroom : ∀ i < count, (t.pool.worker i).queue.length +
      messages.countP (fun x => Pool.shardOf count x.2.key == i) ≤ t.pool.capacity) :
    let u := t.run publish (messages.map .ofSubmission)
    u.pool.workers.length = count ∧ ∀ i < count, (u.pool.worker i).queue.length =
      (t.pool.worker i).queue.length +
        messages.countP fun x => Pool.shardOf count x.2.key == i := by
  induction messages generalizing t with
  | nil => exact ⟨hworkers, fun _ _ => rfl⟩
  | cons x messages ih =>
    obtain ⟨topic, m⟩ := x
    have hshard : t.pool.shard m.key = Pool.shardOf count m.key := by rw [Pool.shard, hworkers]
    have hlt : t.pool.shard m.key < count := hshard ▸ Nat.mod_lt _ hcount
    have hfree : (t.pool.worker (t.pool.shard m.key)).queue.length < t.pool.capacity := by
      have hfits := hroom _ hlt
      rw [List.countP_cons_of_pos (by simp [hshard])] at hfits
      omega
    obtain ⟨-, hafter⟩ := t.pool.submit_of_room topic (halive _ hlt) hfree
    have hstep : t.step publish (.ofSubmission (topic, m)) =
        t.answered topic m (t.pool.submit topic m) := by
      simp only [step, Action.ofSubmission, hopen, if_true]
    have hcapacity : (t.step publish (.ofSubmission (topic, m))).pool.capacity = t.pool.capacity :=
      t.capacity_step _
    have hlength : (t.pool.submit topic m).1.workers.length = count := by
      rcases t.pool.submit_cases topic m with ⟨-, he⟩ | ⟨-, -, he⟩ | ⟨-, -, he⟩
      all_goals
        rw [he]
        simpa using hworkers
    -- a message that has been submitted counts in the queue and no more among those to come
    have hcounted (i : Nat) : (((t.pool.submit topic m).1.worker i).queue.length +
        messages.countP fun x => Pool.shardOf count x.2.key == i) =
        (t.pool.worker i).queue.length +
          ((topic, m) :: messages).countP fun x => Pool.shardOf count x.2.key == i := by
      rw [(hafter i).2, hshard, List.countP_cons]
      by_cases hi : Pool.shardOf count m.key = i <;> simp [hi]
      omega
    rw [hstep] at hcapacity
    rw [List.map_cons, run_cons, hstep]
    obtain ⟨hlength', hqueues⟩ := ih (t := t.answered topic m (t.pool.submit topic m)) hlength hopen
      (fun i hi => (hafter i).1.trans (halive i hi)) (fun i hi => by
        rw [hcapacity]
        exact (hcounted i).trans_le (hroom i hi))
    exact ⟨hlength', fun i hi => (hqueues i hi).trans (hcounted i)⟩

/-! ### Answers -/

theorem Traffic.step_submit (hopen : t.isOpen = true) (topic : String) (m : Message) :
    t.step publish (.submit topic m) = t.answered topic m (t.pool.submit topic m) := by
  simp only [step, hopen, if_true]

theorem Traffic.counter_answered (t : Traffic β) (topic : String) (m : Message)
    (r : Pool × Except SubmissionError Nat) (metric : Metric) (label : String) :
    (t.answered topic m r).counter metric label = t.counter metric label +
      (Pool.submitMeasurements topic r.2).count (.count metric label) := by
  simp only [counter, answered, Registry.recordAll_append, Registry.count_recordAll]

theorem Traffic.Bounded.answer (h : t.Bounded) (topic : String) (m : Message) :
    (t.pool.submit topic m).2 =
      let w := t.pool.worker (t.pool.shard m.key)
      if w.isAlive = false then .error .closed
      else if w.queue.length = t.pool.capacity then .error (.queueFull topic)
      else .ok t.pool.next := by
  rcases t.pool.submit_cases topic m with ⟨hw, he⟩ | ⟨hw, hfull, he⟩ | ⟨hw, hroom, he⟩
  · rw [he, if_pos hw]
  · have hlength := Nat.le_antisymm (h (t.pool.shard m.key)) hfull
    rw [he, if_neg (by simp [hw]), if_pos hlength]
  · rw [he, if_neg (by simp [hw]), if_neg (Nat.ne_of_lt hroom)]

theorem Pool.submit_refused {p : Pool} {topic : String} {m : Message} {e : SubmissionError}
    (h : (p.submit topic m).2 = .error e) :
    (p.submit topic m).1 = p.counted ∧ (e = .closed ∨ e = .queueFull topic) := by
  rcases p.submit_cases topic m with ⟨-, he⟩ | ⟨-, -, he⟩ | ⟨-, -, he⟩
  all_goals
    rw [he] at h ⊢
    cases h
  · exact ⟨rfl, .inl rfl⟩
  · exact ⟨rfl, .inr rfl⟩

/-- A refusal is counted if the queue was full, and that is all it leaves. -/
theorem Traffic.answered_refused {topic : String} {m : Message} {e : SubmissionError}
    (h : (t.pool.submit topic m).2 = .error e) :
    let t' := t.answered topic m (t.pool.submit topic m)
    (t'.pool.workers = t.pool.workers ∧ t'.channel = t.channel ∧ t'.isOpen = t.isOpen ∧
      t'.receipts = t.receipts ∧ t'.acknowledgements = t.acknowledgements) ∧
    ∀ metric label, t'.counter metric label = t.counter metric label +
      if e = .queueFull topic ∧ metric = .publishRejected ∧ label = topic then 1 else 0 := by
  intro t'
  obtain ⟨hpool, hcause⟩ := Pool.submit_refused h
  have hworkers : (t.pool.submit topic m).1.workers = t.pool.workers := by
    rw [hpool, Pool.counted_workers]
  refine ⟨⟨hworkers, rfl, rfl, ?_, rfl⟩, fun metric label => ?_⟩
  · simp only [t', answered, h, Except.toOption, Option.toList_none, List.append_nil]
  · rw [counter_answered, h]
    rcases hcause with rfl | rfl
    · simp [Pool.submitMeasurements]
    · simp [Pool.submitMeasurements, Registry.count_singleton]

/-- Whatever the pool has gone through, a submission is refused by a dead worker, which is one that
has broken down, or by a queue that holds exactly its share, and else it is accepted. A refusal
leaves no trace but the count of full queues. The shares are never exceeded; together they come to
the capacity, rounded up, and a pool without dead workers can be filled up to them. -/
theorem submissions_meet_capacity (publish : Publishing β) (s : Sizing) (channel : β)
    (actions : List (Action β)) :
    let t := (Traffic.start s channel).run publish actions
    (t.isOpen = true → ∀ topic (m : Message),
      let i := t.pool.shard m.key
      let w := t.pool.worker i
      let answer : Except SubmissionError Nat :=
        if w.isAlive = false then .error .closed
        else if w.queue.length = s.perWorker then .error (.queueFull topic)
        else .ok t.pool.next
      let t' := t.step publish (.submit topic m)
      i < t.pool.workers.length ∧
      (w.isAlive = false ↔ ∃ job, .settled i job .crashed ∈ t.history) ∧
      t'.history = t.history ++ [.answered topic m answer] ∧
      ∀ e, answer = .error e →
        (t'.pool.workers = t.pool.workers ∧ t'.channel = t.channel ∧ t'.isOpen = t.isOpen ∧
          t'.receipts = t.receipts ∧ t'.acknowledgements = t.acknowledgements) ∧
        ∀ metric label, t'.counter metric label = t.counter metric label +
          if e = .queueFull topic ∧ metric = .publishRejected ∧ label = topic then 1 else 0) ∧
    ((∀ i, (t.pool.worker i).queue.length ≤ s.perWorker) ∧
      t.pool.queued.length ≤ s.workerCount * s.perWorker) ∧
    (0 < s.workers → 0 < s.queueCapacity → s.workerCount = s.workers ∧
      s.queueCapacity ≤ s.workers * s.perWorker ∧
      s.workers * s.perWorker < s.queueCapacity + s.workers) ∧
    (t.isOpen = true → (∀ i < s.workerCount, (t.pool.worker i).isAlive = true) →
      ∀ messages : List (String × Message),
        (∀ i < s.workerCount, (t.pool.worker i).queue.length +
          messages.countP (fun x => Pool.shardOf s.workerCount x.2.key == i) = s.perWorker) →
        (t.run publish (messages.map .ofSubmission)).pool.queued.length =
          s.workerCount * s.perWorker) := by
  intro t
  have ho : Ordered s.workerCount t := (Ordered.start s channel).run actions
  have hbounded : t.Bounded := Traffic.bounded_run s channel actions
  have hcrashes : t.CrashesTold s.workerCount := .run publish s channel actions
  have hcapacity : t.pool.capacity = s.perWorker := (Traffic.start s channel).capacity_run actions
  have hqueue (i : Nat) : (t.pool.worker i).queue.length ≤ s.perWorker := hcapacity ▸ hbounded i
  refine ⟨fun hopen topic m => ?_, ⟨hqueue, ?_⟩, fun hw hc => ?_, ?_⟩
  · intro i w answer t'
    have hshard : i < s.workerCount := by
      rw [← ho.workers]
      exact Nat.mod_lt _ (ho.workers ▸ s.workerCount_pos)
    have hanswer : (t.pool.submit topic m).2 = answer := by
      rw [hbounded.answer, hcapacity]
    have hstep : t' = t.answered topic m (t.pool.submit topic m) :=
      Traffic.step_submit hopen topic m
    refine ⟨ho.workers ▸ hshard, hcrashes i hshard, ?_, fun e he => ?_⟩
    · rw [hstep, Traffic.answered, hanswer]
    · rw [hstep]
      exact Traffic.answered_refused (hanswer.trans he)
  · rw [← t.pool.sum_queues, ho.workers]
    calc ∑ i ∈ Finset.range s.workerCount, (t.pool.worker i).queue.length
        ≤ ∑ _i ∈ Finset.range s.workerCount, s.perWorker :=
          Finset.sum_le_sum fun i _ => hqueue i
      _ = s.workerCount * s.perWorker := by simp
  · exact ⟨Sizing.workerCount_of_pos hw, Sizing.total_of_pos hw hc⟩
  · intro hopen halive messages hfills
    obtain ⟨hworkers, hqueues⟩ := Traffic.run_submissions publish messages
      s.workerCount_pos ho.workers hopen halive fun i hi => hcapacity ▸ Nat.le_of_eq (hfills i hi)
    rw [← Pool.sum_queues, hworkers]
    calc ∑ i ∈ Finset.range s.workerCount, _
        = ∑ _i ∈ Finset.range s.workerCount, s.perWorker :=
          Finset.sum_congr rfl fun i hi =>
            (hqueues i (Finset.mem_range.mp hi)).trans (hfills i (Finset.mem_range.mp hi))
      _ = s.workerCount * s.perWorker := by simp

/-- One queue is full, and the other takes what is left of four places for three jobs. -/
theorem submissions_meet_capacity_of_three :
    let publish : Publishing Unit := fun _ _ => none
    let m (key : String) : Message := ⟨key, "CREATE", []⟩
    let t := (Traffic.start ⟨2, 3⟩ ()).run publish
      [.submit "items" (m "7"), .submit "ratings" (m "7"), .work 1, .submit "items" (m "7")]
    let t' := t.step publish (.submit "ratings" (m "7"))
    t.isOpen = true ∧
      t'.history = t.history ++ [.answered "ratings" (m "7") (.error (.queueFull "ratings"))] ∧
      t'.receipts = t.receipts ∧
      t'.counter .publishRejected "ratings" = t.counter .publishRejected "ratings" + 1 ∧
      t'.counter .publishSubmitted "ratings" = t.counter .publishSubmitted "ratings" ∧
      (3 ≤ 2 * Sizing.perWorker ⟨2, 3⟩ ∧ 2 * Sizing.perWorker ⟨2, 3⟩ < 3 + 2) ∧
      (t.run publish ([("items", m "4"), ("commentary", m "4")].map
        .ofSubmission)).pool.queued.length = 4 := by
  intro publish m t t'
  obtain ⟨hanswers, -, hshares, hfills⟩ := submissions_meet_capacity publish ⟨2, 3⟩ ()
    [.submit "items" (m "7"), .submit "ratings" (m "7"), .work 1, .submit "items" (m "7")]
  have hopen : t.isOpen = true := by decide +kernel
  obtain ⟨-, -, hhistory, hrefused⟩ := hanswers hopen "ratings" (m "7")
  have hlive : (t.pool.worker (t.pool.shard "7")).isAlive ≠ false := by decide +kernel
  have hfull : (t.pool.worker (t.pool.shard "7")).queue.length = Sizing.perWorker ⟨2, 3⟩ := by
    decide +kernel
  rw [if_neg hlive, if_pos hfull] at hhistory hrefused
  obtain ⟨⟨-, -, -, hreceipts, -⟩, hcounters⟩ := hrefused (.queueFull "ratings") rfl
  refine ⟨hopen, hhistory, hreceipts, hcounters .publishRejected "ratings",
    hcounters .publishSubmitted "ratings", (hshares (by decide) (by decide)).2, ?_⟩
  exact hfills hopen (by decide +kernel) _ (by decide +kernel)

end AggregateGateway.Publish
