import AggregateGateway.Proofs.Publish.PoolTraffic

/-! Jobs are published in the order in which they were submitted. Of the submissions that a worker
has accepted, the oldest have been handed to the channel and the others wait in its queue, so that
the messages with one key are offered in order over all topics. -/

namespace AggregateGateway.Publish

open Catalog (Message)

def accepted (history : List Occurrence) : List Job :=
  history.filterMap fun
    | .answered topic m (.ok n) => some ⟨n, topic, m⟩
    | _ => none

/-- The jobs that were handed to the channel, each with its worker, oldest first. -/
def offered (history : List Occurrence) : List (Nat × Job) :=
  history.filterMap fun
    | .offered i job => some (i, job)
    | _ => none

def acceptedFor (count i : Nat) (history : List Occurrence) : List Job :=
  (accepted history).filter fun job => Pool.shardOf count job.message.key == i

def offeredBy (i : Nat) (history : List Occurrence) : List Job :=
  ((offered history).filter fun (j, _) => j == i).map Prod.snd

/-- The jobs of a worker that the channel has accepted or refused. -/
def finishedBy (i : Nat) (history : List Occurrence) : List Job :=
  history.filterMap fun
    | .settled j job v => if j == i && v != .crashed then some job else none
    | _ => none

def acceptedUnder (key : String) (history : List Occurrence) : List Job :=
  (accepted history).filter fun job => job.message.key == key

def offeredUnder (key : String) (history : List Occurrence) : List Job :=
  ((offered history).map Prod.snd).filter fun job => job.message.key == key

@[simp] theorem acceptedFor_append (count i : Nat) (h h' : List Occurrence) :
    acceptedFor count i (h ++ h') = acceptedFor count i h ++ acceptedFor count i h' := by
  simp only [acceptedFor, accepted, List.filterMap_append, List.filter_append]

@[simp] theorem offeredBy_append (i : Nat) (h h' : List Occurrence) :
    offeredBy i (h ++ h') = offeredBy i h ++ offeredBy i h' := by
  simp only [offeredBy, offered, List.filterMap_append, List.filter_append, List.map_append]

@[simp] theorem finishedBy_append (i : Nat) (h h' : List Occurrence) :
    finishedBy i (h ++ h') = finishedBy i h ++ finishedBy i h' := by
  simp only [finishedBy, List.filterMap_append]

/-- A worker against the history. What it has been given is what it has handed on, followed by its
queue; a dead worker has handed on the oldest of it. -/
structure InOrder (count i : Nat) (w : Worker) (history : List Occurrence) : Prop where
  offered_isPrefix : offeredBy i history <+: acceptedFor count i history
  offered_eq : w.isAlive = true →
    offeredBy i history = finishedBy i history ++ w.current.toList
  accepted_eq : w.isAlive = true → acceptedFor count i history = offeredBy i history ++ w.queue
  dead : w.isAlive = false → w = ⟨[], none, false⟩

namespace InOrder

variable {count i : Nat} {w : Worker} {history : List Occurrence}

theorem unconcerned (h : InOrder count i w history) {x : Occurrence}
    (ha : acceptedFor count i [x] = []) (ho : offeredBy i [x] = []) (hf : finishedBy i [x] = []) :
    InOrder count i w (history ++ [x]) := by
  obtain ⟨hp, he, hq, hd⟩ := h
  refine ⟨?_, ?_, ?_, hd⟩
  · simpa [ha, ho] using hp
  · simpa [ho, hf] using he
  · simpa [ha, ho] using hq

theorem queued (h : InOrder count i w history) (hw : w.isAlive = true) {m : Message}
    (hm : Pool.shardOf count m.key = i) (n : Nat) (topic : String) :
    InOrder count i { w with queue := w.queue ++ [⟨n, topic, m⟩] }
      (history ++ [.answered topic m (.ok n)]) := by
  have ha : acceptedFor count i [.answered topic m (.ok n)] = [⟨n, topic, m⟩] := by
    simp [acceptedFor, accepted, hm]
  have ho : offeredBy i [.answered topic m (.ok n)] = [] := rfl
  have hf : finishedBy i [.answered topic m (.ok n)] = [] := rfl
  refine ⟨?_, ?_, ?_, ?_⟩
  · rw [acceptedFor_append, offeredBy_append, ho, List.append_nil]
    exact h.offered_isPrefix.trans (List.prefix_append _ _)
  · intro _
    rw [offeredBy_append, finishedBy_append, ho, hf, List.append_nil, List.append_nil]
    exact h.offered_eq hw
  · intro _
    rw [acceptedFor_append, offeredBy_append, ha, ho, List.append_nil, h.accepted_eq hw,
      List.append_assoc]
  · intro hd
    simp [hw] at hd

theorem taken {job : Job} {queue : List Job}
    (h : InOrder count i ⟨job :: queue, none, true⟩ history) :
    InOrder count i ⟨queue, some job, true⟩ (history ++ [.offered i job]) := by
  have ha : acceptedFor count i [.offered i job] = [] := rfl
  have ho : offeredBy i [.offered i job] = [job] := by simp [offeredBy, offered]
  have hf : finishedBy i [.offered i job] = [] := rfl
  have hq : acceptedFor count i history = offeredBy i history ++ [job] ++ queue := by
    simpa using h.accepted_eq rfl
  have he : offeredBy i history = finishedBy i history := by simpa using h.offered_eq rfl
  refine ⟨?_, ?_, ?_, ?_⟩
  · rw [acceptedFor_append, offeredBy_append, ha, ho, List.append_nil, hq]
    exact List.prefix_append _ _
  · intro _
    rw [offeredBy_append, finishedBy_append, ho, hf, List.append_nil, he]
    rfl
  · intro _
    rw [acceptedFor_append, offeredBy_append, ha, ho, List.append_nil, hq]
  · intro hd
    simp at hd

/-- However the channel deals with a job, it is not offered again. -/
theorem settled {job : Job} (h : InOrder count i w history) (hc : w.current = some job)
    (v : Verdict) : InOrder count i (w.settle v job).1 (history ++ [.settled i job v]) := by
  have hw : w.isAlive = true := by
    cases hw : w.isAlive with
    | true => rfl
    | false => simp [h.dead hw] at hc
  have ha : acceptedFor count i [.settled i job v] = [] := rfl
  have ho : offeredBy i [.settled i job v] = [] := rfl
  have he := h.offered_eq hw
  rw [hc] at he
  have hp : offeredBy i (history ++ [.settled i job v]) <+:
      acceptedFor count i (history ++ [.settled i job v]) := by
    simpa [ha, ho] using h.offered_isPrefix
  cases v with
  | crashed => exact ⟨hp, fun hh => absurd hh Bool.false_ne_true,
      fun hh => absurd hh Bool.false_ne_true, fun _ => rfl⟩
  | accepted | refused e =>
    refine ⟨hp, ?_, ?_, ?_⟩
    · intro _
      simp only [offeredBy_append, finishedBy_append, ho, List.append_nil, he]
      simp [finishedBy, Worker.settle]
    · intro _
      simpa [ha, ho, Worker.settle] using h.accepted_eq hw
    · intro hd
      simp [Worker.settle, hw] at hd

theorem idle (count i : Nat) : InOrder count i .idle [] :=
  ⟨List.prefix_rfl, fun _ => rfl, fun _ => rfl, fun h => absurd h (by simp [Worker.idle])⟩

theorem absent (count i : Nat) : InOrder count i ⟨[], none, false⟩ [] :=
  ⟨List.prefix_rfl, fun _ => rfl, fun _ => rfl, fun _ => rfl⟩

end InOrder

structure Ordered {β : Type} (count : Nat) (t : Traffic β) : Prop where
  workers : t.pool.workers.length = count
  inOrder : ∀ i, InOrder count i (t.pool.worker i) t.history

namespace Ordered

variable {β : Type} {count : Nat} {t : Traffic β} {publish : Publishing β}

theorem start (s : Sizing) (channel : β) : Ordered s.workerCount (.start s channel) := by
  refine ⟨by simp [Traffic.start, Pool.ofSizing], ?_⟩
  intro i
  by_cases hi : i < s.workerCount
  · have hw : (Traffic.start s channel).pool.worker i = .idle := by
      simp [Traffic.start, Pool.ofSizing, Pool.worker, hi]
    rw [hw]
    exact .idle s.workerCount i
  · have hw : (Traffic.start s channel).pool.worker i = ⟨[], none, false⟩ := by
      simp [Traffic.start, Pool.ofSizing, Pool.worker, hi]
    rw [hw]
    exact .absent s.workerCount i

theorem refused (h : Ordered count t) (topic : String) (m : Message) (e : SubmissionError) :
    Ordered count (t.answered topic m (t.pool.counted, .error e)) :=
  ⟨h.workers, fun i => (h.inOrder i).unconcerned rfl rfl rfl⟩

theorem queued (h : Ordered count t) (topic : String) (m : Message)
    (hw : (t.pool.worker (t.pool.shard m.key)).isAlive = true) :
    let w := t.pool.worker (t.pool.shard m.key)
    Ordered count (t.answered topic m (t.pool.counted.setWorker (t.pool.shard m.key)
      { w with queue := w.queue ++ [⟨t.pool.next, topic, m⟩] }, .ok t.pool.next)) := by
  intro w
  have hs : Pool.shardOf count m.key = t.pool.shard m.key := by rw [← h.workers, Pool.shard]
  have hl : t.pool.shard m.key < t.pool.counted.workers.length := Pool.lt_of_alive hw
  refine ⟨by simpa [Traffic.answered] using h.workers, ?_⟩
  intro i
  by_cases hi : t.pool.shard m.key = i
  · subst hi
    simp only [Traffic.answered]
    rw [Pool.worker_setWorker_self _ hl]
    exact (h.inOrder _).queued hw hs t.pool.next topic
  · simp only [Traffic.answered]
    rw [Pool.worker_setWorker_other _ _ hi]
    refine (h.inOrder i).unconcerned ?_ rfl rfl
    simp [acceptedFor, accepted, hs, hi]

theorem submit (h : Ordered count t) (topic : String) (m : Message) :
    Ordered count (t.answered topic m (t.pool.submit topic m)) := by
  rcases t.pool.submit_cases topic m with ⟨-, he⟩ | ⟨-, -, he⟩ | ⟨hw, -, he⟩
  · rw [he]
    exact h.refused topic m _
  · rw [he]
    exact h.refused topic m _
  · rw [he]
    exact h.queued topic m hw

theorem lt_of_current {i : Nat} {job : Job} (h : Ordered count t)
    (hc : (t.pool.worker i).current = some job) : i < t.pool.workers.length := by
  apply Pool.lt_of_alive
  cases hw : (t.pool.worker i).isAlive with
  | true => rfl
  | false => simp [(h.inOrder i).dead hw] at hc

theorem work (h : Ordered count t) (i : Nat) : Ordered count (t.step publish (.work i)) := by
  rcases t.work_cases publish i with he | ⟨job, queue, hw, he⟩ | ⟨job, v, channel, hc, -, he⟩
  · rw [he]
    exact h
  · have hi : i < t.pool.workers.length := Pool.lt_of_alive (by rw [hw])
    rw [he]
    refine ⟨by simpa using h.workers, ?_⟩
    intro j
    by_cases hj : i = j
    · subst hj
      rw [Pool.worker_setWorker_self _ hi]
      exact (hw ▸ h.inOrder i).taken
    · rw [Pool.worker_setWorker_other _ _ hj]
      exact (h.inOrder j).unconcerned rfl (by simp [offeredBy, offered, hj]) rfl
  · rw [he]
    refine ⟨by simpa using h.workers, ?_⟩
    intro j
    by_cases hj : i = j
    · subst hj
      rw [Pool.worker_setWorker_self _ (h.lt_of_current hc)]
      exact (h.inOrder i).settled hc v
    · rw [Pool.worker_setWorker_other _ _ hj]
      exact (h.inOrder j).unconcerned rfl rfl (by simp [finishedBy, hj])

theorem step (h : Ordered count t) (a : Action β) : Ordered count (t.step publish a) := by
  cases a with
  | submit topic m =>
    simp only [Traffic.step]
    split
    · exact h.submit topic m
    · exact h
  | work i => exact h.work i
  | shift channel => exact ⟨h.workers, h.inOrder⟩
  | drop n => exact ⟨h.workers, h.inOrder⟩
  | close => exact ⟨h.workers, h.inOrder⟩

theorem run (h : Ordered count t) (actions : List (Action β)) :
    Ordered count (t.run publish actions) :=
  Traffic.run_induction h (fun _ a ht => ht.step a) actions

theorem dead_step {i : Nat} (hd : t.pool.worker i = ⟨[], none, false⟩) (a : Action β) :
    (t.step publish a).pool.worker i = ⟨[], none, false⟩ ∧
      offeredBy i (t.step publish a).history = offeredBy i t.history := by
  cases a with
  | submit topic m =>
    simp only [Traffic.step]
    split
    · have ho (answer : Except SubmissionError Nat) :
          offeredBy i (t.history ++ [.answered topic m answer]) = offeredBy i t.history := by
        simp [offeredBy, offered]
      refine ⟨?_, ho _⟩
      rcases t.pool.submit_cases topic m with ⟨-, he⟩ | ⟨-, -, he⟩ | ⟨hw, -, he⟩
      · simpa [Traffic.answered, he] using hd
      · simpa [Traffic.answered, he] using hd
      · have hi : t.pool.shard m.key ≠ i := by
          intro hi
          rw [hi, hd] at hw
          exact Bool.false_ne_true hw
        simp only [Traffic.answered, he]
        rw [Pool.worker_setWorker_other _ _ hi]
        exact hd
    · exact ⟨hd, rfl⟩
  | work j =>
    rcases t.work_cases publish j with he | ⟨job, queue, hw, he⟩ | ⟨job, v, channel, hc, -, he⟩
    · rw [he]
      exact ⟨hd, rfl⟩
    · have hj : j ≠ i := by
        rintro rfl
        simp [hd] at hw
      rw [he]
      exact ⟨(Pool.worker_setWorker_other _ _ hj).trans hd, by simp [offeredBy, offered, hj]⟩
    · have hj : j ≠ i := by
        rintro rfl
        simp [hd] at hc
      rw [he]
      exact ⟨(Pool.worker_setWorker_other _ _ hj).trans hd, by simp [offeredBy, offered]⟩
  | shift channel => exact ⟨hd, rfl⟩
  | drop n => exact ⟨hd, rfl⟩
  | close => exact ⟨hd, rfl⟩

theorem dead_run {i : Nat} (hd : t.pool.worker i = ⟨[], none, false⟩)
    (actions : List (Action β)) :
    (t.run publish actions).pool.worker i = ⟨[], none, false⟩ ∧
      offeredBy i (t.run publish actions).history = offeredBy i t.history :=
  Traffic.run_induction (P := fun t' => t'.pool.worker i = ⟨[], none, false⟩ ∧
      offeredBy i t'.history = offeredBy i t.history)
    ⟨hd, rfl⟩
    (fun _ a ⟨hd', ho⟩ => ⟨(dead_step hd' a).1, (dead_step hd' a).2.trans ho⟩) actions

end Ordered

/-- The messages with one key all pass through one worker. -/
theorem offeredUnder_isPrefix {count : Nat} {history : List Occurrence}
    (h : ∀ i, offeredBy i history <+: acceptedFor count i history) (key : String) :
    offeredUnder key history <+: acceptedUnder key history := by
  let i := Pool.shardOf count key
  have hshard : ∀ j job, (j, job) ∈ offered history →
      Pool.shardOf count job.message.key = j := by
    intro j job hm
    have hj : job ∈ offeredBy j history :=
      List.mem_map.mpr ⟨(j, job), List.mem_filter.mpr ⟨hm, by simp⟩, rfl⟩
    simpa using (List.mem_filter.mp ((h j).subset hj)).2
  have ho : offeredUnder key history =
      (offeredBy i history).filter fun job => job.message.key == key := by
    simp only [offeredUnder, offeredBy, List.filter_map, List.filter_filter]
    congr 1
    apply List.filter_congr
    rintro ⟨j, job⟩ hm
    by_cases hk : job.message.key = key
    · have hj : j = i := by rw [← hshard j job hm, hk]
      simp [hk, hj]
    · simp [hk]
  have ha : acceptedUnder key history =
      (acceptedFor count i history).filter fun job => job.message.key == key := by
    simp only [acceptedUnder, acceptedFor, List.filter_filter]
    apply List.filter_congr
    intro job _
    by_cases hk : job.message.key = key <;> simp [hk, i]
  rw [ho, ha]
  exact (h i).filter _

/-- What a living worker has finished, what it is publishing and what it has queued are together
the submissions accepted for its keys, in their order. Hence the messages with one key are offered
in the order of their submission, over all topics; and a dead worker has offered the first of those
it had accepted and offers nothing more. -/
theorem published_in_submission_order {β : Type} (publish : Publishing β) (s : Sizing)
    (channel : β) (actions : List (Action β)) :
    let t := (Traffic.start s channel).run publish actions
    (∀ i, (t.pool.worker i).isAlive = true →
      finishedBy i t.history ++ (t.pool.worker i).current.toList ++ (t.pool.worker i).queue =
        acceptedFor s.workerCount i t.history) ∧
    (∀ key, offeredUnder key t.history <+: acceptedUnder key t.history) ∧
    ∀ i, (t.pool.worker i).isAlive = false →
      offeredBy i t.history <+: acceptedFor s.workerCount i t.history ∧
      ∀ later, offeredBy i (t.run publish later).history = offeredBy i t.history := by
  intro t
  have h : Ordered s.workerCount t := (Ordered.start s channel).run actions
  refine ⟨?_, ?_, ?_⟩
  · intro i hw
    rw [← (h.inOrder i).offered_eq hw]
    exact ((h.inOrder i).accepted_eq hw).symm
  · exact offeredUnder_isPrefix fun i => (h.inOrder i).offered_isPrefix
  · intro i hw
    exact ⟨(h.inOrder i).offered_isPrefix,
      fun later => (Ordered.dead_run ((h.inOrder i).dead hw) later).2⟩

/-- A refused job, one in flight and one queued at a worker, while the other worker breaks down. -/
theorem submission_order_after_crash :
    let publish : Publishing (List Verdict) := fun _ vs => vs.head?.map fun v => (v, vs.tail)
    let job (n : Nat) (topic key : String) : Job := ⟨n, topic, ⟨key, "CREATE", []⟩⟩
    let submit (j : Job) : Action (List Verdict) := .submit j.topic j.message
    let t := (Traffic.start ⟨2, 8⟩ []).run publish
      [submit (job 0 "items" "7"), submit (job 1 "ratings" "7"), submit (job 2 "items" "4"),
        submit (job 3 "commentary" "7"), .work 1, .shift [.refused (.transport "down"), .crashed],
        .work 1, .work 1, .work 0, .work 0, submit (job 4 "items" "4")]
    ((t.pool.worker 1).isAlive = true ∧
      finishedBy 1 t.history ++ (t.pool.worker 1).current.toList ++ (t.pool.worker 1).queue =
        acceptedFor 2 1 t.history ∧
      finishedBy 1 t.history = [job 0 "items" "7"] ∧
      acceptedFor 2 1 t.history =
        [job 0 "items" "7", job 1 "ratings" "7", job 3 "commentary" "7"]) ∧
    (t.pool.worker 0).isAlive = false ∧ offeredBy 0 t.history <+: acceptedFor 2 0 t.history ∧
      offeredBy 0 t.history = [job 2 "items" "4"] := by
  intro publish job submit t
  obtain ⟨hlive, -, hdead⟩ := published_in_submission_order publish ⟨2, 8⟩ []
    [submit (job 0 "items" "7"), submit (job 1 "ratings" "7"), submit (job 2 "items" "4"),
      submit (job 3 "commentary" "7"), .work 1, .shift [.refused (.transport "down"), .crashed],
      .work 1, .work 1, .work 0, .work 0, submit (job 4 "items" "4")]
  have h1 : (t.pool.worker 1).isAlive = true := by decide +kernel
  have h0 : (t.pool.worker 0).isAlive = false := by decide +kernel
  exact ⟨⟨h1, hlive 1 h1, by decide +kernel, by decide +kernel⟩, h0, (hdead 0 h0).1,
    by decide +kernel⟩

end AggregateGateway.Publish
