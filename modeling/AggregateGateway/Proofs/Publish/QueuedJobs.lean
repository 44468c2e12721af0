import AggregateGateway.Proofs.Publish.Acknowledgements
import AggregateGateway.Proofs.Publish.Schedules

/-! Jobs that a worker has accepted one after the other. From then on, whatever happens, each is
offered at most once and in its turn; those that have not been offered wait in the queue unless the
worker breaks down. -/

namespace AggregateGateway.Publish

variable {β : Type} {publish : Publishing β}

/-! ### Histories grow -/

namespace Traffic

theorem history_isPrefix_step (t : Traffic β) (a : Action β) :
    t.history <+: (t.step publish a).history := by
  cases a with
  | submit topic m =>
    simp only [step]
    split
    · exact List.prefix_append _ _
    · exact List.prefix_rfl
  | work i =>
    rcases t.work_cases publish i with he | ⟨job, queue, -, he⟩ | ⟨job, v, channel, -, -, he⟩
    · exact ⟨[], by rw [he, List.append_nil]⟩
    · rw [he]
      exact List.prefix_append _ _
    · rw [he]
      exact List.prefix_append _ _
  | shift channel => exact List.prefix_rfl
  | drop n => exact List.prefix_rfl
  | close => exact List.prefix_rfl

theorem history_isPrefix_run (t : Traffic β) (actions : List (Action β)) :
    t.history <+: (t.run publish actions).history :=
  run_induction (P := fun u => t.history <+: u.history) List.prefix_rfl
    (fun u a h => h.trans (u.history_isPrefix_step a)) actions

theorem acceptedFor_isPrefix_run (t : Traffic β) (count i : Nat) (actions : List (Action β)) :
    acceptedFor count i t.history <+: acceptedFor count i (t.run publish actions).history :=
  ((t.history_isPrefix_run actions).filterMap _).filter _

end Traffic

/-! ### In turn -/

/-- How often and in which order some jobs were handed to the channel, by any worker. -/
def offeredOf (jobs : List Job) (history : List Occurrence) : List Job :=
  ((offered history).map Prod.snd).filter (· ∈ jobs)

structure InTurn (i : Nat) (jobs : List Job) (t : Traffic β) : Prop where
  offered_isPrefix : offeredOf jobs t.history <+: jobs
  waiting : (t.pool.worker i).isAlive = true →
    offeredOf jobs t.history ++ (t.pool.worker i).queue.filter (· ∈ jobs) = jobs

theorem InTurn.all_offered {i : Nat} {jobs : List Job} {t : Traffic β} (h : InTurn i jobs t)
    (hq : (t.pool.worker i).queue = []) :
    offeredOf jobs t.history = jobs ∨ (t.pool.worker i).isAlive = false := by
  cases hw : (t.pool.worker i).isAlive with
  | false => exact .inr rfl
  | true => exact .inl (by simpa [hq] using h.waiting hw)

theorem filter_mem_of_sublist {jobs all : List Job} (h : jobs.Sublist all) (hall : all.Nodup) :
    all.filter (· ∈ jobs) = jobs := by
  induction h with
  | slnil => rfl
  | @cons jobs all job hsub ih =>
    obtain ⟨hjob, hrest⟩ := List.nodup_cons.mp hall
    have hnot : job ∉ jobs := fun hmem => hjob (hsub.subset hmem)
    rw [List.filter_cons_of_neg (by simpa using hnot), ih hrest]
  | @cons_cons jobs all job hsub ih =>
    obtain ⟨hjob, hrest⟩ := List.nodup_cons.mp hall
    have hsame : all.filter (· ∈ job :: jobs) = all.filter (· ∈ jobs) := by
      apply List.filter_congr
      intro j hj
      have hne : j ≠ job := fun heq => hjob (heq ▸ hj)
      simp [hne]
    rw [List.filter_cons_of_pos (by simp), hsame, ih hrest]

variable {count i : Nat} {t : Traffic β} {jobs : List Job}

theorem Ordered.shard_of_offered (ho : Ordered count t) {j : Nat} {job : Job}
    (h : (j, job) ∈ offered t.history) : Pool.shardOf count job.message.key = j := by
  have hj : job ∈ offeredBy j t.history :=
    List.mem_map.mpr ⟨(j, job), List.mem_filter.mpr ⟨h, by simp⟩, rfl⟩
  exact (mem_acceptedFor.mp ((ho.inOrder j).offered_isPrefix.subset hj)).2

theorem Ordered.offeredOf_eq (ho : Ordered count t)
    (hjobs : ∀ job ∈ jobs, Pool.shardOf count job.message.key = i) :
    offeredOf jobs t.history = (offeredBy i t.history).filter (· ∈ jobs) := by
  simp only [offeredOf, offeredBy, List.filter_map, List.filter_filter]
  congr 1
  apply List.filter_congr
  rintro ⟨j, job⟩ hm
  by_cases hmem : job ∈ jobs
  · have hj : j = i := (ho.shard_of_offered hm).symm.trans (hjobs job hmem)
    simp [hmem, hj]
  · simp [hmem]

theorem Answered.acceptedFor_nodup (h : Answered count t) (i : Nat) :
    (acceptedFor count i t.history).Nodup :=
  (List.Nodup.of_map _ h.distinct).sublist List.filter_sublist

theorem Answered.inTurn (h : Answered count t) (ho : Ordered count t)
    (hjobs : jobs <:+: acceptedFor count i t.history) : InTurn i jobs t := by
  -- both claims are those of `Ordered` about the worker, restricted to these jobs
  have hfind := filter_mem_of_sublist hjobs.sublist (h.acceptedFor_nodup i)
  have hoffered := ho.offeredOf_eq fun job hj => (mem_acceptedFor.mp (hjobs.subset hj)).2
  refine ⟨?_, ?_⟩
  · rw [hoffered]
    have hpart := (ho.inOrder i).offered_isPrefix.filter (· ∈ jobs)
    rwa [hfind] at hpart
  · intro hw
    rw [hoffered, ← List.filter_append, ← (ho.inOrder i).accepted_eq hw, hfind]

/-! ### What the channel has accepted -/

/-- The jobs that the channel has accepted, oldest first. -/
def published (history : List Occurrence) : List Job :=
  history.filterMap fun
    | .settled _ job .accepted => some job
    | _ => none

/-- Of an accepted job nothing else is known than that its worker has published it. -/
theorem Answered.settled_of_accepted (h : Answered count t)
    (hfinished : ∀ i, finishedBy i t.history <+: acceptedFor count i t.history) {job : Job}
    (hok : .settled i job .accepted ∈ t.history) {j : Nat} {v : Verdict}
    (hv : .settled j job v ∈ t.history) : j = i ∧ v = .accepted := by
  have hanswer : v.answer = .ok () := by
    have hfirst := h.find?_eq_some_iff.mpr (h.told j job v hv)
    rw [h.find?_eq_some_iff.mpr (h.told i job .accepted hok)] at hfirst
    simpa [Verdict.answer, eq_comm] using hfirst
  have haccepted : v = .accepted := by
    cases v with
    | accepted => rfl
    | refused | crashed => cases hanswer
  subst haccepted
  have hshard (k : Nat) (hk : .settled k job .accepted ∈ t.history) :
      Pool.shardOf count job.message.key = k :=
    (mem_acceptedFor.mp ((hfinished k).subset (mem_finishedBy.mpr ⟨.accepted, by simp, hk⟩))).2
  exact ⟨(hshard j hv).symm.trans (hshard i hok), rfl⟩

/-- Jobs of one worker that the channel has accepted were accepted in the order of their
submissions, and none of them twice. -/
theorem Answered.published_filter (h : Answered count t)
    (hfinished : ∀ i, finishedBy i t.history <+: acceptedFor count i t.history)
    (hjobs : jobs.Sublist (acceptedFor count i t.history))
    (hok : ∀ job ∈ jobs, .settled i job .accepted ∈ t.history) :
    (published t.history).filter (· ∈ jobs) = jobs := by
  have hworker : (published t.history).filter (· ∈ jobs) =
      (finishedBy i t.history).filter (· ∈ jobs) := by
    rw [published, finishedBy, List.filter_filterMap, List.filter_filterMap]
    apply List.filterMap_congr
    intro x hx
    cases x with
    | answered | offered => rfl
    | settled j job v =>
      by_cases hmem : job ∈ jobs
      · obtain ⟨rfl, rfl⟩ := h.settled_of_accepted hfinished (hok job hmem) hx
        simp [Option.filter, hmem]
      · by_cases hj : j = i <;> cases v <;> simp [Option.filter, hmem, hj]
  obtain ⟨rest, hrest⟩ := hfinished i
  have hnodup := h.acceptedFor_nodup i
  have hall := filter_mem_of_sublist hjobs hnodup
  rw [← hrest] at hnodup hall
  have hnone : rest.filter (· ∈ jobs) = [] := by
    obtain ⟨-, -, hdisjoint⟩ := List.nodup_append.mp hnodup
    rw [List.filter_eq_nil_iff]
    intro job hj hmem
    have hdone : job ∈ finishedBy i t.history :=
      mem_finishedBy.mpr ⟨.accepted, by simp, hok job (of_decide_eq_true hmem)⟩
    exact hdisjoint job hdone job hj rfl
  rw [List.filter_append, hnone, List.append_nil] at hall
  exact hworker.trans hall

/-! ### When the work stops -/

theorem Work.stopped {k : Work β} (h : k.step publish = none) :
    k.worker.isAlive = false ∨ (k.worker.queue = [] ∧ k.worker.current = none) ∨
      ∃ job, k.worker.current = some job ∧ publish job k.channel = none := by
  obtain ⟨⟨queue, current, isAlive⟩, channel, acks, ms⟩ := k
  cases current with
  | some job => exact .inr (.inr ⟨job, rfl, by simpa [step] using h⟩)
  | none =>
    cases isAlive with
    | false => exact .inl rfl
    | true =>
      cases queue with
      | nil => exact .inr (.inl ⟨rfl, rfl⟩)
      | cons job queue => simp [step, Worker.take] at h

/-- A worker that is let work until it stops has offered all its jobs, unless it breaks down or the
channel does not deal with one. -/
theorem Traffic.worker_stops (publish : Publishing β) (hi : i < t.pool.workers.length) :
    let u := t.run publish (List.replicate (t.pool.worker i).stepLimit (.work i))
    (u.pool.worker i).isAlive = false ∨
      ((u.pool.worker i).queue = [] ∧ (u.pool.worker i).current = none) ∨
      ∃ job, (u.pool.worker i).current = some job ∧ publish job u.channel = none := by
  intro u
  obtain ⟨history, he⟩ := run_worker publish (t.pool.worker i).stepLimit hi
  have hu : u.work i = (t.work i).run publish (t.pool.worker i).stepLimit := by
    simp only [u, he, work_put _ _ hi]
  have hstop : (u.work i).step publish = none := by
    rw [hu]
    exact Work.step_run_stepLimit publish (t.work i)
  exact Work.stopped hstop

theorem Pool.drained_run (hanswers : ∀ job c, (publish job c).isSome = true)
    (workers : List Worker) (channel : β) :
    ∀ w ∈ (Pool.run.go publish workers channel).1,
      w.isAlive = false ∨ (w.queue = [] ∧ w.current = none) := by
  induction workers generalizing channel with
  | nil => simp [Pool.run.go]
  | cons w ws ih =>
    intro w' hw'
    simp only [Pool.run.go, List.mem_cons] at hw'
    rcases hw' with rfl | hw'
    · rcases Work.stopped (Work.step_run_stepLimit publish ⟨w, channel, [], []⟩) with
        hd | hidle | ⟨job, -, hp⟩
      · exact .inl hd
      · exact .inr hidle
      · have hsome := hanswers job
          (Work.run publish w.stepLimit ⟨w, channel, [], []⟩).channel
        rw [hp] at hsome
        exact absurd hsome Bool.false_ne_true
    · exact ih _ w' hw'

theorem Traffic.drained_turns (hanswers : ∀ job c, (publish job c).isSome = true) (t : Traffic β)
    (i : Nat) :
    let u := t.run publish (Pool.turns 0 t.pool.workers)
    (u.pool.worker i).isAlive = false ∨
      ((u.pool.worker i).queue = [] ∧ (u.pool.worker i).current = none) := by
  intro u
  obtain ⟨history, he⟩ := t.run_turns publish
  have hpool : u.pool.workers = (Pool.run.go publish t.pool.workers t.channel).1 := by
    simp only [u, he, Pool.run]
  cases hw : u.pool.workers[i]? with
  | none => exact .inl (by simp [Pool.worker, hw])
  | some w =>
    have hmem := Pool.drained_run hanswers t.pool.workers t.channel w
      (hpool ▸ List.mem_of_getElem? hw)
    simpa [Pool.worker, hw] using hmem

end AggregateGateway.Publish
