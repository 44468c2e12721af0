import AggregateGateway.Proofs.Publish.Accounting

/-! Receipts of a publish pool. Each accepted submission has one, which tells what has become of the
job and nothing else. Throwing receipts away shows in nothing but the receipts. -/

namespace AggregateGateway.Publish

open Catalog (Message)

variable {β : Type} {publish : Publishing β} {count : Nat} {t : Traffic β}

def Action.isDrop : Action β → Bool
  | .drop _ => true
  | _ => false

def acceptedNumbers (history : List Occurrence) : List Nat :=
  (accepted history).map Job.number

/-- Receipts and answers belong to submissions that were accepted; each of these still has its
receipt unless that was thrown away. -/
structure Receipted (isThrown : Nat → Prop) (t : Traffic β) : Prop where
  once : t.receipts.Nodup
  receipt : ∀ n ∈ t.receipts, n ∈ acceptedNumbers t.history
  answer : ∀ a ∈ t.acknowledgements, a.number ∈ acceptedNumbers t.history
  kept : ∀ n ∈ acceptedNumbers t.history, n ∈ t.receipts ∨ isThrown n

namespace Receipted

variable {isThrown : Nat → Prop}

theorem start (s : Sizing) (channel : β) : Receipted isThrown (.start s channel) := by
  constructor <;> simp [Traffic.start, acceptedNumbers, accepted]

theorem refused (h : Receipted isThrown t) (topic : String) (m : Message) (p : Pool)
    (e : SubmissionError) : Receipted isThrown (t.answered topic m (p, .error e)) := by
  have hn : acceptedNumbers (t.history ++ [.answered topic m (.error e)]) =
      acceptedNumbers t.history := by simp [acceptedNumbers, accepted]
  have hr : t.receipts ++ (Except.error e : Except SubmissionError Nat).toOption.toList =
      t.receipts := List.append_nil _
  refine ⟨?_, ?_, ?_, ?_⟩ <;> simp only [Traffic.answered, hn, hr]
  · exact h.once
  · exact h.receipt
  · exact h.answer
  · exact h.kept

theorem queued (h : Receipted isThrown t) (topic : String) (m : Message) (p : Pool) {n : Nat}
    (hfresh : n ∉ acceptedNumbers t.history) :
    Receipted isThrown (t.answered topic m (p, .ok n)) := by
  have hn : acceptedNumbers (t.history ++ [.answered topic m (.ok n)]) =
      acceptedNumbers t.history ++ [n] := by simp [acceptedNumbers, accepted]
  have hr : t.receipts ++ (Except.ok n : Except SubmissionError Nat).toOption.toList =
      t.receipts ++ [n] := rfl
  refine ⟨?_, ?_, ?_, ?_⟩ <;> simp only [Traffic.answered, hn, hr]
  · refine List.nodup_append.mpr ⟨h.once, List.nodup_singleton n, ?_⟩
    rintro k hk _ hk' rfl
    rw [List.mem_singleton] at hk'
    exact hfresh (hk' ▸ h.receipt k hk)
  · intro k hk
    rw [List.mem_append] at hk ⊢
    exact hk.imp_left (h.receipt k)
  · exact fun a ha => List.mem_append_left _ (h.answer a ha)
  · intro k hk
    rw [List.mem_append] at hk ⊢
    rcases hk with hk | hk
    · exact (h.kept k hk).imp_left .inl
    · exact .inl (.inr hk)

theorem submit (h : Receipted isThrown t) (ha : Answered count t) (topic : String) (m : Message) :
    Receipted isThrown (t.answered topic m (t.pool.submit topic m)) := by
  have hfresh : t.pool.next ∉ acceptedNumbers t.history := by
    intro hm
    obtain ⟨job, hj, hn⟩ := List.mem_map.mp hm
    exact Nat.ne_of_lt (ha.below job hj) hn
  rcases t.pool.submit_cases topic m with ⟨-, he⟩ | ⟨-, -, he⟩ | ⟨-, -, he⟩
  · rw [he]
    exact h.refused topic m _ _
  · rw [he]
    exact h.refused topic m _ _
  · rw [he]
    exact h.queued topic m _ hfresh

theorem work (h : Receipted isThrown t) (ho : Ordered count t) (i : Nat) :
    Receipted isThrown (t.step publish (.work i)) := by
  rcases t.work_cases publish i with he | ⟨job, queue, -, he⟩ | ⟨job, v, channel, hc, -, he⟩
  · rw [he]
    exact h
  · have hn : acceptedNumbers (t.history ++ [.offered i job]) = acceptedNumbers t.history := by
      simp [acceptedNumbers, accepted]
    rw [he]
    refine ⟨h.once, ?_, ?_, ?_⟩ <;> simp only [hn]
    · exact h.receipt
    · exact h.answer
    · exact h.kept
  · have hn : acceptedNumbers (t.history ++ [.settled i job v]) = acceptedNumbers t.history := by
      simp [acceptedNumbers, accepted]
    rw [he]
    refine ⟨h.once, ?_, ?_, ?_⟩ <;> simp only [hn]
    · exact h.receipt
    · intro a ha
      rcases List.mem_append.mp ha with ha | ha
      · exact h.answer a ha
      · obtain ⟨j, hj, hnumber⟩ := Worker.held_of_settle_answer v hc ha
        obtain ⟨haccepted, -⟩ := mem_acceptedFor.mp ((ho.held_isSuffix i).subset hj)
        exact List.mem_map.mpr ⟨j, haccepted, hnumber⟩
    · exact h.kept

theorem drop (h : Receipted isThrown t) {n : Nat} (hn : isThrown n) :
    Receipted isThrown { t with receipts := t.receipts.filter (· != n) } := by
  refine ⟨h.once.filter _, fun k hk => h.receipt k (List.mem_of_mem_filter hk), h.answer, ?_⟩
  intro k hk
  by_cases hkn : k = n
  · exact .inr (hkn ▸ hn)
  · exact (h.kept k hk).imp_left fun hr => List.mem_filter.mpr ⟨hr, by simpa using hkn⟩

theorem step (h : Receipted isThrown t) (ho : Ordered count t) (ha : Answered count t)
    {a : Action β} (hthrown : ∀ n, a = .drop n → isThrown n) :
    Receipted isThrown (t.step publish a) := by
  cases a with
  | submit topic m =>
    simp only [Traffic.step]
    split
    · exact h.submit ha topic m
    · exact h
  | work i => exact h.work ho i
  | shift channel => exact ⟨h.once, h.receipt, h.answer, h.kept⟩
  | drop n => exact h.drop (hthrown n rfl)
  | close => exact ⟨h.once, h.receipt, h.answer, h.kept⟩

theorem run (publish : Publishing β) (s : Sizing) (channel : β) (actions : List (Action β)) :
    Receipted (fun n => .drop n ∈ actions) ((Traffic.start s channel).run publish actions) := by
  let Inv (t : Traffic β) := Ordered s.workerCount t ∧ Answered s.workerCount t ∧
    Receipted (fun n => .drop n ∈ actions) t
  have hstart : Inv (.start s channel) :=
    ⟨.start s channel, .start s channel, .start s channel⟩
  have hrun : Inv ((Traffic.start s channel).run publish actions) :=
    List.foldlRecOn actions _ hstart fun t ⟨ho, ha, h⟩ a hmem =>
      ⟨ho.step a, ha.step ho a, h.step ho ha fun n hn => hn ▸ hmem⟩
  exact hrun.2.2

end Receipted

/-- The answer to an accepted submission is what has become of it. -/
theorem Answered.answer_iff_fate (h : Answered count t) (ho : Ordered count t) {i : Nat}
    {job : Job} (hj : job ∈ acceptedFor count i t.history) (r : Except SubmissionError Unit) :
    ⟨job.number, r⟩ ∈ t.acknowledgements ↔ Fate t i job r := by
  refine ⟨fun hr => ?_, h.answer_of_fate hj⟩
  rcases held_or_fate ho hj with hheld | ⟨r', hr'⟩
  · exact absurd rfl (h.pending i job hheld _ hr)
  · have hsame := h.find?_eq_some_iff.mpr (h.answer_of_fate hj hr')
    rw [h.find?_eq_some_iff.mpr hr] at hsame
    obtain rfl : r = r' := by simpa using hsame
    exact hr'

theorem Traffic.acknowledgements_isPrefix_run (t : Traffic β) (actions : List (Action β)) :
    t.acknowledgements <+: (t.run publish actions).acknowledgements := by
  refine run_induction (P := fun u => t.acknowledgements <+: u.acknowledgements)
    List.prefix_rfl (fun u a h => h.trans ?_) actions
  cases a with
  | submit topic m =>
    simp only [step]
    split <;> exact List.prefix_rfl
  | work i =>
    rcases u.work_cases publish i with he | ⟨job, queue, -, he⟩ | ⟨job, v, channel, -, -, he⟩
    · exact ⟨[], by rw [he, List.append_nil]⟩
    · exact ⟨[], by rw [he, List.append_nil]⟩
    · rw [he]
      exact List.prefix_append _ _
  | shift channel => exact List.prefix_rfl
  | drop n => exact List.prefix_rfl
  | close => exact List.prefix_rfl

theorem Ordered.submit_dead (h : Ordered count t) {i : Nat}
    (hd : (t.pool.worker i).isAlive = false) (later : List (Action β)) (topic : String)
    {m : Message} (hm : Pool.shardOf count m.key = i) :
    ((t.run publish later).pool.submit topic m).2 = .error .closed := by
  have hdead : (t.run publish later).pool.worker i = ⟨[], none, false⟩ :=
    (dead_run ((h.inOrder i).dead hd) later).1
  have hshard : (t.run publish later).pool.shard m.key = i := by
    rw [Pool.shard, (h.run later).workers, hm]
  rcases (t.run publish later).pool.submit_cases topic m with ⟨-, he⟩ | ⟨hw, -⟩ | ⟨hw, -⟩
  · rw [he]
  · rw [hshard, hdead] at hw
    exact absurd hw Bool.false_ne_true
  · rw [hshard, hdead] at hw
    exact absurd hw Bool.false_ne_true

/-! ### Without receipts -/

theorem Traffic.step_receipts (publish : Publishing β) (t : Traffic β) (receipts : List Nat)
    (a : Action β) : ∃ receipts',
      ({ t with receipts } : Traffic β).step publish a =
        { t.step publish a with receipts := receipts' } := by
  cases a with
  | submit topic m =>
    simp only [step]
    split
    · exact ⟨_, rfl⟩
    · exact ⟨_, rfl⟩
  | work i =>
    simp only [step]
    split
    · exact ⟨_, rfl⟩
    · exact ⟨_, rfl⟩
  | shift channel => exact ⟨_, rfl⟩
  | drop n => exact ⟨_, rfl⟩
  | close => exact ⟨_, rfl⟩

theorem Traffic.run_without_drops (publish : Publishing β) (t : Traffic β) (receipts : List Nat)
    (actions : List (Action β)) : ∃ receipts',
      ({ t with receipts } : Traffic β).run publish (actions.filter fun a => !a.isDrop) =
        { t.run publish actions with receipts := receipts' } := by
  induction actions generalizing t receipts with
  | nil => exact ⟨receipts, rfl⟩
  | cons a actions ih =>
    cases ha : a.isDrop with
    | true =>
      obtain ⟨n, rfl⟩ : ∃ n, a = .drop n := by
        cases a <;> simp [Action.isDrop] at ha ⊢
      rw [List.filter_cons_of_neg (by simp [ha]), run_cons]
      exact ih (t.step publish (.drop n)) receipts
    | false =>
      obtain ⟨receipts', he⟩ := t.step_receipts publish receipts a
      rw [List.filter_cons_of_pos (by simp [ha]), run_cons, run_cons, he]
      exact ih (t.step publish a) receipts'

/-- Every accepted submission has one receipt, and the answer to it is what has become of the job;
nothing else is ever answered. What a dead worker held is answered, and its keys are closed. The
counters agree with what the channel has done and with where the other jobs are; and without the
receipts that were thrown away all is the same. -/
theorem receipts_tell_fates (publish : Publishing β) (s : Sizing) (channel : β)
    (actions : List (Action β)) :
    let t := (Traffic.start s channel).run publish actions
    let shard (job : Job) := Pool.shardOf s.workerCount job.message.key
    ((acceptedNumbers t.history).Nodup ∧ (∀ n ∈ t.receipts, n ∈ acceptedNumbers t.history) ∧
      ∀ n ∈ acceptedNumbers t.history, .drop n ∉ actions → t.receipts.count n = 1) ∧
    ((t.acknowledgements.map Acknowledgement.number).Nodup ∧
      (∀ a ∈ t.acknowledgements, a.number ∈ acceptedNumbers t.history) ∧
      (∀ job ∈ accepted t.history, ∀ r,
        ⟨job.number, r⟩ ∈ t.acknowledgements ↔ Fate t (shard job) job r) ∧
      ∀ later, t.acknowledgements <+: (t.run publish later).acknowledgements) ∧
    ((∀ job ∈ lostJobs s.workerCount t, ⟨job.number, .error .closed⟩ ∈ t.acknowledgements) ∧
      ∀ i, (t.pool.worker i).isAlive = false → ∀ later topic m,
        Pool.shardOf s.workerCount m.key = i →
          ((t.run publish later).pool.submit topic m).2 = .error .closed) ∧
    (∀ topic,
      t.counter .publishSubmitted topic =
        t.counter .publishPublished topic + t.counter .publishFailed topic +
          onTopic topic t.pool.queued + onTopic topic t.pool.inFlight +
          onTopic topic (lostJobs s.workerCount t) ∧
      t.counter .publishRejected topic = turnedAway topic t.history) ∧
    ∃ receipts, (Traffic.start s channel).run publish (actions.filter fun a => !a.isDrop) =
      { t with receipts } := by
  intro t shard
  obtain ⟨ho, h⟩ : Ordered s.workerCount t ∧ Answered s.workerCount t :=
    (Answered.start s channel).run (.start s channel) actions
  have hr : Receipted (fun n => .drop n ∈ actions) t := .run publish s channel actions
  have hm : t.Measured := Traffic.measured_run s channel actions
  have hfinished (i : Nat) : finishedBy i t.history <+: acceptedFor s.workerCount i t.history :=
    Ordered.finished_isPrefix s channel actions i
  refine ⟨⟨h.distinct, hr.receipt, ?_⟩, ⟨h.once, hr.answer, ?_, t.acknowledgements_isPrefix_run⟩,
    ⟨?_, fun i hd later topic m => ho.submit_dead hd later topic⟩, ?_, ?_⟩
  · intro n hn hkept
    exact List.count_eq_one_of_mem hr.once ((hr.kept n hn).resolve_right hkept)
  · intro job hj
    exact h.answer_iff_fate ho (mem_acceptedFor.mpr ⟨hj, rfl⟩)
  · intro job hj
    simp only [lostJobs, List.mem_filter, Bool.and_eq_true, Bool.not_eq_true',
      List.contains_eq_mem, decide_eq_false_iff_not] at hj
    obtain ⟨hj, hdead, hunfinished⟩ := hj
    exact h.lost _ hdead job (mem_acceptedFor.mpr ⟨hj, rfl⟩) hunfinished
  · intro topic
    have hplaces := h.accepted_conserved ho s.workerCount_pos hfinished topic
    rw [hm.submitted, hm.published_failed]
    exact ⟨hplaces, hm.rejected topic⟩
  · exact Traffic.run_without_drops publish (.start s channel) [] actions

/-- One job is refused by the channel, one waits, two are lost, and two submissions fail. -/
theorem receipts_tell_fates_after_crash :
    let publish : Publishing (List Verdict) := fun _ vs => vs.head?.map fun v => (v, vs.tail)
    let job (n : Nat) (topic key : String) : Job := ⟨n, topic, ⟨key, "CREATE", []⟩⟩
    let submit (j : Job) : Action (List Verdict) := .submit j.topic j.message
    let t := (Traffic.start ⟨2, 4⟩ []).run publish
      [submit (job 0 "items" "7"), submit (job 1 "ratings" "7"), submit (job 2 "items" "7"),
        submit (job 3 "items" "4"), submit (job 4 "items" "4"), .drop 1, .work 1,
        .shift [.refused (.transport "down"), .crashed], .work 1, .work 0, .work 0,
        submit (job 5 "items" "4")]
    (0 ∈ acceptedNumbers t.history ∧ t.receipts.count 0 = 1) ∧
      (job 0 "items" "7" ∈ accepted t.history ∧ (⟨0, .ok ()⟩ ∈ t.acknowledgements ↔
        Fate t (Pool.shardOf 2 "7") (job 0 "items" "7") (.ok ()))) ∧
      (lostJobs 2 t = [job 3 "items" "4", job 4 "items" "4"] ∧
        ⟨4, .error .closed⟩ ∈ t.acknowledgements) ∧
      (t.pool.worker 0).isAlive = false ∧
      ((t.run publish [.work 1]).pool.submit "items" ⟨"4", "CREATE", []⟩).2 = .error .closed ∧
      t.counter .publishSubmitted "items" = 3 ∧ t.counter .publishFailed "items" = 1 ∧
      t.counter .publishRejected "items" = 1 := by
  have h := receipts_tell_fates (fun _ (vs : List Verdict) => vs.head?.map fun v => (v, vs.tail))
    ⟨2, 4⟩ []
    [.submit "items" ⟨"7", "CREATE", []⟩, .submit "ratings" ⟨"7", "CREATE", []⟩,
      .submit "items" ⟨"7", "CREATE", []⟩, .submit "items" ⟨"4", "CREATE", []⟩,
      .submit "items" ⟨"4", "CREATE", []⟩, .drop 1, .work 1,
      .shift [.refused (.transport "down"), .crashed], .work 1, .work 0, .work 0,
      .submit "items" ⟨"4", "CREATE", []⟩]
  dsimp only at h ⊢
  obtain ⟨⟨-, -, hkept⟩, ⟨-, -, hanswer, -⟩, ⟨hlost, hclosed⟩, -, -⟩ := h
  refine ⟨⟨by decide +kernel, ?_⟩, ⟨by decide +kernel, ?_⟩, ⟨by decide +kernel, ?_⟩,
    by decide +kernel, ?_, by decide +kernel, by decide +kernel, by decide +kernel⟩
  · exact hkept 0 (by decide +kernel) (by simp)
  · exact hanswer ⟨0, "items", ⟨"7", "CREATE", []⟩⟩ (by decide +kernel) _
  · exact hlost ⟨4, "items", ⟨"4", "CREATE", []⟩⟩ (by decide +kernel)
  · exact hclosed 0 (by decide +kernel) [.work 1] "items" _ (by decide +kernel)

end AggregateGateway.Publish
