import AggregateGateway.Proofs.Publish.SubmissionOrder
import Mathlib.Data.List.Nodup

/-! What a submitter is told. An accepted submission is answered at most once: with what the channel
has done with its job, or that the worker broke down before it was done. Until then the worker
holds the job. -/

namespace AggregateGateway.Publish

open Catalog (Message)

variable {β : Type}

def Verdict.answer : Verdict → Except SubmissionError Unit
  | .accepted => .ok ()
  | .refused e => .error (.rejected e)
  | .crashed => .error .closed

/-- The job that is being published and those that wait behind it. -/
def Worker.held (w : Worker) : List Job :=
  w.current.toList ++ w.queue

/-- What has become of a job that was given to a worker. -/
inductive Fate (t : Traffic β) (i : Nat) (job : Job) : Except SubmissionError Unit → Prop where
  | accepted (h : .settled i job .accepted ∈ t.history) : Fate t i job (.ok ())
  | refused {e : ChannelError} (h : .settled i job (.refused e) ∈ t.history) :
    Fate t i job (.error (.rejected e))
  /-- The worker broke down before it was done with the job. -/
  | lost (hdead : (t.pool.worker i).isAlive = false) (h : job ∉ finishedBy i t.history) :
    Fate t i job (.error .closed)

/-- The jobs that a worker held are those that are answered and those that it still holds. -/
theorem Worker.settle_numbers (v : Verdict) {job : Job} {w : Worker} (hc : w.current = some job) :
    (w.settle v job).2.map Acknowledgement.number ++ (w.settle v job).1.held.map Job.number =
      w.held.map Job.number := by
  cases v with
  | accepted | refused e => simp [settle, held, hc]
  | crashed => simp [settle, held, hc, Function.comp_def]

theorem Worker.held_of_settle_answer (v : Verdict) {job : Job} {w : Worker}
    (hc : w.current = some job) {a : Acknowledgement} (ha : a ∈ (w.settle v job).2) :
    ∃ j ∈ w.held, j.number = a.number := by
  have hn : a.number ∈ w.held.map Job.number := by
    rw [← settle_numbers v hc]
    exact List.mem_append_left _ (List.mem_map_of_mem ha)
  exact List.mem_map.mp hn

theorem Worker.held_of_settle_held (v : Verdict) {job : Job} {w : Worker}
    (hc : w.current = some job) {j : Job} (hj : j ∈ (w.settle v job).1.held) :
    ∃ j' ∈ w.held, j'.number = j.number := by
  have hn : j.number ∈ w.held.map Job.number := by
    rw [← settle_numbers v hc]
    exact List.mem_append_right _ (List.mem_map_of_mem hj)
  exact List.mem_map.mp hn

theorem Worker.mem_settle (v : Verdict) (job : Job) (w : Worker) :
    ⟨job.number, v.answer⟩ ∈ (w.settle v job).2 := by
  cases v <;> simp [settle, Verdict.answer]

theorem Worker.mem_settle_crashed {job job' : Job} {w : Worker} (hc : w.current = some job)
    (h : job' ∈ w.held) : ⟨job'.number, .error .closed⟩ ∈ (w.settle .crashed job).2 := by
  simp only [settle, List.mem_map]
  exact ⟨job', by simpa [held, hc] using h, rfl⟩

theorem Worker.settle_isAlive {v : Verdict} (job : Job) (w : Worker) (hv : v ≠ .crashed) :
    (w.settle v job).1.isAlive = w.isAlive := by
  cases v with
  | accepted | refused e => rfl
  | crashed => exact absurd rfl hv

theorem mem_finishedBy {i : Nat} {job : Job} {history : List Occurrence} :
    job ∈ finishedBy i history ↔ ∃ v, v ≠ .crashed ∧ .settled i job v ∈ history := by
  simp only [finishedBy, List.mem_filterMap]
  constructor
  · rintro ⟨x, hx, hj⟩
    cases x with
    | settled j job' v =>
      simp only [Option.ite_none_right_eq_some, Bool.and_eq_true, beq_iff_eq, bne_iff_ne,
        Option.some.injEq] at hj
      obtain ⟨⟨rfl, hv⟩, rfl⟩ := hj
      exact ⟨v, hv, hx⟩
    | answered | offered => simp at hj
  · rintro ⟨v, hv, hx⟩
    exact ⟨_, hx, by simp [hv]⟩

theorem Occurrence.settled_mem_append_one {i : Nat} {job : Job} {v : Verdict}
    {history : List Occurrence} {x : Occurrence} :
    .settled i job v ∈ history ++ [x] ↔ .settled i job v ∈ history ∨ x = .settled i job v := by
  simp only [List.mem_append, List.mem_singleton, eq_comm]

/-! ### What the workers hold -/

namespace Ordered

variable {count : Nat} {t : Traffic β}

theorem accepted_eq_finished_held {i : Nat} (h : Ordered count t)
    (hw : (t.pool.worker i).isAlive = true) :
    acceptedFor count i t.history = finishedBy i t.history ++ (t.pool.worker i).held := by
  rw [(h.inOrder i).accepted_eq hw, (h.inOrder i).offered_eq hw, Worker.held, List.append_assoc]

theorem held_isSuffix (h : Ordered count t) (i : Nat) :
    (t.pool.worker i).held <:+ acceptedFor count i t.history := by
  cases hw : (t.pool.worker i).isAlive with
  | true =>
    rw [h.accepted_eq_finished_held hw]
    exact List.suffix_append _ _
  | false =>
    rw [(h.inOrder i).dead hw]
    exact List.nil_suffix

theorem alive_of_current {i : Nat} {job : Job} (h : Ordered count t)
    (hc : (t.pool.worker i).current = some job) : (t.pool.worker i).isAlive = true := by
  cases hw : (t.pool.worker i).isAlive with
  | true => rfl
  | false => simp [(h.inOrder i).dead hw] at hc

end Ordered

theorem mem_acceptedFor {count i : Nat} {job : Job} {history : List Occurrence} :
    job ∈ acceptedFor count i history ↔
      job ∈ accepted history ∧ Pool.shardOf count job.message.key = i := by
  simp only [acceptedFor, List.mem_filter, beq_iff_eq]

/-! ### The answers against the history -/

structure Answered (count : Nat) (t : Traffic β) : Prop where
  distinct : ((accepted t.history).map Job.number).Nodup
  below : ∀ job ∈ accepted t.history, job.number < t.pool.next
  told : ∀ i job v, .settled i job v ∈ t.history →
    ⟨job.number, v.answer⟩ ∈ t.acknowledgements
  lost : ∀ i, (t.pool.worker i).isAlive = false → ∀ job ∈ acceptedFor count i t.history,
    job ∉ finishedBy i t.history → ⟨job.number, .error .closed⟩ ∈ t.acknowledgements
  pending : ∀ i, ∀ job ∈ (t.pool.worker i).held, ∀ a ∈ t.acknowledgements,
    a.number ≠ job.number
  known : ∀ a ∈ t.acknowledgements, a.number < t.pool.next
  once : (t.acknowledgements.map Acknowledgement.number).Nodup

namespace Answered

variable {count : Nat} {t : Traffic β} {publish : Publishing β}

theorem start (s : Sizing) (channel : β) : Answered s.workerCount (.start s channel) := by
  constructor <;> simp [Traffic.start, accepted, acceptedFor]

/-- A job is known by its number. -/
theorem eq_of_number (h : Answered count t) {job job' : Job} (hj : job ∈ accepted t.history)
    (hj' : job' ∈ accepted t.history) (hn : job.number = job'.number) : job = job' :=
  List.inj_on_of_nodup_map h.distinct hj hj' hn

theorem held_distinct (h : Answered count t) (ho : Ordered count t) (i : Nat) :
    ((t.pool.worker i).held.map Job.number).Nodup :=
  h.distinct.sublist (((ho.held_isSuffix i).sublist.trans List.filter_sublist).map _)

/-- No two workers hold jobs with one number. -/
theorem held_number_ne (h : Answered count t) (ho : Ordered count t) {i j : Nat} {job job' : Job}
    (hj : job ∈ (t.pool.worker i).held) (hj' : job' ∈ (t.pool.worker j).held) (hne : i ≠ j) :
    job.number ≠ job'.number := by
  intro hn
  obtain ⟨ha, hi⟩ := mem_acceptedFor.mp ((ho.held_isSuffix i).subset hj)
  obtain ⟨ha', hi'⟩ := mem_acceptedFor.mp ((ho.held_isSuffix j).subset hj')
  obtain rfl := h.eq_of_number ha ha' hn
  exact hne (hi.symm.trans hi')

/-- Nothing is accepted and nothing is settled. -/
theorem unconcerned {t' : Traffic β} {x : Occurrence} (h : Answered count t)
    (hx : accepted [x] = []) (hs : ∀ i job v, x ≠ .settled i job v)
    (hhistory : t'.history = t.history ++ [x]) (hacks : t'.acknowledgements = t.acknowledgements)
    (hnext : t.pool.next ≤ t'.pool.next)
    (halive : ∀ i, (t'.pool.worker i).isAlive = (t.pool.worker i).isAlive)
    (hheld : ∀ i, (t'.pool.worker i).held = (t.pool.worker i).held) : Answered count t' := by
  have ha : accepted t'.history = accepted t.history := by
    simp only [hhistory, accepted, List.filterMap_append]
    simpa [accepted] using hx
  have haf (i : Nat) : acceptedFor count i t'.history = acceptedFor count i t.history := by
    simp only [acceptedFor, ha]
  have hmem (i : Nat) (job : Job) (v : Verdict) :
      .settled i job v ∈ t'.history ↔ .settled i job v ∈ t.history := by
    rw [hhistory, Occurrence.settled_mem_append_one]
    simp only [hs, or_false]
  refine ⟨?_, ?_, ?_, ?_, ?_, ?_, ?_⟩
  · rw [ha]
    exact h.distinct
  · rw [ha]
    exact fun job hj => Nat.lt_of_lt_of_le (h.below job hj) hnext
  · intro i job v hv
    rw [hacks]
    exact h.told i job v ((hmem i job v).mp hv)
  · intro i hd job hj hn
    rw [hacks]
    refine h.lost i ((halive i).symm.trans hd) job (haf i ▸ hj) ?_
    simpa only [mem_finishedBy, hmem] using hn
  · intro i job hj
    rw [hacks]
    exact h.pending i job (hheld i ▸ hj)
  · rw [hacks]
    exact fun a ha => Nat.lt_of_lt_of_le (h.known a ha) hnext
  · rw [hacks]
    exact h.once

section Queued

variable (h : Answered count t) (ho : Ordered count t) (topic : String) (m : Message)
  (hw : (t.pool.worker (t.pool.shard m.key)).isAlive = true)
include h

theorem distinct_queued :
    ((accepted t.history ++ [(⟨t.pool.next, topic, m⟩ : Job)]).map Job.number).Nodup := by
  rw [List.map_append]
  refine List.nodup_append.mpr ⟨h.distinct, List.nodup_singleton _, ?_⟩
  intro n hn n' hn'
  obtain ⟨job, hj, rfl⟩ := List.mem_map.mp hn
  rw [List.mem_singleton.mp hn']
  exact Nat.ne_of_lt (h.below job hj)

include hw in
theorem pending_queued (i : Nat) {job : Job}
    (hj : job ∈ ((t.pool.counted.setWorker (t.pool.shard m.key)
      { t.pool.worker (t.pool.shard m.key) with
        queue := (t.pool.worker (t.pool.shard m.key)).queue ++
          [⟨t.pool.next, topic, m⟩] }).worker i).held) :
    ∀ a ∈ t.acknowledgements, a.number ≠ job.number := by
  have hl : t.pool.shard m.key < t.pool.counted.workers.length := Pool.lt_of_alive hw
  by_cases hi : t.pool.shard m.key = i
  · subst hi
    rw [Pool.worker_setWorker_self _ hl, Worker.held, ← List.append_assoc, List.mem_append,
      List.mem_singleton] at hj
    rcases hj with hj | rfl
    · exact h.pending _ job hj
    · exact fun a ha => Nat.ne_of_lt (h.known a ha)
  · rw [Pool.worker_setWorker_other _ _ hi] at hj
    exact h.pending i job hj

include ho hw in
theorem queued :
    let w := t.pool.worker (t.pool.shard m.key)
    Answered count (t.answered topic m (t.pool.counted.setWorker (t.pool.shard m.key)
      { w with queue := w.queue ++ [⟨t.pool.next, topic, m⟩] }, .ok t.pool.next)) := by
  intro w
  have hl : t.pool.shard m.key < t.pool.counted.workers.length := Pool.lt_of_alive hw
  have hshard : Pool.shardOf count m.key = t.pool.shard m.key := by rw [← ho.workers, Pool.shard]
  have ha : accepted (t.history ++ [.answered topic m (.ok t.pool.next)]) =
      accepted t.history ++ [⟨t.pool.next, topic, m⟩] := by
    simp [accepted]
  have hmem (i : Nat) (job : Job) (v : Verdict) :
      .settled i job v ∈ t.history ++ [.answered topic m (.ok t.pool.next)] ↔
        .settled i job v ∈ t.history := by
    simp
  refine ⟨?_, ?_, ?_, ?_, ?_, ?_, h.once⟩
  · simp only [Traffic.answered, ha]
    exact h.distinct_queued topic m
  · intro job hj
    simp only [Traffic.answered, ha, List.mem_append, List.mem_singleton] at hj
    rcases hj with hj | rfl
    · exact Nat.lt_succ_of_lt (h.below job hj)
    · exact Nat.lt_succ_self _
  · intro i job v hv
    exact h.told i job v ((hmem i job v).mp hv)
  · intro i hd job hj hn
    have hi : t.pool.shard m.key ≠ i := by
      rintro rfl
      simp only [Traffic.answered, Pool.worker_setWorker_self _ hl] at hd
      exact Bool.false_ne_true (hd.symm.trans hw)
    simp only [Traffic.answered, Pool.worker_setWorker_other _ _ hi] at hd
    simp only [Traffic.answered, mem_acceptedFor, ha, List.mem_append, List.mem_singleton] at hj
    rcases hj with ⟨hj | rfl, hs⟩
    · refine h.lost i hd job (mem_acceptedFor.mpr ⟨hj, hs⟩) ?_
      simpa only [Traffic.answered, mem_finishedBy, hmem] using hn
    · exact absurd (hshard.symm.trans hs) hi
  · exact fun i job hj => h.pending_queued topic m hw i hj
  · exact fun a ha => Nat.lt_succ_of_lt (h.known a ha)

end Queued

theorem submit (h : Answered count t) (ho : Ordered count t) (topic : String) (m : Message) :
    Answered count (t.answered topic m (t.pool.submit topic m)) := by
  have hrefused (e : SubmissionError) :
      Answered count (t.answered topic m (t.pool.counted, .error e)) :=
    h.unconcerned (x := .answered topic m (.error e)) rfl (by simp) rfl rfl (Nat.le_succ _)
      (fun _ => rfl) fun _ => rfl
  rcases t.pool.submit_cases topic m with ⟨-, he⟩ | ⟨-, -, he⟩ | ⟨hw, -, he⟩
  · rw [he]
    exact hrefused _
  · rw [he]
    exact hrefused _
  · rw [he]
    exact h.queued ho topic m hw

section Settled

variable {i : Nat} {job : Job} (h : Answered count t) (ho : Ordered count t)
  (hc : (t.pool.worker i).current = some job) (v : Verdict)
include h ho hc

theorem lost_settled {j : Nat}
    (hd : ((t.pool.setWorker i ((t.pool.worker i).settle v job).1).worker j).isAlive = false)
    {job' : Job} (hj' : job' ∈ acceptedFor count j t.history)
    (hn : job' ∉ finishedBy j (t.history ++ [.settled i job v])) :
    ⟨job'.number, .error .closed⟩ ∈
      t.acknowledgements ++ ((t.pool.worker i).settle v job).2 := by
  have hw : (t.pool.worker i).isAlive = true := ho.alive_of_current hc
  rw [finishedBy_append, List.mem_append, not_or] at hn
  by_cases hj : i = j
  · subst hj
    rw [Pool.worker_setWorker_self _ (ho.lt_of_current hc)] at hd
    by_cases hv : v = .crashed
    · subst hv
      rw [ho.accepted_eq_finished_held hw, List.mem_append] at hj'
      have hheld := hj'.resolve_left hn.1
      exact List.mem_append_right _ (Worker.mem_settle_crashed hc hheld)
    · rw [Worker.settle_isAlive job _ hv] at hd
      exact absurd (hd.symm.trans hw) Bool.false_ne_true
  · rw [Pool.worker_setWorker_other _ _ hj] at hd
    exact List.mem_append_left _ (h.lost j hd job' hj' hn.1)

/-- The numbers that are answered now and those of the jobs that the worker keeps. -/
theorem settle_distinct :
    (((t.pool.worker i).settle v job).2.map Acknowledgement.number ++
      ((t.pool.worker i).settle v job).1.held.map Job.number).Nodup := by
  rw [Worker.settle_numbers v hc]
  exact h.held_distinct ho i

theorem pending_settled {j : Nat} {job' : Job}
    (hj' : job' ∈
      ((t.pool.setWorker i ((t.pool.worker i).settle v job).1).worker j).held)
    {a : Acknowledgement}
    (ha : a ∈ t.acknowledgements ++ ((t.pool.worker i).settle v job).2) :
    a.number ≠ job'.number := by
  obtain ⟨-, -, hdisjoint⟩ := List.nodup_append.mp (h.settle_distinct ho hc v)
  rw [List.mem_append] at ha
  by_cases hj : i = j
  · subst hj
    rw [Pool.worker_setWorker_self _ (ho.lt_of_current hc)] at hj'
    rcases ha with ha | ha
    · obtain ⟨j', hj'', hn⟩ := Worker.held_of_settle_held v hc hj'
      exact hn ▸ h.pending i j' hj'' a ha
    · exact hdisjoint _ (List.mem_map_of_mem ha) _ (List.mem_map_of_mem hj')
  · rw [Pool.worker_setWorker_other _ _ hj] at hj'
    rcases ha with ha | ha
    · exact h.pending j job' hj' a ha
    · obtain ⟨j', hj'', hn⟩ := Worker.held_of_settle_answer v hc ha
      exact hn ▸ h.held_number_ne ho hj'' hj' hj

theorem once_settled :
    ((t.acknowledgements ++ ((t.pool.worker i).settle v job).2).map
      Acknowledgement.number).Nodup := by
  obtain ⟨hnew, -, -⟩ := List.nodup_append.mp (h.settle_distinct ho hc v)
  rw [List.map_append]
  refine List.nodup_append.mpr ⟨h.once, hnew, ?_⟩
  intro n hn n' hn'
  obtain ⟨a, ha, rfl⟩ := List.mem_map.mp hn
  obtain ⟨a', ha', rfl⟩ := List.mem_map.mp hn'
  obtain ⟨j, hj, hjn⟩ := Worker.held_of_settle_answer v hc ha'
  exact hjn ▸ h.pending i j hj a ha

theorem settled (channel : β) :
    Answered count { t with
      pool := t.pool.setWorker i ((t.pool.worker i).settle v job).1
      channel
      history := t.history ++ [.settled i job v]
      acknowledgements := t.acknowledgements ++ ((t.pool.worker i).settle v job).2
      measurements := t.measurements ++ v.measurements job.topic } := by
  have ha : accepted (t.history ++ [.settled i job v]) = accepted t.history := by
    simp [accepted]
  refine ⟨?_, ?_, ?_, ?_, ?_, ?_, ?_⟩
  · rw [ha]
    exact h.distinct
  · rw [ha]
    exact h.below
  · intro j job' v' hs
    rw [Occurrence.settled_mem_append_one] at hs
    rcases hs with hs | hs
    · exact List.mem_append_left _ (h.told j job' v' hs)
    · obtain ⟨rfl, rfl, rfl⟩ := Occurrence.settled.inj hs
      exact List.mem_append_right _ (Worker.mem_settle v job _)
  · intro j hd job' hj' hn
    simp only [acceptedFor, ha] at hj'
    exact h.lost_settled ho hc v hd hj' hn
  · exact fun j job' hj' a hk => h.pending_settled ho hc v hj' hk
  · intro a hk
    rcases List.mem_append.mp hk with hk | hk
    · exact h.known a hk
    · obtain ⟨j, hj, hn⟩ := Worker.held_of_settle_answer v hc hk
      exact hn ▸ h.below j (mem_acceptedFor.mp ((ho.held_isSuffix i).subset hj)).1
  · exact h.once_settled ho hc v

end Settled

theorem work (h : Answered count t) (ho : Ordered count t) (i : Nat) :
    Answered count (t.step publish (.work i)) := by
  rcases t.work_cases publish i with he | ⟨job, queue, hw, he⟩ | ⟨job, v, channel, hc, -, he⟩
  · rw [he]
    exact h
  · have hi : i < t.pool.workers.length := Pool.lt_of_alive (by rw [hw])
    have hsame (j : Nat) : ((t.pool.setWorker i ⟨queue, some job, true⟩).worker j).isAlive =
          (t.pool.worker j).isAlive ∧
        ((t.pool.setWorker i ⟨queue, some job, true⟩).worker j).held =
          (t.pool.worker j).held := by
      by_cases hj : i = j
      · subst hj
        rw [Pool.worker_setWorker_self _ hi, hw]
        exact ⟨rfl, rfl⟩
      · rw [Pool.worker_setWorker_other _ _ hj]
        exact ⟨rfl, rfl⟩
    rw [he]
    exact h.unconcerned (x := .offered i job) rfl (by simp) rfl rfl (Nat.le_refl _)
      (fun j => (hsame j).1) fun j => (hsame j).2
  · rw [he]
    exact h.settled ho hc v channel

theorem step (h : Answered count t) (ho : Ordered count t) (a : Action β) :
    Answered count (t.step publish a) := by
  cases a with
  | submit topic m =>
    simp only [Traffic.step]
    split
    · exact h.submit ho topic m
    · exact h
  | work i => exact h.work ho i
  | shift channel => exact ⟨h.distinct, h.below, h.told, h.lost, h.pending, h.known, h.once⟩
  | drop n => exact ⟨h.distinct, h.below, h.told, h.lost, h.pending, h.known, h.once⟩
  | close => exact ⟨h.distinct, h.below, h.told, h.lost, h.pending, h.known, h.once⟩

theorem run (h : Answered count t) (ho : Ordered count t) (actions : List (Action β)) :
    Ordered count (t.run publish actions) ∧ Answered count (t.run publish actions) :=
  Traffic.run_induction (P := fun t => Ordered count t ∧ Answered count t) ⟨ho, h⟩
    (fun _ a ht => ⟨ht.1.step a, ht.2.step ht.1 a⟩) actions

/-- A job that was accepted is held by its worker or something has become of it. -/
theorem held_or_fate {i : Nat} {job : Job} (ho : Ordered count t)
    (hj : job ∈ acceptedFor count i t.history) :
    job ∈ (t.pool.worker i).held ∨ ∃ r, Fate t i job r := by
  by_cases hf : job ∈ finishedBy i t.history
  · obtain ⟨v, hv, hs⟩ := mem_finishedBy.mp hf
    cases v with
    | accepted => exact .inr ⟨_, .accepted hs⟩
    | refused e => exact .inr ⟨_, .refused hs⟩
    | crashed => exact absurd rfl hv
  · cases hw : (t.pool.worker i).isAlive with
    | true =>
      rw [ho.accepted_eq_finished_held hw, List.mem_append] at hj
      exact .inl (hj.resolve_left hf)
    | false => exact .inr ⟨_, .lost hw hf⟩

theorem answer_of_fate {i : Nat} {job : Job} {r : Except SubmissionError Unit}
    (h : Answered count t) (hj : job ∈ acceptedFor count i t.history) (hr : Fate t i job r) :
    ⟨job.number, r⟩ ∈ t.acknowledgements := by
  cases hr with
  | accepted hs => exact h.told i job _ hs
  | refused hs => exact h.told i job _ hs
  | lost hd hf => exact h.lost i hd job hj hf

theorem not_answered_of_held {i : Nat} {job : Job} (h : Answered count t)
    (hj : job ∈ (t.pool.worker i).held) :
    t.acknowledgements.find? (fun a => a.number == job.number) = none := by
  simpa [List.find?_eq_none] using h.pending i job hj

/-- What the answer to a submission is found to be. -/
theorem find?_eq_some_iff {n : Nat} {r : Except SubmissionError Unit} (h : Answered count t) :
    t.acknowledgements.find? (fun a => a.number == n) = some ⟨n, r⟩ ↔
      ⟨n, r⟩ ∈ t.acknowledgements := by
  constructor
  · exact List.mem_of_find?_eq_some
  · intro hm
    cases hf : t.acknowledgements.find? (fun a => a.number == n) with
    | none => exact absurd (beq_self_eq_true n) (by simpa using List.find?_eq_none.mp hf _ hm)
    | some a =>
      have hn : a.number = n := by simpa using List.find?_some hf
      have heq := List.inj_on_of_nodup_map h.once (List.mem_of_find?_eq_some hf) hm hn
      rw [heq]

end Answered

end AggregateGateway.Publish
