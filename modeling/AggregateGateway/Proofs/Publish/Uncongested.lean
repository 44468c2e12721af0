import AggregateGateway.Proofs.Publish.LoadedPool
import AggregateGateway.Proofs.Publish.QueuedJobs

/-! Queues with room for everything that is going to be submitted, workers that are alive, and a
channel that accepts everything. However submissions and steps of the workers alternate, all is
published. -/

namespace AggregateGateway.Publish

open Catalog (Message)

variable {β : Type} {publish : Publishing β} {keep : Job → β → β} {isWilling : β → Prop}
  {count first i : Nat} {t : Traffic β}

def Action.submission? : Action β → Option (String × Message)
  | .submit topic m => some (topic, m)
  | _ => none

/-- The pool stays open and the channel willing. -/
def Action.IsHarmless (isWilling : β → Prop) : Action β → Prop
  | .shift channel => isWilling channel
  | .close => False
  | _ => True

/-- The jobs of some submissions with numbers from `next` on. -/
def numbered (next : Nat) (messages : List (String × Message)) : List Job :=
  (messages.zipIdx next).map fun ((topic, m), n) => ⟨n, topic, m⟩

/-- All workers are alive, and no submission from `first` on has failed. -/
structure Healthy (isWilling : β → Prop) (count first : Nat) (t : Traffic β) : Prop where
  isOpen : t.isOpen = true
  willing : isWilling t.channel
  workers : t.pool.workers.length = count
  alive : ∀ i < count, (t.pool.worker i).isAlive = true
  successful : ∀ i job v, .settled i job v ∈ t.history → first ≤ job.number → v = .accepted

theorem Pool.alive_setWorker {p : Pool} {j : Nat} {w : Worker} (hi : i < p.workers.length)
    (hw : w.isAlive = true) (hj : (p.worker j).isAlive = true) :
    ((p.setWorker i w).worker j).isAlive = true := by
  by_cases hij : i = j
  · subst hij
    rw [worker_setWorker_self _ hi]
    exact hw
  · rw [worker_setWorker_other _ _ hij]
    exact hj

theorem Pool.lt_of_current {p : Pool} {job : Job} (h : (p.worker i).current = some job) :
    i < p.workers.length := by
  rcases Nat.lt_or_ge i p.workers.length with hlt | hge
  · exact hlt
  · simp [worker, List.getElem?_eq_none hge] at h

namespace Healthy

theorem submit (hs : Healthy isWilling count first t) (topic : String) (m : Message) :
    Healthy isWilling count first (t.answered topic m (t.pool.submit topic m)) := by
  have hsettled (answer : Except SubmissionError Nat) (i : Nat) (job : Job) (v : Verdict)
      (h : .settled i job v ∈ t.history ++ [.answered topic m answer])
      (hfirst : first ≤ job.number) : v = .accepted := by
    rw [Occurrence.settled_mem_append_one] at h
    exact hs.successful i job v (h.resolve_right nofun) hfirst
  rcases t.pool.submit_cases topic m with ⟨-, he⟩ | ⟨-, -, he⟩ | ⟨hw, -, he⟩
  · rw [he]
    exact ⟨hs.isOpen, hs.willing, hs.workers, hs.alive, hsettled _⟩
  · rw [he]
    exact ⟨hs.isOpen, hs.willing, hs.workers, hs.alive, hsettled _⟩
  · rw [he]
    refine ⟨hs.isOpen, hs.willing, ?_, ?_, hsettled _⟩
    · simpa [Traffic.answered] using hs.workers
    · intro j hj
      exact Pool.alive_setWorker (p := t.pool.counted) (Pool.lt_of_alive hw) hw (hs.alive j hj)

theorem work (h : Accepting publish keep isWilling) (hs : Healthy isWilling count first t)
    (i : Nat) : Healthy isWilling count first (t.step publish (.work i)) := by
  rcases t.work_cases publish i with he | ⟨job, queue, hw, he⟩ | ⟨job, v, channel, hc, hp, he⟩
  · rw [he]
    exact hs
  · have hi : i < t.pool.workers.length := Pool.lt_of_alive (by rw [hw])
    rw [he]
    refine ⟨hs.isOpen, hs.willing, by simpa using hs.workers, ?_, ?_⟩
    · intro j hj
      exact Pool.alive_setWorker hi rfl (hs.alive j hj)
    · intro j job' v' hm hfirst
      rw [Occurrence.settled_mem_append_one] at hm
      exact hs.successful j job' v' (hm.resolve_right nofun) hfirst
  · have hv := hp.symm.trans (h.accepts job t.channel hs.willing)
    simp only [Option.some.injEq, Prod.mk.injEq] at hv
    obtain ⟨rfl, rfl⟩ := hv
    have hi : i < t.pool.workers.length := Pool.lt_of_current hc
    rw [he]
    refine ⟨hs.isOpen, h.stays job _ hs.willing, by simpa using hs.workers, ?_, ?_⟩
    · intro j hj
      exact Pool.alive_setWorker hi (hs.alive i (hs.workers ▸ hi)) (hs.alive j hj)
    · intro j job' v' hm hfirst
      rw [Occurrence.settled_mem_append_one] at hm
      rcases hm with hm | hm
      · exact hs.successful j job' v' hm hfirst
      · exact (Occurrence.settled.inj hm).2.2.symm

theorem step (h : Accepting publish keep isWilling) (hs : Healthy isWilling count first t)
    {a : Action β} (ha : a.IsHarmless isWilling) :
    Healthy isWilling count first (t.step publish a) := by
  cases a with
  | submit topic m =>
    simp only [Traffic.step, hs.isOpen, if_true]
    exact hs.submit topic m
  | work i => exact hs.work h i
  | shift channel => exact ⟨hs.isOpen, ha, hs.workers, hs.alive, hs.successful⟩
  | drop n => exact ⟨hs.isOpen, hs.willing, hs.workers, hs.alive, hs.successful⟩
  | close => exact ha.elim

theorem run (h : Accepting publish keep isWilling) (hs : Healthy isWilling count first t)
    {actions : List (Action β)} (hharmless : ∀ a ∈ actions, a.IsHarmless isWilling) :
    Healthy isWilling count first (t.run publish actions) := by
  induction actions generalizing t with
  | nil => exact hs
  | cons a actions ih =>
    rw [List.forall_mem_cons] at hharmless
    exact ih (hs.step h hharmless.1) hharmless.2

/-- Nothing that is still to come has failed yet. -/
theorem of_alive (hanswered : Answered count t) (ho : Ordered count t) (hopen : t.isOpen = true)
    (hwilling : isWilling t.channel) (halive : ∀ i < count, (t.pool.worker i).isAlive = true) :
    Healthy isWilling count t.pool.next t := by
  refine ⟨hopen, hwilling, ho.workers, halive, ?_⟩
  intro i job v hm hnext
  have hknown := hanswered.known _ (hanswered.told i job v hm)
  exact absurd hnext (Nat.not_le.mpr hknown)

end Healthy

/-! ### Room in the queues -/

theorem numbered_cons (next : Nat) (topic : String) (m : Message)
    (messages : List (String × Message)) :
    numbered next ((topic, m) :: messages) =
      ⟨next, topic, m⟩ :: numbered (next + 1) messages := rfl

/-- A submission for which there is room is accepted. -/
theorem Healthy.accepted_submit (hs : Healthy isWilling count first t) (hcount : 0 < count)
    (topic : String) (m : Message)
    (hroom : ∀ i, (t.pool.worker i).queue.length < t.pool.capacity) :
    let next := t.answered topic m (t.pool.submit topic m)
    accepted next.history = accepted t.history ++ [⟨t.pool.next, topic, m⟩] ∧
      next.pool.next = t.pool.next + 1 ∧
      ∀ i, (next.pool.worker i).queue.length ≤ (t.pool.worker i).queue.length + 1 := by
  intro next
  have hshard : t.pool.shard m.key < t.pool.workers.length :=
    Nat.mod_lt _ (hs.workers.symm ▸ hcount)
  have halive := hs.alive _ (hs.workers ▸ hshard)
  have hcases := t.pool.submit_cases topic m
  rcases hcases with ⟨hdead, -⟩ | ⟨-, hfull, -⟩ | ⟨-, -, he⟩
  · exact absurd (hdead.symm.trans halive) Bool.false_ne_true
  · exact absurd hfull (Nat.not_le.mpr (hroom _))
  · simp only [next, Traffic.answered, he]
    refine ⟨by simp [accepted], rfl, ?_⟩
    intro i
    by_cases hi : t.pool.shard m.key = i
    · subst hi
      have hl : t.pool.shard m.key < t.pool.counted.workers.length := hshard
      have hqueue := Pool.worker_setWorker_self
        { t.pool.worker (t.pool.shard m.key) with
          queue := (t.pool.worker (t.pool.shard m.key)).queue ++ [⟨t.pool.next, topic, m⟩] } hl
      simp only [hqueue, List.length_append, List.length_singleton, Nat.le_refl]
    · rw [Pool.worker_setWorker_other _ _ hi, Pool.counted_worker]
      exact Nat.le_succ _

theorem Traffic.work_accepts_nothing (publish : Publishing β) (t : Traffic β) (i : Nat) :
    let next := t.step publish (.work i)
    accepted next.history = accepted t.history ∧ next.pool.next = t.pool.next ∧
      ∀ j, (next.pool.worker j).queue.length ≤ (t.pool.worker j).queue.length := by
  intro next
  have hset (hi : i < t.pool.workers.length) {w : Worker}
      (hw : w.queue.length ≤ (t.pool.worker i).queue.length) (j : Nat) :
      ((t.pool.setWorker i w).worker j).queue.length ≤ (t.pool.worker j).queue.length := by
    by_cases hij : i = j
    · subst hij
      rw [Pool.worker_setWorker_self _ hi]
      exact hw
    · exact Nat.le_of_eq (by rw [Pool.worker_setWorker_other _ _ hij])
  rcases t.work_cases publish i with he | ⟨job, queue, hw, he⟩ | ⟨job, v, channel, hc, -, he⟩
  · have hnext : next = t := he
    rw [hnext]
    exact ⟨rfl, rfl, fun _ => Nat.le_refl _⟩
  · have hi : i < t.pool.workers.length := Pool.lt_of_alive (by rw [hw])
    simp only [next, he]
    refine ⟨by simp [accepted], rfl, hset hi ?_⟩
    rw [hw]
    exact Nat.le_succ _
  · simp only [next, he]
    refine ⟨by simp [accepted], rfl, hset (Pool.lt_of_current hc) ?_⟩
    cases v with
    | accepted | refused e => exact Nat.le_refl _
    | crashed => exact Nat.zero_le _

/-- With room for all submissions in every queue, none is refused. -/
theorem Healthy.accepted_run (h : Accepting publish keep isWilling)
    (hs : Healthy isWilling count first t) (hcount : 0 < count) {actions : List (Action β)}
    (hharmless : ∀ a ∈ actions, a.IsHarmless isWilling)
    (hroom : ∀ i, (t.pool.worker i).queue.length +
      (actions.filterMap Action.submission?).length ≤ t.pool.capacity) :
    accepted (t.run publish actions).history =
      accepted t.history ++ numbered t.pool.next (actions.filterMap Action.submission?) := by
  -- each submission takes a place and is one less to come, so the sum in `hroom` never grows
  induction actions generalizing t with
  | nil => exact (List.append_nil _).symm
  | cons a actions ih =>
    rw [List.forall_mem_cons] at hharmless
    have hs' := hs.step h hharmless.1
    have hcapacity : (t.step publish a).pool.capacity = t.pool.capacity := t.capacity_step a
    rw [Traffic.run_cons]
    cases a with
    | submit topic m =>
      have hstep : t.step publish (.submit topic m) =
          t.answered topic m (t.pool.submit topic m) := by
        simp only [Traffic.step, hs.isOpen, if_true]
      rw [hstep] at hs' hcapacity ⊢
      have hmessages : (Action.submit topic m :: actions).filterMap Action.submission? =
          (topic, m) :: actions.filterMap Action.submission? := rfl
      simp only [hmessages, List.length_cons] at hroom ⊢
      obtain ⟨haccepted, hnext, hlength⟩ := hs.accepted_submit hcount topic m fun i => by
        have := hroom i
        omega
      rw [ih hs' hharmless.2 fun i => ?_, haccepted, hnext, numbered_cons, List.append_assoc,
        List.singleton_append]
      have := hroom i
      have := hlength i
      omega
    | work i =>
      obtain ⟨haccepted, hnext, hlength⟩ := t.work_accepts_nothing publish i
      have hmessages : (Action.work i :: actions).filterMap Action.submission? =
          actions.filterMap Action.submission? := rfl
      simp only [hmessages] at hroom ⊢
      rw [ih hs' hharmless.2 fun j => ?_, haccepted, hnext]
      have := hroom j
      have := hlength j
      omega
    | shift channel => exact ih hs' hharmless.2 hroom
    | drop n => exact ih hs' hharmless.2 hroom
    | close => exact hharmless.1.elim

/-! ### Everything is published -/

/-- A worker that is let work until it stops has published all that it has accepted. -/
theorem Healthy.stopped (h : Accepting publish keep isWilling)
    (hs : Healthy isWilling count first t) (hi : i < count) :
    let u := t.run publish (List.replicate (t.pool.worker i).stepLimit (.work i))
    Healthy isWilling count first u ∧ (u.pool.worker i).held = [] := by
  intro u
  have hu : Healthy isWilling count first u := by
    refine hs.run h fun a ha => ?_
    obtain rfl := List.eq_of_mem_replicate ha
    trivial
  refine ⟨hu, ?_⟩
  rcases t.worker_stops publish (hs.workers.symm ▸ hi) with hd | ⟨hq, hc⟩ | ⟨job, -, hwaits⟩
  · exact absurd (hd.symm.trans (hu.alive i hi)) Bool.false_ne_true
  · simp only [Worker.held, u, hq, hc, Option.toList_none, List.append_nil]
  · have haccepted := h.accepts job _ hu.willing
    rw [hwaits] at haccepted
    cases haccepted

theorem Healthy.fate (hs : Healthy isWilling count first t) (hi : i < count) {job : Job}
    {r : Except SubmissionError Unit} (hfirst : first ≤ job.number) (hr : Fate t i job r) :
    Fate t i job (.ok ()) := by
  cases hr with
  | accepted hm => exact .accepted hm
  | refused hm => cases hs.successful i job _ hm hfirst
  | lost hd => exact absurd (hd.symm.trans (hs.alive i hi)) Bool.false_ne_true

end AggregateGateway.Publish
