import AggregateGateway.Proofs.Gateway.Outcome

/-! Creating an aggregate while the pool is at work. The messages are queued one after the other up
to the first refusal; what was queued is published in its turn, whatever the caller is told; and
what the caller is told is the first failure in the order of the messages. -/

namespace AggregateGateway

open Catalog
open Publish

/-! ### Queueing a batch -/

section Queueing

variable {β : Type}

def submissions (topics : Topics) (batch : List Dispatch) : List (Action β) :=
  batch.map fun x => .submit (topics.of x.service) x.message

/-- The jobs of a batch whose submissions are numbered from `next` on. -/
def jobsFrom (topics : Topics) (next : Nat) (batch : List Dispatch) : List Job :=
  (batch.zipIdx next).map fun (x, n) => ⟨n, topics.of x.service, x.message⟩

/-- The submission of a job that was accepted. -/
def jobAnswered (job : Job) : Occurrence :=
  .answered job.topic job.message (.ok job.number)

/-- How queueing a batch can go: which jobs are queued, how the submissions are answered, and what
is known of them in the end. -/
inductive Queueing (topics : Topics) (next : Nat) (batch : List Dispatch) :
    List Job → List Occurrence → Except SubmissionError (List Nat) → Prop where
  | all :
    Queueing topics next batch (jobsFrom topics next batch)
      ((jobsFrom topics next batch).map jobAnswered)
      (.ok ((jobsFrom topics next batch).map Job.number))
  | refused {queued rest : List Dispatch} {x : Dispatch} {e : SubmissionError}
    (hbatch : batch = queued ++ x :: rest)
    (he : e = .closed ∨ e = .queueFull (topics.of x.service)) :
    Queueing topics next batch (jobsFrom topics next queued)
      ((jobsFrom topics next queued).map jobAnswered ++
        [.answered (topics.of x.service) x.message (.error e)])
      (.error e)

namespace Queueing

variable {topics : Topics} {next : Nat} {batch : List Dispatch} {jobs : List Job}
  {answers : List Occurrence} {numbers : Except SubmissionError (List Nat)}

theorem cons (h : Queueing topics (next + 1) batch jobs answers numbers) (x : Dispatch) :
    let job : Job := ⟨next, topics.of x.service, x.message⟩
    Queueing topics next (x :: batch) (job :: jobs) (jobAnswered job :: answers)
      (numbers.map (next :: ·)) := by
  intro job
  cases h with
  | all => exact .all
  | @refused queued rest y e hbatch he =>
    have hcons : x :: batch = (x :: queued) ++ y :: rest := by rw [hbatch, List.cons_append]
    exact .refused hcons he

/-- What is queued is the front of the batch. -/
theorem queued_isPrefix (h : Queueing topics next batch jobs answers numbers) :
    ∃ queued, queued <+: batch ∧ jobs = jobsFrom topics next queued := by
  cases h with
  | all => exact ⟨batch, List.prefix_rfl, rfl⟩
  | @refused queued rest x e hbatch he => exact ⟨queued, ⟨x :: rest, hbatch.symm⟩, rfl⟩

theorem accepted_answers (h : Queueing topics next batch jobs answers numbers) :
    accepted answers = jobs := by
  have hmap (jobs : List Job) : accepted (jobs.map jobAnswered) = jobs := by
    simp [accepted, List.filterMap_map, Function.comp_def, jobAnswered]
  cases h with
  | all => exact hmap _
  | refused hbatch he =>
    rw [accepted, List.filterMap_append]
    exact (congrArg (· ++ []) (hmap _)).trans (List.append_nil _)

theorem message_mem {job : Job} (h : Queueing topics next batch jobs answers numbers)
    (hj : job ∈ jobs) : ∃ x ∈ batch, x.message = job.message := by
  obtain ⟨queued, hqueued, rfl⟩ := h.queued_isPrefix
  simp only [jobsFrom, List.mem_map, Prod.exists] at hj
  obtain ⟨x, n, hx, rfl⟩ := hj
  exact ⟨x, hqueued.subset (List.fst_mem_of_mem_zipIdx hx), rfl⟩

theorem next_le {job : Job} (h : Queueing topics next batch jobs answers numbers)
    (hj : job ∈ jobs) : next ≤ job.number := by
  obtain ⟨queued, hqueued, rfl⟩ := h.queued_isPrefix
  simp only [jobsFrom, List.mem_map, Prod.exists] at hj
  obtain ⟨x, n, hx, rfl⟩ := hj
  exact List.le_snd_of_mem_zipIdx hx

end Queueing

/-- A submission takes the next number, also when it is refused. -/
theorem submit_answer (p : Pool) (topic : String) (m : Message) :
    (p.submit topic m).1.next = p.next + 1 ∧
      ((p.submit topic m).2 = .ok p.next ∨
        ∃ e, (e = .closed ∨ e = .queueFull topic) ∧ (p.submit topic m).2 = .error e) := by
  rcases p.submit_cases topic m with ⟨-, he⟩ | ⟨-, -, he⟩ | ⟨-, -, he⟩
  · exact ⟨by rw [he]; rfl, .inr ⟨.closed, .inl rfl, by rw [he]⟩⟩
  · exact ⟨by rw [he]; rfl, .inr ⟨.queueFull topic, .inr rfl, by rw [he]⟩⟩
  · exact ⟨by rw [he]; rfl, .inl (by rw [he])⟩

theorem queueAll_cons_queued {topics : Topics} {x : Dispatch} {p : Pool} {n : Nat}
    (batch : List Dispatch) (h : (p.submit (topics.of x.service) x.message).2 = .ok n) :
    (queueAll topics (x :: batch) p).1 =
        (queueAll topics batch (p.submit (topics.of x.service) x.message).1).1 ∧
      (queueAll topics (x :: batch) p).2.2 =
        (queueAll topics batch (p.submit (topics.of x.service) x.message).1).2.2.map (n :: ·) := by
  simp only [queueAll, h, and_self]

theorem queueAll_cons_refused {topics : Topics} {x : Dispatch} {p : Pool} {e : SubmissionError}
    (batch : List Dispatch) (h : (p.submit (topics.of x.service) x.message).2 = .error e) :
    (queueAll topics (x :: batch) p).1 = (p.submit (topics.of x.service) x.message).1 ∧
      (queueAll topics (x :: batch) p).2.2 = .error e := by
  simp only [queueAll, h, and_self]

/-- Queueing a batch is a run of submissions. -/
theorem queueAll_run (publish : Publishing β) (topics : Topics) (batch : List Dispatch)
    {t : Traffic β} (hopen : t.isOpen = true) :
    ∃ sent jobs answers, sent <+: submissions topics batch ∧
      Queueing topics t.pool.next batch jobs answers (queueAll topics batch t.pool).2.2 ∧
      (t.run publish sent).pool = (queueAll topics batch t.pool).1 ∧
      (t.run publish sent).channel = t.channel ∧
      (t.run publish sent).acknowledgements = t.acknowledgements ∧
      (t.run publish sent).history = t.history ++ answers := by
  induction batch generalizing t with
  | nil => exact ⟨[], [], [], List.nil_prefix, .all, rfl, rfl, rfl, (List.append_nil _).symm⟩
  | cons x batch ih =>
    let submission : Action β := .submit (topics.of x.service) x.message
    let next := t.answered (topics.of x.service) x.message
      (t.pool.submit (topics.of x.service) x.message)
    have hrun (later : List (Action β)) :
        t.run publish (submission :: later) = next.run publish later := by
      rw [Traffic.run_cons]
      simp only [submission, Traffic.step, hopen, if_true, next]
    obtain ⟨hnext, hanswer⟩ := submit_answer t.pool (topics.of x.service) x.message
    rcases hanswer with hanswer | ⟨e, he, hanswer⟩
    · obtain ⟨sent, jobs, answers, hsent, hq, hpool, hchannel, hacks, hhistory⟩ :=
        ih (t := next) hopen
      obtain ⟨hall, hnumbers⟩ := queueAll_cons_queued batch hanswer
      let job : Job := ⟨t.pool.next, topics.of x.service, x.message⟩
      refine ⟨submission :: sent, job :: jobs, jobAnswered job :: answers,
        (List.prefix_cons_inj _).mpr hsent, ?_, ?_, ?_, ?_, ?_⟩
      · rw [hnumbers]
        exact Queueing.cons (hnext ▸ hq) x
      · rw [hrun, hpool, hall]
        rfl
      · rw [hrun, hchannel]
        rfl
      · rw [hrun, hacks]
        rfl
      · rw [hrun, hhistory]
        simp [next, Traffic.answered, hanswer, jobAnswered, job]
    · obtain ⟨hall, hnumbers⟩ := queueAll_cons_refused batch hanswer
      refine ⟨[submission], [], [.answered (topics.of x.service) x.message (.error e)],
        (List.prefix_cons_inj _).mpr List.nil_prefix, ?_, ?_, ?_, ?_, ?_⟩
      · rw [hnumbers]
        have hfirst : x :: batch = [] ++ x :: batch := rfl
        exact .refused hfirst he
      · rw [hrun, hall]
        rfl
      · rw [hrun]
        rfl
      · rw [hrun]
        rfl
      · rw [hrun]
        simp [next, Traffic.run, Traffic.answered, hanswer]

end Queueing

/-! ### What is known of a write -/

/-- The result of a write whose submissions were answered like this, when its receipts are joined
in a certain way. -/
def writeResult (join : List Nat → List Acknowledgement → Option (Except SubmissionError Unit))
    (numbers : Except SubmissionError (List Nat)) (acks : List Acknowledgement) :
    Option (Except Failure Unit) :=
  let result : Option (Except SubmissionError Unit) := match numbers with
    | .error e => some (.error e)
    | .ok ns => join ns acks
  result.map fun r => r.mapError submissionFailure

section Joined

variable {β : Type} {count i next : Nat} {t : Traffic β} {jobs : List Job}
  {numbers : Except SubmissionError (List Nat)}

theorem writeResult_eq_ok_iff {ns : List Nat} {acks : List Acknowledgement} :
    writeResult outcome (.ok ns) acks = some (.ok ()) ↔ outcome ns acks = some (.ok ()) := by
  simp only [writeResult]
  rcases outcome ns acks with _ | _ | _ <;> simp [Except.mapError]

theorem writeResult_eq_error_iff {ns : List Nat} {acks : List Acknowledgement} {f : Failure} :
    writeResult outcome (.ok ns) acks = some (.error f) ↔
      ∃ e, f = submissionFailure e ∧ outcome ns acks = some (.error e) := by
  simp only [writeResult]
  rcases outcome ns acks with _ | _ | _ <;> simp [Except.mapError, eq_comm]

theorem writeResult_eq_none_iff {ns : List Nat} {acks : List Acknowledgement} :
    writeResult outcome (.ok ns) acks = none ↔ outcome ns acks = none := by
  simp only [writeResult, Option.map_eq_none_iff]

/-- A write at any moment after its submissions, which gave `numbers`: its jobs are published in
their turn, and its result depends on what has become of them. -/
structure Joined (i : Nat) (jobs : List Job) (numbers : Except SubmissionError (List Nat))
    (t : Traffic β) : Prop where
  inTurn : InTurn i jobs t
  refused : ∀ e, numbers = .error e →
    writeResult outcome numbers t.acknowledgements = some (.error (submissionFailure e))
  succeeded : writeResult outcome numbers t.acknowledgements = some (.ok ()) ↔
    numbers.isOk = true ∧ ∀ job ∈ jobs, .settled i job .accepted ∈ t.history
  failed : numbers.isOk = true → ∀ f,
    (writeResult outcome numbers t.acknowledgements = some (.error f) ↔
      ∃ e, f = submissionFailure e ∧ AcceptedUpTo t i jobs fun job => Fate t i job (.error e))
  pending : writeResult outcome numbers t.acknowledgements = none ↔
    numbers.isOk = true ∧ AcceptedUpTo t i jobs (· ∈ (t.pool.worker i).held)
  eager : writeResult eagerOutcome numbers t.acknowledgements =
    writeResult outcome numbers t.acknowledgements

theorem fate_ok_iff {job : Job} :
    Fate t i job (.ok ()) ↔ .settled i job .accepted ∈ t.history := by
  constructor
  · rintro ⟨h⟩
    exact h
  · exact .accepted

/-- Nothing is joined after a refusal. -/
theorem Joined.of_refused (hturn : InTurn i jobs t) (e : SubmissionError) :
    Joined i jobs (.error e) t := by
  refine ⟨hturn, ?_, ?_, ?_, ?_, rfl⟩
  · rintro _ ⟨⟩
    rfl
  · simp [writeResult, Except.mapError, Except.isOk, Except.toBool]
  · simp [Except.isOk, Except.toBool]
  · simp [writeResult, Except.isOk, Except.toBool]

theorem Joined.of_queued (h : Answered count t) (ho : Ordered count t)
    (hjobs : jobs <:+: acceptedFor count i t.history) :
    Joined i jobs (.ok (jobs.map Job.number)) t := by
  have hmem : ∀ job ∈ jobs, job ∈ acceptedFor count i t.history := fun _ hj => hjobs.subset hj
  refine ⟨h.inTurn ho hjobs, nofun, ?_, ?_, ?_, ?_⟩
  · rw [writeResult_eq_ok_iff, outcome_eq_ok_iff h ho hmem]
    simp only [fate_ok_iff, Except.isOk, Except.toBool, true_and]
  · intro _ f
    simp only [writeResult_eq_error_iff, outcome_eq_error_iff h ho hmem]
  · rw [writeResult_eq_none_iff, outcome_eq_none_iff h ho hmem]
    simp only [Except.isOk, Except.toBool, true_and]
  · simp only [writeResult, eagerOutcome_eq_outcome_of_isInfix h ho hjobs]

theorem Queueing.joined {topics : Topics} {batch : List Dispatch} {answers : List Occurrence}
    (hq : Queueing topics next batch jobs answers numbers) (h : Answered count t)
    (ho : Ordered count t) (hjobs : jobs <:+: acceptedFor count i t.history) :
    Joined i jobs numbers t := by
  cases hq with
  | all => exact .of_queued h ho hjobs
  | refused => exact .of_refused (h.inTurn ho hjobs) _

/-- Once its worker has stopped, a write has a result. -/
theorem Joined.of_stopped (h : Joined i jobs numbers t) (ho : Ordered count t)
    (hstopped : (t.pool.worker i).isAlive = false ∨
      ((t.pool.worker i).queue = [] ∧ (t.pool.worker i).current = none)) :
    writeResult outcome numbers t.acknowledgements ≠ none ∧
      (offeredOf jobs t.history = jobs ∨ (t.pool.worker i).isAlive = false) := by
  have hheld : (t.pool.worker i).held = [] := by
    rcases hstopped with hd | ⟨hq, hc⟩
    · rw [(ho.inOrder i).dead hd]
      rfl
    · rw [Worker.held, hq, hc]
      rfl
  refine ⟨?_, ?_⟩
  · intro hnone
    obtain ⟨-, first, job, rest, -, -, hmem⟩ := h.pending.mp hnone
    rw [hheld] at hmem
    exact absurd hmem List.not_mem_nil
  · rcases hstopped with hd | ⟨hq, -⟩
    · exact .inr hd
    · exact h.inTurn.all_offered hq

end Joined

/-! ### A write -/

section Write

variable {ι ρ κ β : Type}

/-- Acknowledgements of other submissions do not matter. -/
theorem outcome_of_others {ns : List Nat} {old : List Acknowledgement}
    (h : ∀ a ∈ old, ∀ n ∈ ns, a.number ≠ n) (acks : List Acknowledgement) :
    outcome ns (old ++ acks) = outcome ns acks := by
  induction ns with
  | nil => rfl
  | cons n ns ih =>
    have hold : old.find? (fun a => a.number == n) = none := by
      simpa using fun a ha => h a ha n List.mem_cons_self
    have ih := ih fun a ha m hm => h a ha m (List.mem_cons_of_mem _ hm)
    simp only [outcome, List.find?_append, hold, Option.none_or, ih]

theorem Queueing.writeResult_of_others {topics : Topics} {next : Nat} {batch : List Dispatch}
    {jobs : List Job} {answers : List Occurrence} {numbers : Except SubmissionError (List Nat)}
    (hq : Queueing topics next batch jobs answers numbers) {old : List Acknowledgement}
    (hold : ∀ a ∈ old, a.number < next) (acks : List Acknowledgement) :
    writeResult outcome numbers (old ++ acks) = writeResult outcome numbers acks := by
  cases hq with
  | refused => rfl
  | all =>
    have hothers : ∀ a ∈ old, ∀ n ∈ (jobsFrom topics next batch).map Job.number,
        a.number ≠ n := by
      intro a ha n hn
      obtain ⟨job, hj, rfl⟩ := List.mem_map.mp hn
      exact Nat.ne_of_lt (Nat.lt_of_lt_of_le (hold a ha) (Queueing.all.next_le hj))
    simp only [writeResult, outcome_of_others hothers]

/-- A write is a run of submissions followed by the turns of the workers. -/
theorem Gateway.write_run (d : Deployment ι ρ κ β) (batch : List Dispatch)
    (g₀ : Gateway ι ρ κ β) {count : Nat} {t : Traffic β} (hopen : t.isOpen = true)
    (h : Answered count t) :
    let g := { g₀ with pool := t.pool, channel := t.channel }
    let r := g.write d batch
    ∃ sent jobs answers numbers, sent <+: submissions d.settings.topics batch ∧
      Queueing d.settings.topics t.pool.next batch jobs answers numbers ∧
      let t₁ := t.run d.publish sent
      let t₂ := t₁.run d.publish (Pool.turns 0 t₁.pool.workers)
      t₁.history = t.history ++ answers ∧
        r.1 = writeResult outcome numbers t₂.acknowledgements ∧
        r.2.pool = t₂.pool ∧ r.2.channel = t₂.channel := by
  intro g r
  obtain ⟨sent, jobs, answers, hsent, hq, hpool, hchannel, hacks, hhistory⟩ :=
    queueAll_run d.publish d.settings.topics batch hopen
  refine ⟨sent, jobs, answers, _, hsent, hq, ?_⟩
  intro t₁ t₂
  obtain ⟨history, hturns⟩ := t₁.run_turns d.publish
  have ht₂ : t₂ = t₁.run d.publish (Pool.turns 0 t₁.pool.workers) := rfl
  rw [hturns] at ht₂
  refine ⟨hhistory, ?_, ?_, ?_⟩
  · rw [ht₂]
    simp only [t₁, hpool, hchannel, hacks]
    rw [hq.writeResult_of_others h.known]
    rfl
  · rw [ht₂]
    simp only [t₁, hpool, hchannel]
    rfl
  · rw [ht₂]
    simp only [t₁, hpool, hchannel]
    rfl

theorem Queueing.isInfix_acceptedFor {topics : Topics} {batch : List Dispatch} {key : String}
    {next count : Nat} {jobs : List Job} {history answers : List Occurrence}
    {numbers : Except SubmissionError (List Nat)}
    (hq : Queueing topics next batch jobs answers numbers)
    (hkey : ∀ x ∈ batch, x.message.key = key) :
    jobs <:+: acceptedFor count (Pool.shardOf count key) (history ++ answers) := by
  have hjobs : acceptedFor count (Pool.shardOf count key) answers = jobs := by
    rw [acceptedFor, hq.accepted_answers, List.filter_eq_self]
    intro job hj
    obtain ⟨x, hx, hm⟩ := hq.message_mem hj
    rw [← hm, hkey x hx, beq_self_eq_true]
  rw [acceptedFor_append, hjobs]
  exact (List.suffix_append _ _).isInfix

/-- What holds of a write whose messages have one key, in any state of the pool. -/
theorem Gateway.write_joined (d : Deployment ι ρ κ β) (batch : List Dispatch) {key : String}
    (hkey : ∀ x ∈ batch, x.message.key = key) (g₀ : Gateway ι ρ κ β) {count : Nat} {t : Traffic β}
    (hcount : 0 < count) (hopen : t.isOpen = true) (ho : Ordered count t) (h : Answered count t) :
    let g := { g₀ with pool := t.pool, channel := t.channel }
    let r := g.write d batch
    let i := Pool.shardOf count key
    ∃ sent jobs answers numbers, sent <+: submissions d.settings.topics batch ∧
      Queueing d.settings.topics t.pool.next batch jobs answers numbers ∧
      let t₁ := t.run d.publish sent
      let t₂ := t₁.run d.publish (Pool.turns 0 t₁.pool.workers)
      t₁.history = t.history ++ answers ∧
        (r.1 = writeResult outcome numbers t₂.acknowledgements ∧
          r.2.pool = t₂.pool ∧ r.2.channel = t₂.channel) ∧
        ((∀ job c, (d.publish job c).isSome = true) →
          r.1 ≠ none ∧
            (offeredOf jobs t₂.history = jobs ∨ (t₂.pool.worker i).isAlive = false)) ∧
        ∀ more,
          let u := t₁.run d.publish more
          let v := u.run d.publish (List.replicate (u.pool.worker i).stepLimit (.work i))
          Joined i jobs numbers u ∧
            (offeredOf jobs v.history = jobs ∨ (v.pool.worker i).isAlive = false ∨
              ∃ job, (v.pool.worker i).current = some job ∧ d.publish job v.channel = none) := by
  intro g r i
  obtain ⟨sent, jobs, answers, numbers, hsent, hq, hhistory, hresult, hpool, hchannel⟩ :=
    g₀.write_run d batch hopen h
  refine ⟨sent, jobs, answers, numbers, hsent, hq, ?_⟩
  intro t₁ t₂
  obtain ⟨ho₁, h₁⟩ : Ordered count t₁ ∧ Answered count t₁ := h.run ho sent
  have hrun (more : List (Action β)) :
      Ordered count (t₁.run d.publish more) ∧ Answered count (t₁.run d.publish more) :=
    h₁.run ho₁ more
  -- the jobs stand side by side in the history, and nothing that follows separates them
  have hjobs (more : List (Action β)) :
      jobs <:+: acceptedFor count i (t₁.run d.publish more).history := by
    have hnow : jobs <:+: acceptedFor count i t₁.history := by
      rw [hhistory]
      exact hq.isInfix_acceptedFor hkey
    exact hnow.trans (t₁.acceptedFor_isPrefix_run count i more).isInfix
  have hjoined (more : List (Action β)) : Joined i jobs numbers (t₁.run d.publish more) := by
    exact hq.joined (hrun more).2 (hrun more).1 (hjobs more)
  refine ⟨hhistory, ⟨hresult, hpool, hchannel⟩, ?_, ?_⟩
  · intro hanswers
    rw [hresult]
    exact (hjoined _).of_stopped (hrun _).1 (t₁.drained_turns hanswers i)
  · intro more u v
    refine ⟨hjoined more, ?_⟩
    have hi : i < u.pool.workers.length := by
      rw [(hrun more).1.workers]
      exact Nat.mod_lt _ hcount
    have hturn : Joined i jobs numbers v := by
      simpa only [v, u, ← Traffic.run_append] using
        hjoined (more ++ List.replicate (u.pool.worker i).stepLimit (.work i))
    rcases u.worker_stops d.publish hi with hd | ⟨hq, -⟩ | hwaits
    · exact .inr (.inl hd)
    · rcases hturn.inTurn.all_offered hq with hall | hd
      · exact .inl hall
      · exact .inr (.inl hd)
    · exact .inr (.inr hwaits)

/-! ### Creating an aggregate -/

/-- All messages of a creation are about the same item. -/
theorem mem_creation {clock : Time.Clock} {s : Spec} {x : Dispatch} (h : x ∈ creation clock s) :
    x.message.key = toString s.id.toInt ∧ x.message.kind = EventKind.create.name := by
  obtain ⟨draft, hdraft, t, rfl⟩ := clock.exists_of_mem_stamp _ h
  simp only [creationDrafts, Spec.ratingRecords, Spec.commentaryRecords, List.map_map,
    List.cons_append, List.mem_cons, List.mem_append, List.mem_map] at hdraft
  rcases hdraft with rfl | ⟨r, -, rfl⟩ | ⟨c, -, rfl⟩
  · exact ⟨rfl, rfl⟩
  · exact ⟨rfl, rfl⟩
  · exact ⟨rfl, rfl⟩

/-- A deployment of which only the channel matters. -/
def Deployment.ofChannel (settings : Settings) (publish : Publishing β) :
    Deployment Unit Unit Unit β where
  settings := settings
  items := fun _ _ u => (⟨0, .error (.notFound "")⟩, u)
  ratings := fun _ _ u => (⟨0, .ok []⟩, u)
  commentary := fun _ _ u => (⟨0, .ok []⟩, u)
  probe := fun _ => ⟨some 0, .ok ()⟩
  publish := publish
  showsMetrics := false

def dayBreak : Time.Instant :=
  ⟨⟨2024, 3, 9, by decide, by decide, by decide, by decide, by decide, by decide⟩, 0, 0,
    by decide, by decide, by decide⟩

/-- A clock that has gone on by a second at each look, over and over for one day. -/
def ticking : Time.Clock where
  look n := ⟨dayBreak.date, n % Time.secondsPerDay, 0, Nat.mod_lt _ (by decide), by decide,
    fun h => absurd h (by decide)⟩

/-- A creation with a bad id leaves everything as it is. Any other submits its messages in order up
to the first refusal, each stamped with what the clock shows just then, and what has been queued is
published in its turn. The result is the refusal, or else what the first job says that is not
accepted; a join that does not wait gives the same. -/
theorem Gateway.create_joined (d : Deployment ι ρ κ β) (clock : Time.Clock) (s : Spec)
    (g₀ : Gateway ι ρ κ β) (sizing : Sizing) (channel : β) (before : List (Action β))
    (hopen : ((Traffic.start sizing channel).run d.publish before).isOpen = true) :
    let t := (Traffic.start sizing channel).run d.publish before
    let g := { g₀ with pool := t.pool, channel := t.channel }
    let r := g.create d clock s
    let batch := creation clock s
    let i := Pool.shardOf sizing.workerCount (toString s.id.toInt)
    (s.id < firstItemId →
      r = (some (.error (.invalidInput ("Invalid itemId: " ++ toString s.id.toInt))), g)) ∧
    (firstItemId ≤ s.id →
      (∀ x ∈ batch, x.message.key = toString s.id.toInt ∧
        x.message.kind = EventKind.create.name) ∧
      ∃ sent jobs answers numbers, sent <+: submissions d.settings.topics batch ∧
        Queueing d.settings.topics t.pool.next batch jobs answers numbers ∧
        let t₁ := t.run d.publish sent
        let t₂ := t₁.run d.publish (Pool.turns 0 t₁.pool.workers)
        t₁.history = t.history ++ answers ∧
          (r.1 = writeResult outcome numbers t₂.acknowledgements ∧
            r.2.pool = t₂.pool ∧ r.2.channel = t₂.channel) ∧
          ((∀ job c, (d.publish job c).isSome = true) →
            r.1 ≠ none ∧
              (offeredOf jobs t₂.history = jobs ∨ (t₂.pool.worker i).isAlive = false)) ∧
          ∀ more,
            let u := t₁.run d.publish more
            let v := u.run d.publish (List.replicate (u.pool.worker i).stepLimit (.work i))
            Joined i jobs numbers u ∧
              (offeredOf jobs v.history = jobs ∨ (v.pool.worker i).isAlive = false ∨
                ∃ job, (v.pool.worker i).current = some job ∧
                  d.publish job v.channel = none)) := by
  intro t g r batch i
  refine ⟨?_, ?_⟩
  · intro hid
    simp only [r, create, checkId, hid, if_true]
  · intro hid
    have hr : r = g.write d batch := by
      simp only [r, create, checkId, Int32.not_lt.mpr hid, if_false, batch]
    have hkey : ∀ x ∈ batch, x.message.key = toString s.id.toInt :=
      fun x hx => (mem_creation hx).1
    obtain ⟨ho, h⟩ : Ordered sizing.workerCount t ∧ Answered sizing.workerCount t :=
      (Answered.start sizing channel).run (Ordered.start sizing channel) before
    refine ⟨fun x hx => mem_creation hx, ?_⟩
    rw [hr]
    exact Gateway.write_joined d batch hkey g₀ sizing.workerCount_pos hopen ho h

/-- The second of three messages is refused while an older one with the same key is still queued.
The clock goes on between the messages. -/
theorem Gateway.create_joined_second_refused :
    let d := Deployment.ofChannel (Config.ofVariables fun _ => none).settings
      (fun _ (vs : List Verdict) => vs.head?.map fun v => (v, vs.tail))
    let s : Spec := ⟨7, "lamp", 1, [⟨1, "ann", 5, "good"⟩], [⟨1, "bob", "lamps", "fine"⟩]⟩
    let t := (Traffic.start ⟨2, 10⟩
      [.accepted, .accepted, .refused (.transport "down"), .accepted]).run d.publish
        [.submit "items" ⟨"7", "DELETE", []⟩]
    let g₀ : Gateway Unit Unit Unit (List Verdict) := .start d.settings () () () []
    let g := { g₀ with pool := t.pool, channel := t.channel }
    let r := g.create d ticking s
    ticking.look 0 ≠ ticking.look 1 ∧ t.isOpen = true ∧ firstItemId ≤ s.id ∧
      r.1 = some (.error (.eventSubmission "Transport error: down")) ∧ r.2.channel = [] ∧
      ∃ (jobs : List Job) (answers : List Occurrence)
          (numbers : Except SubmissionError (List Nat)) (u : Traffic (List Verdict)),
        Queueing d.settings.topics t.pool.next (creation ticking s) jobs answers numbers ∧
          r.1 = writeResult outcome numbers u.acknowledgements ∧ r.2.pool = u.pool ∧
          Joined (Pool.shardOf 2 "7") jobs numbers u := by
  have h := Gateway.create_joined
    (Deployment.ofChannel (Config.ofVariables fun _ => none).settings
      (fun _ (vs : List Verdict) => vs.head?.map fun v => (v, vs.tail)))
    ticking ⟨7, "lamp", 1, [⟨1, "ann", 5, "good"⟩], [⟨1, "bob", "lamps", "fine"⟩]⟩
    (Gateway.start (Config.ofVariables fun _ => none).settings () () () []) ⟨2, 10⟩
    [.accepted, .accepted, .refused (.transport "down"), .accepted]
    [.submit "items" ⟨"7", "DELETE", []⟩] (by decide +kernel)
  dsimp only at h ⊢
  obtain ⟨-, sent, jobs, answers, numbers, -, hq, -, ⟨hresult, hpool, -⟩, -, hjoined⟩ :=
    h.2 (by decide)
  exact ⟨by decide, by decide +kernel, by decide, by decide +kernel, by decide +kernel, jobs,
    answers, numbers, _, hq, hresult, hpool, (hjoined _).1⟩

end Write

end AggregateGateway
