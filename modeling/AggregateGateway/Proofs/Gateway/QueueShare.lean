import AggregateGateway.Proofs.Configuration.Validation
import AggregateGateway.Proofs.Gateway.Creation
import AggregateGateway.Proofs.Publish.Uncongested
import AggregateGateway.Publish.Archive

/-! How much of the queue capacity an aggregate can use. Its messages have one key and hence one
worker, and they are all queued before that worker begins. So an aggregate has to fit into the share
of a single worker, and what does not fit is refused even if the queues of all others are empty. -/

namespace AggregateGateway

open Catalog
open Publish

section Filling

variable (topics : Topics) (capacity : Nat) {count i : Nat}

theorem jobsFrom_cons (next : Nat) (x : Dispatch) (batch : List Dispatch) :
    jobsFrom topics next (x :: batch) =
      ⟨next, topics.of x.service, x.message⟩ :: jobsFrom topics (next + 1) batch := rfl

/-- As long as there is room, a batch is queued completely. -/
theorem queueAll_loaded (hi : i < count) (next : Nat) (jobs : List Job)
    {front : List Dispatch} (hkey : ∀ x ∈ front, Pool.shardOf count x.message.key = i)
    (later : List Dispatch) (hroom : jobs.length + front.length ≤ capacity) :
    let start := Pool.loaded capacity count i next jobs
    let filled := Pool.loaded capacity count i (next + front.length)
      (jobs ++ jobsFrom topics next front)
    (queueAll topics (front ++ later) start).1 = (queueAll topics later filled).1 ∧
      (queueAll topics (front ++ later) start).2.2 =
        (queueAll topics later filled).2.2.map
          ((jobsFrom topics next front).map Job.number ++ ·) := by
  induction front generalizing next jobs with
  | nil =>
    have hjobs : jobs ++ jobsFrom topics next [] = jobs := List.append_nil jobs
    simp only [hjobs, List.nil_append, List.length_nil, Nat.add_zero, true_and]
    rcases (queueAll topics later (Pool.loaded capacity count i next jobs)).2.2 with e | ns <;> rfl
  | cons x front ih =>
    rw [List.forall_mem_cons] at hkey
    rw [List.length_cons] at hroom
    have hsubmit := Pool.submit_loaded_of_lt capacity next jobs hkey.1 hi
      (topics.of x.service) (by omega)
    obtain ⟨hpool, hnumbers⟩ := queueAll_cons_queued (front ++ later) (congrArg Prod.snd hsubmit)
    rw [hsubmit] at hpool hnumbers
    obtain ⟨ihpool, ihnumbers⟩ := ih (next + 1)
      (jobs ++ [⟨next, topics.of x.service, x.message⟩]) hkey.2 (by simp; omega)
    have hfilled : Pool.loaded capacity count i (next + 1 + front.length)
        (jobs ++ [⟨next, topics.of x.service, x.message⟩] ++ jobsFrom topics (next + 1) front) =
          Pool.loaded capacity count i (next + (x :: front).length)
            (jobs ++ jobsFrom topics next (x :: front)) := by
      rw [jobsFrom_cons, List.append_assoc, List.singleton_append, List.length_cons]
      congr 1
      omega
    rw [hfilled] at ihpool ihnumbers
    refine ⟨hpool.trans ihpool, ?_⟩
    rw [List.cons_append, hnumbers, ihnumbers]
    rcases (queueAll topics later _).2.2 with e | ns <;> rfl

end Filling

/-- Nothing but success is known of any submission. -/
theorem outcome_of_successes {ns : List Nat} {acks : List Acknowledgement}
    (hok : ∀ a ∈ acks, a.result = .ok ()) (hall : ∀ n ∈ ns, ∃ a ∈ acks, a.number = n) :
    outcome ns acks = some (.ok ()) := by
  induction ns with
  | nil => rfl
  | cons n ns ih =>
    rw [List.forall_mem_cons] at hall
    obtain ⟨a, ha, hn⟩ := hall.1
    cases hf : acks.find? fun a => a.number == n with
    | none => exact absurd (List.find?_eq_none.mp hf a ha) (by simp [hn])
    | some a' =>
      simp only [outcome, hf, hok a' (List.mem_of_find?_eq_some hf)]
      exact ih hall.2

section Share

variable {ι ρ κ β : Type} {d : Deployment ι ρ κ β} {keep : Job → β → β} {isWilling : β → Prop}
  {g : Gateway ι ρ κ β} {capacity count i next : Nat}

namespace Gateway

theorem write_fitting (haccepting : Accepting d.publish keep isWilling)
    (hwilling : isWilling g.channel) (hpool : g.pool = .loaded capacity count i next [])
    (hi : i < count) {batch : List Dispatch}
    (hkey : ∀ x ∈ batch, Pool.shardOf count x.message.key = i) (hfits : batch.length ≤ capacity) :
    (g.write d batch).1 = some (.ok ()) ∧
      (g.write d batch).2.channel =
        kept keep (jobsFrom d.settings.topics next batch) g.channel := by
  obtain ⟨hqueued, hnumbers⟩ := queueAll_loaded d.settings.topics capacity hi next [] hkey []
    (by simpa using hfits)
  rw [List.append_nil, ← hpool, List.nil_append] at hqueued hnumbers
  have hrun := haccepting.run_loaded capacity hi (next + batch.length)
    (jobsFrom d.settings.topics next batch) hwilling
  simp only [queueAll] at hqueued hnumbers
  simp only [write, hqueued, hnumbers, hrun, and_true]
  simp only [Except.map, List.append_nil]
  rw [outcome_of_successes]
  · rfl
  · simp
  · simp

theorem write_overflowing (haccepting : Accepting d.publish keep isWilling)
    (hwilling : isWilling g.channel) (hpool : g.pool = .loaded capacity count i next [])
    (hi : i < count) {front rest : List Dispatch} {x : Dispatch}
    (hkey : ∀ y ∈ front ++ x :: rest, Pool.shardOf count y.message.key = i)
    (hfull : front.length = capacity) :
    (g.write d (front ++ x :: rest)).1 =
        some (.error (submissionFailure (.queueFull (d.settings.topics.of x.service)))) ∧
      (g.write d (front ++ x :: rest)).2.channel =
        kept keep (jobsFrom d.settings.topics next front) g.channel := by
  rw [List.forall_mem_append, List.forall_mem_cons] at hkey
  obtain ⟨hqueued, hnumbers⟩ := queueAll_loaded d.settings.topics capacity hi next [] hkey.1
    (x :: rest) (by simp [hfull])
  rw [← hpool, List.nil_append] at hqueued hnumbers
  have hlength : capacity ≤ (jobsFrom d.settings.topics next front).length := by
    simp [jobsFrom, hfull]
  have hsubmit := Pool.submit_loaded_of_le capacity (next + front.length) _ hkey.2.1 hi
    (d.settings.topics.of x.service) hlength
  obtain ⟨hrefused, herror⟩ := queueAll_cons_refused rest (congrArg Prod.snd hsubmit)
  rw [hrefused, hsubmit] at hqueued
  rw [herror] at hnumbers
  have hrun := haccepting.run_loaded capacity hi (next + front.length + 1)
    (jobsFrom d.settings.topics next front) hwilling
  simp only [write, hqueued, hnumbers, hrun, and_true]
  rfl

end Gateway

/-! ### Submissions that the workers do not wait for -/

theorem jobsFrom_eq_numbered (topics : Topics) (next : Nat) (batch : List Dispatch) :
    jobsFrom topics next batch =
      numbered next (batch.map fun x => (topics.of x.service, x.message)) := by
  induction batch generalizing next with
  | nil => rfl
  | cons x batch ih => rw [jobsFrom_cons, List.map_cons, numbered_cons, ih]

/-- With room for a batch in every queue it does not matter how its submissions and the steps of the
workers alternate. -/
theorem written_in_any_order {publish : Publishing β} {t : Traffic β} (topics : Topics)
    (haccepting : Accepting publish keep isWilling) (hs : Healthy isWilling count t.pool.next t)
    (h : Answered count t) (ho : Ordered count t) (hi : i < count) {batch : List Dispatch}
    (hkey : ∀ x ∈ batch, Pool.shardOf count x.message.key = i)
    (hroom : ∀ j, (t.pool.worker j).queue.length + batch.length ≤ t.pool.capacity)
    {actions : List (Action β)} (hharmless : ∀ a ∈ actions, a.IsHarmless isWilling)
    (hsubmissions : actions.filterMap Action.submission? =
      batch.map fun x => (topics.of x.service, x.message)) :
    let jobs := jobsFrom topics t.pool.next batch
    let u := t.run publish actions
    let v := u.run publish (List.replicate (u.pool.worker i).stepLimit (.work i))
    accepted u.history = accepted t.history ++ jobs ∧
      writeResult outcome (.ok (jobs.map Job.number)) v.acknowledgements = some (.ok ()) ∧
      ∀ job ∈ jobs, .settled i job .accepted ∈ v.history := by
  intro jobs u v
  have haccepted : accepted u.history = accepted t.history ++ jobs := by
    have hrun := hs.accepted_run haccepting (Nat.zero_lt_of_lt hi) hharmless
      (by simpa [hsubmissions] using hroom)
    rwa [hsubmissions, ← jobsFrom_eq_numbered] at hrun
  have hq : Queueing topics t.pool.next batch jobs (jobs.map jobAnswered)
      (.ok (jobs.map Job.number)) := .all
  have hu : Healthy isWilling count t.pool.next u := hs.run haccepting hharmless
  obtain ⟨hv, hheld⟩ := hu.stopped haccepting hi
  obtain ⟨hou, hau⟩ : Ordered count u ∧ Answered count u := h.run ho actions
  obtain ⟨hov, hav⟩ : Ordered count v ∧ Answered count v := hau.run hou _
  have hmem : ∀ job ∈ jobs, job ∈ acceptedFor count i v.history := by
    intro job hj
    apply (u.acceptedFor_isPrefix_run count i _).subset
    obtain ⟨x, hx, hm⟩ := hq.message_mem hj
    rw [mem_acceptedFor, haccepted, ← hm, hkey x hx]
    exact ⟨List.mem_append_right _ hj, rfl⟩
  have hfate : ∀ job ∈ jobs, Fate v i job (.ok ()) := by
    intro job hj
    rcases Answered.held_or_fate hov (hmem job hj) with hheld' | ⟨r, hr⟩
    · simp [v, hheld] at hheld'
    · exact hv.fate hi (hq.next_le hj) hr
  refine ⟨haccepted, ?_, fun job hj => fate_ok_iff.mp (hfate job hj)⟩
  rw [writeResult_eq_ok_iff, outcome_eq_ok_iff hav hov hmem]
  exact hfate

theorem Config.pool_of_valid {c : Config} (h : c.validate = .ok ()) :
    c.pool.workerCount = c.publisher.workers.toNat ∧
      c.pool.perWorker = (c.publisher.queueCapacity.toNat + c.publisher.workers.toNat - 1) /
        c.publisher.workers.toNat := by
  have hnonzero := (c.validate_eq_ok_iff.mp h).1
  have hworkers : 0 < c.publisher.workers.toNat :=
    UInt64.pos_iff_ne_zero.mpr (hnonzero ("PUBLISH_POOL_WORKERS", c.publisher.workers)
      (by simp [counts]))
  have hcapacity : 0 < c.publisher.queueCapacity.toNat :=
    UInt64.pos_iff_ne_zero.mpr (hnonzero ("PUBLISH_QUEUE_CAPACITY", c.publisher.queueCapacity)
      (by simp [counts]))
  have hcount : c.pool.workerCount = c.publisher.workers.toNat := Nat.max_eq_left hworkers
  have hshare : 0 < (c.publisher.queueCapacity.toNat + c.publisher.workers.toNat - 1) /
      c.publisher.workers.toNat := Nat.div_pos (by omega) hworkers
  refine ⟨hcount, ?_⟩
  rw [Sizing.perWorker, hcount]
  exact Nat.max_eq_left hshare

theorem length_creation (clock : Time.Clock) (s : Spec) :
    (creation clock s).length = 1 + s.ratings.length + s.commentary.length := by
  simp only [creation, creationDrafts, Time.Clock.length_stamp, Spec.ratingRecords,
    Spec.commentaryRecords, List.cons_append, List.length_cons, List.length_append,
    List.length_map]
  omega

/-- A configuration in which only the size of the pool is set. -/
def Config.ofPool (workers capacity : String) : Config :=
  .ofVariables fun name =>
    if name = "PUBLISH_POOL_WORKERS" then some workers
    else if name = "PUBLISH_QUEUE_CAPACITY" then some capacity
    else none

theorem Archive.accepting :
    Accepting Archive.publish
      (fun job a => { a with entries := a.entries ++ [(job.topic, job.message)] })
      (·.isRefusing = false) := by
  refine ⟨?_, ?_⟩
  · intro job a ha
    simp [Archive.publish, ha]
  · intro job a ha
    exact ha

/-- An idle pool and a channel that accepts everything create exactly the aggregates whose messages
fit into the share of one worker. Of a larger one only as much is published as fits. An aggregate
that fits is also created when the workers do not wait until all its messages are queued. Whatever
time the clock shows for each of the messages makes no difference to this. -/
theorem Gateway.create_within_share (c : Config) (hvalid : c.validate = .ok ())
    (d : Deployment ι ρ κ β) (haccepting : Accepting d.publish keep isWilling)
    (clock : Time.Clock) (s : Spec) (hid : firstItemId ≤ s.id) (g₀ : Gateway ι ρ κ β)
    (channel : β) (before : List (Action β))
    (hidle : ∀ w ∈ ((Traffic.start c.pool channel).run d.publish before).pool.workers, w = .idle)
    (hwilling : isWilling ((Traffic.start c.pool channel).run d.publish before).channel) :
    let t := (Traffic.start c.pool channel).run d.publish before
    let g := { g₀ with pool := t.pool, channel := t.channel }
    let r := g.create d clock s
    let share := (c.publisher.queueCapacity.toNat + c.publisher.workers.toNat - 1) /
      c.publisher.workers.toNat
    let published := fun batch => kept keep (jobsFrom d.settings.topics t.pool.next batch) t.channel
    (1 + s.ratings.length + s.commentary.length ≤ share →
      r.1 = some (.ok ()) ∧ r.2.channel = published (creation clock s)) ∧
    (∀ front x rest, creation clock s = front ++ x :: rest → front.length = share →
      r.1 = some (.error (submissionFailure (.queueFull (d.settings.topics.of x.service)))) ∧
        r.2.channel = published front) ∧
    (1 + s.ratings.length + s.commentary.length ≤ share → t.isOpen = true →
      ∀ actions : List (Action β), (∀ a ∈ actions, a.IsHarmless isWilling) →
        (actions.filterMap Action.submission? =
          (creation clock s).map fun x => (d.settings.topics.of x.service, x.message)) →
        let i := Pool.shardOf c.pool.workerCount (toString s.id.toInt)
        let jobs := jobsFrom d.settings.topics t.pool.next (creation clock s)
        let u := t.run d.publish actions
        let v := u.run d.publish (List.replicate (u.pool.worker i).stepLimit (.work i))
        accepted u.history = accepted t.history ++ jobs ∧
          writeResult outcome (.ok (jobs.map Job.number)) v.acknowledgements = some (.ok ()) ∧
          ∀ job ∈ jobs, .settled i job .accepted ∈ v.history) := by
  intro t g r share published
  obtain ⟨hcount, hshare⟩ := Config.pool_of_valid hvalid
  let i := Pool.shardOf c.pool.workerCount (toString s.id.toInt)
  have hi : i < c.pool.workerCount := Nat.mod_lt _ c.pool.workerCount_pos
  have hpool : g.pool = .loaded c.pool.perWorker c.pool.workerCount i t.pool.next [] :=
    Traffic.idle_pool c.pool channel before i hidle
  have hkey : ∀ x ∈ creation clock s, Pool.shardOf c.pool.workerCount x.message.key = i := by
    intro x hx
    rw [(mem_creation hx).1]
  have hr : r = g.write d (creation clock s) := by
    simp only [r, create, checkId, Int32.not_lt.mpr hid, if_false]
  have hlength (hfits : 1 + s.ratings.length + s.commentary.length ≤ share) :
      (creation clock s).length ≤ c.pool.perWorker := by
    rw [length_creation, hshare]
    exact hfits
  refine ⟨?_, ?_, ?_⟩
  · intro hfits
    rw [hr]
    exact write_fitting haccepting hwilling hpool hi hkey (hlength hfits)
  · intro front x rest hbatch hfull
    rw [hr, hbatch]
    exact write_overflowing haccepting hwilling hpool hi (hbatch ▸ hkey) (hfull.trans hshare.symm)
  · intro hfits hopen actions hharmless hsubmissions
    obtain ⟨ho, h⟩ : Ordered c.pool.workerCount t ∧ Answered c.pool.workerCount t :=
      (Answered.start c.pool channel).run (Ordered.start c.pool channel) before
    have hs := Healthy.of_alive h ho hopen hwilling fun j hj => by
      rw [ho.worker_of_idle hidle hj]
      rfl
    refine written_in_any_order d.settings.topics haccepting hs h ho hi hkey ?_ hharmless
      hsubmissions
    intro j
    have hcapacity : t.pool.capacity = c.pool.perWorker :=
      (Traffic.start c.pool channel).capacity_run before
    rw [Pool.queue_of_idle hidle j, hcapacity, List.length_nil, Nat.zero_add]
    exact hlength hfits

/-- Three messages fit if the capacity of two workers is six. -/
theorem Gateway.create_within_share_of_six :
    let c := Config.ofPool "2" "6"
    let d := Deployment.ofChannel c.settings Archive.publish
    let s : Spec := ⟨7, "lamp", 1, [⟨1, "ann", 5, "good"⟩], [⟨1, "bob", "lamps", "fine"⟩]⟩
    let t := (Traffic.start c.pool Archive.empty).run d.publish []
    let g₀ : Gateway Unit Unit Unit Archive := .start c.settings () () () .empty
    let g := { g₀ with pool := t.pool, channel := t.channel }
    let r := g.create d ticking s
    c.validate = .ok () ∧ firstItemId ≤ s.id ∧ (∀ w ∈ t.pool.workers, w = .idle) ∧
      t.channel.isRefusing = false ∧ r.1 = some (.ok ()) ∧
      r.2.channel.entries.map Prod.fst = ["items", "ratings", "commentary"] := by
  have h := Gateway.create_within_share (Config.ofPool "2" "6") (by decide +kernel)
    (Deployment.ofChannel (Config.ofPool "2" "6").settings Archive.publish) Archive.accepting
    ticking ⟨7, "lamp", 1, [⟨1, "ann", 5, "good"⟩], [⟨1, "bob", "lamps", "fine"⟩]⟩ (by decide)
    (Gateway.start (Config.ofPool "2" "6").settings () () () .empty) .empty []
    (by decide +kernel) rfl
  dsimp only at h ⊢
  exact ⟨by decide +kernel, by decide, by decide +kernel, rfl, (h.1 (by decide +kernel)).1,
    by decide +kernel⟩

/-- Two messages of one aggregate do not fit into a queue capacity of two for two workers. -/
theorem Gateway.create_refused_within_capacity :
    let c := Config.ofPool "2" "2"
    let d := Deployment.ofChannel c.settings Archive.publish
    let s : Spec := ⟨1, "lamp", 1, [⟨1, "ann", 5, "good"⟩], []⟩
    let g : Gateway Unit Unit Unit Archive := .start c.settings () () () .empty
    let r := g.create d ticking s
    c.validate = .ok () ∧ firstItemId ≤ s.id ∧
      1 + s.ratings.length + s.commentary.length ≤ c.publisher.queueCapacity.toNat ∧
      (∀ w ∈ g.pool.workers, w = .idle) ∧ g.channel.isRefusing = false ∧
      r.1 = some (.error (.eventSubmission "Publish queue full for topic 'ratings'")) ∧
      r.2.channel.entries.length = 1 := by
  decide +kernel

end Share

end AggregateGateway
