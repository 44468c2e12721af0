import AggregateGateway.Proofs.Catalog.Envelopes
import AggregateGateway.Proofs.Gateway.Requests

/-! What reaches the channel. Every message that is offered on the topic of a service was submitted
by a write and announces an event of that service: its document is read as the envelope of one, and
its key and its kind are those of the envelope. -/

namespace AggregateGateway

open Catalog
open Publish

/-- The address of the instance that a record was read from. -/
def Catalog.Service.origin? : (s : Service) → s.Record → Option String
  | .item => Item.originAddress
  | .ratings => Rating.originAddress
  | .commentary => Commentary.originAddress

/-- A message whose document holds the envelope `v`. -/
structure Announces (m : Message) (s : Service) (v : Envelope s.Record) : Prop where
  read : (Envelope.codec s.Record).decode m.data = .ok v
  decoded : ∃ e, Event.decode m.data = .ok e ∧ e.envelope = v
  key : m.key = toString v.key.toInt
  key_ge : 1 ≤ v.key
  kind : m.kind = v.kind.name
  created : v.kind = .create → ∃ a, v.payload = some a ∧ s.origin? a = none ∧ Keyed.key a = v.key
  deleted : v.kind = .delete → v.payload = none

section Batch

variable {s : Service}

theorem announces_create {a : s.Record} (hkey : 1 ≤ Keyed.key a) (horigin : s.origin? a = none)
    (stamp : Time.Instant) :
    Announces (Event.create a stamp).message s (Event.create a stamp).envelope where
  read := (envelope_readsBack s.record_readsBack _).decode
  decoded := ⟨_, Event.decode_message s.record_readsBack _, rfl⟩
  key := rfl
  key_ge := hkey
  kind := rfl
  created _ := ⟨a, rfl, horigin, rfl⟩
  deleted := nofun

theorem announces_delete {id : ItemId} (hid : 1 ≤ id) (stamp : Time.Instant) :
    Announces (Event.delete id stamp : Event s.Record).message s
      (Event.delete id stamp : Event s.Record).envelope where
  read := (envelope_readsBack s.record_readsBack _).decode
  decoded := ⟨_, Event.decode_message s.record_readsBack _, rfl⟩
  key := rfl
  key_ge := hid
  kind := rfl
  created := nofun
  deleted _ := rfl

theorem announces_of_mem_creation {clock : Time.Clock} {spec : Spec} (hid : 1 ≤ spec.id)
    {x : Dispatch} (h : x ∈ creation clock spec) : ∃ v, Announces x.message x.service v := by
  obtain ⟨draft, hdraft, stamp, rfl⟩ := clock.exists_of_mem_stamp _ h
  simp only [creationDrafts, Spec.ratingRecords, Spec.commentaryRecords, List.map_map,
    List.cons_append, List.mem_cons, List.mem_append, List.mem_map] at hdraft
  rcases hdraft with rfl | ⟨r, -, rfl⟩ | ⟨c, -, rfl⟩
  · exact ⟨_, announces_create (s := .item) (a := spec.item) hid rfl stamp⟩
  · exact ⟨_, announces_create (s := .ratings) (a := r.forItem spec.id) hid rfl stamp⟩
  · exact ⟨_, announces_create (s := .commentary) (a := c.forItem spec.id) hid rfl stamp⟩

theorem announces_of_mem_deletion {clock : Time.Clock} {id : ItemId} (hid : 1 ≤ id)
    {x : Dispatch} (h : x ∈ deletion clock id) : ∃ v, Announces x.message x.service v := by
  obtain ⟨draft, hdraft, stamp, rfl⟩ := clock.exists_of_mem_stamp _ h
  simp only [deletionDrafts, List.mem_cons, List.not_mem_nil, or_false] at hdraft
  rcases hdraft with rfl | rfl | rfl
  · exact ⟨_, announces_delete (s := .item) hid stamp⟩
  · exact ⟨_, announces_delete (s := .ratings) hid stamp⟩
  · exact ⟨_, announces_delete (s := .commentary) hid stamp⟩

theorem one_le_of_checkId {id : ItemId} (h : checkId id = .ok ()) : 1 ≤ id := by
  simp only [checkId] at h
  split at h
  · simp at h
  · next hid => exact Int32.not_lt.mp hid

theorem announces_of_mem_batch {r : WriteRequest} {x : Dispatch} (h : x ∈ r.batch) :
    ∃ v, Announces x.message x.service v := by
  cases hid : checkId r.id with
  | error e => simp [WriteRequest.batch, hid] at h
  | ok =>
    have hpos : 1 ≤ r.id := one_le_of_checkId hid
    simp only [WriteRequest.batch, hid] at h
    cases r with
    | create clock spec => exact announces_of_mem_creation hpos h
    | delete clock id => exact announces_of_mem_deletion hpos h

end Batch

section Run

variable {ι ρ κ β : Type} {d : Deployment ι ρ κ β} {u : Running ι ρ κ β} {count : Nat}

/-- The job is a message of the write, stamped when it was submitted. -/
def Stems (d : Deployment ι ρ κ β) (job : Job) (r : WriteRequest) : Prop :=
  ∃ stamp, ∃ x ∈ (r.stamped stamp).batch,
    job.topic = d.settings.topics.of x.service ∧ job.message = x.message

theorem mem_accepted_submit (publish : Publishing β) {t : Traffic β} {topic : String} {m : Message}
    {job : Job} (h : job ∈ accepted (t.step publish (.submit topic m)).history) :
    job ∈ accepted t.history ∨ job.topic = topic ∧ job.message = m := by
  by_cases hopen : t.isOpen = true
  · have hhistory : (t.step publish (.submit topic m)).history =
        t.history ++ [.answered topic m (t.pool.submit topic m).2] := by
      simp only [Traffic.step, hopen, if_true, Traffic.answered]
    rw [hhistory, accepted, List.filterMap_append, List.mem_append] at h
    rcases h with h | h
    · exact .inl h
    · refine .inr ?_
      cases hanswer : (t.pool.submit topic m).2 with
      | error e => simp [hanswer] at h
      | ok n =>
        simp only [hanswer, List.filterMap_cons, List.filterMap_nil, List.mem_singleton] at h
        rw [h]
        exact ⟨rfl, rfl⟩
  · simp only [Traffic.step, hopen] at h
    exact .inl h

/-- Whatever the pool has accepted stems from a write of the run. -/
structure Originated (d : Deployment ι ρ κ β) (count : Nat) (u : Running ι ρ κ β) : Prop where
  ordered : Ordered count u.traffic
  origin : ∀ job ∈ accepted u.traffic.history, ∃ p ∈ u.writes.map Progress.request, Stems d job p

namespace Originated

theorem start (d : Deployment ι ρ κ β) (around : Gateway ι ρ κ β) (channel : β) :
    Originated d d.settings.pool.workerCount (.start d around channel) :=
  ⟨.start d.settings.pool channel, by simp [Running.start, Traffic.start, accepted]⟩

theorem unconcerned (h : Originated d count u) {a : Action β}
    (haccepted : accepted (u.traffic.step d.publish a).history = accepted u.traffic.history) :
    Originated d count { u with traffic := u.traffic.step d.publish a } :=
  ⟨h.ordered.step a, by rw [haccepted]; exact h.origin⟩

theorem submit (h : Originated d count u) {k : Nat} {stamp : Time.Instant} {p : Progress}
    {x : Dispatch} (hnext : u.next? k stamp = some (p, x)) :
    Originated d count (u.submitted d k p x) := by
  obtain ⟨hk, -, hplace⟩ := Running.next?_eq_some_iff.mp hnext
  have hx := List.mem_of_getElem? hplace
  have hordered : Ordered count (u.traffic.step d.publish
      (.submit (d.settings.topics.of x.service) x.message)) := h.ordered.step _
  refine ⟨hordered, ?_⟩
  intro job hjob
  rw [Running.requests_submitted hk]
  rcases mem_accepted_submit d.publish hjob with hjob | ⟨htopic, hmessage⟩
  · exact h.origin job hjob
  · exact ⟨p.request, List.mem_map_of_mem (List.mem_of_getElem? hk), stamp, x, hx, htopic, hmessage⟩

theorem step (h : Originated d count u) (o : Operation ι ρ κ β) :
    Originated d count (u.step d o) := by
  cases o with
  | write r =>
    refine ⟨h.ordered, fun job hjob => ?_⟩
    obtain ⟨p, hp, hstems⟩ := h.origin job hjob
    exact ⟨p, by simp [Running.step, hp], hstems⟩
  | submit k stamp =>
    simp only [Running.step]
    cases hnext : u.next? k stamp with
    | none => exact h
    | some y => exact h.submit hnext
  | read q =>
    obtain ⟨htraffic, hwrites⟩ := u.sameWrites_of_isReading (d := d) (o := .read q) rfl
    exact ⟨by rw [htraffic]; exact h.ordered, by rw [htraffic, hwrites]; exact h.origin⟩
  | elsewhere g => exact ⟨h.ordered, h.origin⟩
  | work i => exact h.unconcerned (u.traffic.work_accepts_nothing d.publish i).1
  | shift channel => exact h.unconcerned rfl
  | drop n => exact h.unconcerned rfl
  | close => exact h.unconcerned rfl

theorem run (h : Originated d count u) (operations : List (Operation ι ρ κ β)) :
    Originated d count (u.run d operations) :=
  List.foldlRecOn operations _ h fun _ hu o _ => hu.step o

/-- What is offered has been accepted before. -/
theorem of_offered (h : Originated d count u) {i : Nat} {job : Job}
    (hjob : job ∈ offeredBy i u.traffic.history) :
    ∃ p ∈ u.writes.map Progress.request, Stems d job p :=
  h.origin job (List.mem_filter.mp ((h.ordered.inOrder i).offered_isPrefix.subset hjob)).1

end Originated

/-- Whatever requests overlap and however services and channel behave, each message offered on the
topic of a service announces an event of that service, and it was submitted by a write of the run.
A run in which nothing is read does the same to pool and channel. A write on its own is one way for
its operations to follow one another. -/
theorem offered_messages_announce_events (d : Deployment ι ρ κ β)
    (hd : Function.Injective d.settings.topics.of) (g₀ : Gateway ι ρ κ β) (channel : β)
    (operations : List (Operation ι ρ κ β)) :
    let topics := d.settings.topics
    let u := (Running.start d g₀ channel).run d operations
    (∀ i, ∀ job ∈ offeredBy i u.traffic.history, (∃ s, job.topic = topics.of s) ∧
      ∀ s, job.topic = topics.of s → ∃ v, Announces job.message s v) ∧
    (∀ i, ∀ job ∈ offeredBy i u.traffic.history,
      ∃ r ∈ operations.filterMap Operation.write?, Stems d job r) ∧
    u.traffic =
      ((Running.start d g₀ channel).run d (operations.filter fun o => !o.isReading)).traffic ∧
    (u.traffic.isOpen = true → ∀ r, ∃ turns : List Nat,
      let v := u.run d (.write r ::
        (Operation.submissions r.clock u.writes.length 0 r.batch.length ++ turns.map .work))
      (u.gateway.perform d r).2.pool = v.traffic.pool ∧
        (u.gateway.perform d r).2.channel = v.traffic.channel) := by
  intro topics u
  have h : Originated d d.settings.pool.workerCount u :=
    (Originated.start d g₀ channel).run operations
  have hrequests : u.writes.map Progress.request = operations.filterMap Operation.write? :=
    Running.requests_run (.start d g₀ channel) operations
  have hreads : u.SameWrites
      ((Running.start d g₀ channel).run d (operations.filter fun o => !o.isReading)) :=
    Running.SameWrites.run ⟨rfl, rfl⟩ operations
  refine ⟨fun i job hjob => ?_, fun i job hjob => ?_, hreads.1, fun hopen r => ?_⟩
  · obtain ⟨r, -, stamp, x, hx, htopic, hmessage⟩ := h.of_offered hjob
    refine ⟨⟨x.service, htopic⟩, fun s hs => ?_⟩
    have hservice : x.service = s := hd (htopic.symm.trans hs)
    rw [hmessage, ← hservice]
    exact announces_of_mem_batch hx
  · rw [← hrequests]
    exact h.of_offered hjob
  · exact u.perform_run hopen r u.around

/-- A creation and a deletion whose messages take turns, with a read in between. -/
theorem offered_messages_announce_rating :
    let d := Deployment.ofChannel { (Config.ofVariables fun _ => none).settings with pool := ⟨1, 4⟩ }
      (fun _ (n : Nat) => some (.accepted, n + 1))
    let u := (Running.start d (.start d.settings () () () 0) 0).run d
      [.write (.create dayBreak ⟨7, "lamp", 1, [⟨1, "ann", 5, "good"⟩], []⟩),
        .write (.delete dayBreak 7), .submit 0 dayBreak, .submit 1 dayBreak,
        .read (.ratings ⟨7, .plain⟩), .submit 0 dayBreak, .work 0, .work 0, .work 0, .work 0,
        .work 0]
    Function.Injective d.settings.topics.of ∧
      ∃ job ∈ offeredBy 0 u.traffic.history, job.topic = d.settings.topics.of .ratings ∧
        job.message.kind = "CREATE" ∧ ∃ v, Announces job.message .ratings v := by
  have hd : Function.Injective (Deployment.ofChannel
      { (Config.ofVariables fun _ => none).settings with pool := ⟨1, 4⟩ }
      (fun _ (n : Nat) => some (Verdict.accepted, n + 1))).settings.topics.of := by
    intro a b
    cases a <;> cases b <;> decide +kernel
  have h := offered_messages_announce_events _ hd
    (.start { (Config.ofVariables fun _ => none).settings with pool := ⟨1, 4⟩ } () () () 0) 0
    [.write (.create dayBreak ⟨7, "lamp", 1, [⟨1, "ann", 5, "good"⟩], []⟩),
      .write (.delete dayBreak 7), .submit 0 dayBreak, .submit 1 dayBreak,
      .read (.ratings ⟨7, .plain⟩), .submit 0 dayBreak, .work 0, .work 0, .work 0, .work 0,
      .work 0]
  dsimp only at h ⊢
  refine ⟨hd, ?_⟩
  generalize hoffered : offeredBy 0 _ = jobs
  have hthird : jobs[2]?.map (fun job => (job.topic, job.message.kind)) =
      some ("ratings", "CREATE") := by
    rw [← hoffered]
    decide +kernel
  obtain ⟨job, hjob, heq⟩ := Option.map_eq_some_iff.mp hthird
  obtain ⟨htopic, hkind⟩ := Prod.mk.inj heq
  have hmem : job ∈ jobs := List.mem_of_getElem? hjob
  refine ⟨job, hmem, htopic, hkind, ?_⟩
  exact (h.1 0 job (by rw [← hoffered] at hmem; exact hmem)).2 .ratings htopic

end Run

end AggregateGateway
