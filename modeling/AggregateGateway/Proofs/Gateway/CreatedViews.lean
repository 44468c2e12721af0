import AggregateGateway.Proofs.Gateway.Tickets

/-! What is created is what would be read. The messages of a creation that has succeeded hold the
records of the aggregate in their order, whatever else was published in between, and the records
make up a view of what was asked for. -/

namespace AggregateGateway

open Catalog
open Publish

/-! ### The records of an aggregate -/

def Catalog.Spec.recordsOf (s : Spec) : (v : Service) → List v.Record
  | .item => [s.item]
  | .ratings => s.ratingRecords
  | .commentary => s.commentaryRecords

/-- The records of an aggregate in the order in which they are announced. -/
def Catalog.Spec.records (s : Spec) : List (Σ v : Service, v.Record) :=
  Service.all.flatMap fun v => (s.recordsOf v).map fun a => ⟨v, a⟩

theorem creationDrafts_eq (s : Spec) : creationDrafts s =
    s.records.map fun r stamp => ⟨r.1, (Event.create r.2 stamp).message⟩ := by
  simp only [creationDrafts, Spec.records, Service.all, List.flatMap_cons, List.flatMap_nil,
    List.append_nil, List.map_append, List.map_map]
  rfl

def recordsFor (v : Service) : List (Σ v : Service, v.Record) → List v.Record
  | [] => []
  | r :: records => if h : r.1 = v then h ▸ r.2 :: recordsFor v records else recordsFor v records

section RecordsFor

variable {v w : Service}

theorem recordsFor_cons_self (a : v.Record) (records : List (Σ v : Service, v.Record)) :
    recordsFor v (⟨v, a⟩ :: records) = a :: recordsFor v records := by
  simp [recordsFor]

theorem recordsFor_cons_other (h : w ≠ v) (a : w.Record)
    (records : List (Σ v : Service, v.Record)) :
    recordsFor v (⟨w, a⟩ :: records) = recordsFor v records := by
  simp [recordsFor, h]

theorem recordsFor_append (records later : List (Σ v : Service, v.Record)) :
    recordsFor v (records ++ later) = recordsFor v records ++ recordsFor v later := by
  induction records with
  | nil => rfl
  | cons r records ih =>
    obtain ⟨w, a⟩ := r
    by_cases hw : w = v
    · subst hw
      rw [List.cons_append, recordsFor_cons_self, recordsFor_cons_self, ih, List.cons_append]
    · rw [List.cons_append, recordsFor_cons_other hw, recordsFor_cons_other hw, ih]

theorem recordsFor_map_self (as : List v.Record) :
    recordsFor v (as.map fun a => ⟨v, a⟩) = as := by
  induction as with
  | nil => rfl
  | cons a as ih => rw [List.map_cons, recordsFor_cons_self, ih]

theorem recordsFor_map_other (h : w ≠ v) (as : List w.Record) :
    recordsFor v (as.map fun a => ⟨w, a⟩) = [] := by
  induction as with
  | nil => rfl
  | cons a as ih => rw [List.map_cons, recordsFor_cons_other h, ih]

theorem recordsFor_records (s : Spec) (v : Service) : recordsFor v s.records = s.recordsOf v := by
  simp only [Spec.records, Service.all, List.flatMap_cons, List.flatMap_nil, recordsFor_append]
  cases v <;> simp [recordsFor_map_self, recordsFor_map_other, recordsFor]

end RecordsFor

theorem services_records (s : Spec) : s.records.map Sigma.fst =
    .item :: (List.replicate s.ratings.length .ratings ++
      List.replicate s.commentary.length .commentary) := by
  have hservice (v : Service) : ((s.recordsOf v).map fun a => (⟨v, a⟩ : Σ v : Service, v.Record)).map
      Sigma.fst = List.replicate (s.recordsOf v).length v := by
    rw [List.map_map, ← List.map_const']
    rfl
  have hratings : (s.recordsOf .ratings).length = s.ratings.length := List.length_map _
  have hcommentary : (s.recordsOf .commentary).length = s.commentary.length := List.length_map _
  simp only [Spec.records, Service.all, List.flatMap_cons, List.flatMap_nil, List.append_nil,
    List.map_append, hservice, hratings, hcommentary]
  rfl

/-! ### Reading messages -/

def readRecord (v : Service) (m : Message) : Option v.Record :=
  match (Event.decode m.data : Except EventFault (Event v.Record)) with
  | .ok (.create a _) => some a
  | _ => none

def readRecords (v : Service) (jobs : List Job) : Option (List v.Record) :=
  jobs.mapM fun job => readRecord v job.message

/-- The view that the messages about one aggregate make up, one item and the rest. -/
def readView (composite : String) (jobs : Service → List Job) : Option View :=
  match readRecords .item (jobs .item), readRecords .ratings (jobs .ratings),
    readRecords .commentary (jobs .commentary) with
  | some [item], some ratings, some commentary =>
    some (View.assemble item ratings commentary composite)
  | _, _, _ => none

theorem readRecord_create (v : Service) (a : v.Record) (stamp : Time.Instant) :
    readRecord v (Event.create a stamp).message = some a := by
  simp only [readRecord, Event.decode_message v.record_readsBack]

/-- The view of an aggregate of which only what was asked for is known. -/
def Catalog.Spec.view (s : Spec) (composite : String) : View :=
  ⟨s.id, s.name, s.weight, s.ratings, s.commentary, ⟨composite, "", "", ""⟩⟩

theorem assemble_records (s : Spec) (composite : String) :
    View.assemble s.item s.ratingRecords s.commentaryRecords composite = s.view composite := by
  have hratings : s.ratingRecords.map Rating.summary = s.ratings := by
    simp [Spec.ratingRecords, Function.comp_def, RatingSummary.summary_forItem]
  have hcommentary : s.commentaryRecords.map Commentary.summary = s.commentary := by
    simp [Spec.commentaryRecords, Function.comp_def, CommentarySummary.summary_forItem]
  have hfrom : firstAddress (s.ratingRecords.map Rating.originAddress) = "" := by
    cases hr : s.ratings <;> simp [Spec.ratingRecords, hr, firstAddress, RatingSummary.forItem]
  have hfrom' : firstAddress (s.commentaryRecords.map Commentary.originAddress) = "" := by
    cases hc : s.commentary <;>
      simp [Spec.commentaryRecords, hc, firstAddress, CommentarySummary.forItem]
  simp only [View.assemble, hratings, hcommentary, hfrom, hfrom']
  rfl

/-! ### Tickets of a creation -/

def Ticket.Creates (x : Ticket) (r : Σ v : Service, v.Record) : Prop :=
  x.service = r.1 ∧ ∃ stamp, x.job.message = (Event.create r.2 stamp).message

def jobsFor (v : Service) (held : List Ticket) : List Job :=
  (held.filter fun x => x.service = v).map Ticket.job

theorem readRecords_jobsFor {held : List Ticket} {records : List (Σ v : Service, v.Record)}
    (h : List.Forall₂ Ticket.Creates held records) (v : Service) :
    readRecords v (jobsFor v held) = some (recordsFor v records) := by
  induction h with
  | nil => rfl
  | @cons x r held records hx _ ih =>
    obtain ⟨w, a⟩ := r
    obtain ⟨hservice, stamp, hmessage⟩ := hx
    obtain rfl : x.service = w := hservice
    by_cases hv : x.service = v
    · subst hv
      have hread : readRecord x.service x.job.message = some a := by
        rw [hmessage, readRecord_create]
      have hjobs : jobsFor x.service (x :: held) = x.job :: jobsFor x.service held := by
        simp [jobsFor]
      rw [recordsFor_cons_self, hjobs, readRecords, List.mapM_cons, hread]
      rw [readRecords] at ih
      rw [ih]
      rfl
    · have hjobs : jobsFor v (x :: held) = jobsFor v held := by
        simp [jobsFor, hv]
      rw [recordsFor_cons_other hv, hjobs, ih]

theorem services_of_creates {held : List Ticket} {records : List (Σ v : Service, v.Record)}
    (h : List.Forall₂ Ticket.Creates held records) :
    held.map Ticket.service = records.map Sigma.fst := by
  induction h with
  | nil => rfl
  | cons hx _ ih => rw [List.map_cons, List.map_cons, hx.1, ih]

theorem readView_of_creates {held : List Ticket} {s : Spec}
    (h : List.Forall₂ Ticket.Creates held s.records) (composite : String) :
    readView composite (fun v => jobsFor v held) = some (s.view composite) := by
  simp only [readView, readRecords_jobsFor h, recordsFor_records, Spec.recordsOf, assemble_records]

def publishedFor (v : Service) (held : List Ticket) (history : List Occurrence) : List Job :=
  (published history).filter fun job => ⟨v, job⟩ ∈ held

section Published

variable {held : List Ticket} {history : List Occurrence}
  (hpublished : (published history).filter (· ∈ held.map Ticket.job) = held.map Ticket.job)
include hpublished

theorem publishedFor_eq (hdistinct : (held.map Ticket.job).Nodup) (v : Service) :
    publishedFor v held history = jobsFor v held := by
  have hpart : publishedFor v held history =
      ((published history).filter (· ∈ held.map Ticket.job)).filter
        fun job => ⟨v, job⟩ ∈ held := by
    rw [publishedFor, List.filter_filter]
    apply List.filter_congr
    intro job _
    by_cases hmem : ⟨v, job⟩ ∈ held
    · have hjob : job ∈ held.map Ticket.job := List.mem_map_of_mem (f := Ticket.job) hmem
      simp only [hmem, hjob, decide_true, Bool.and_self]
    · simp only [hmem, decide_false, Bool.false_and]
  rw [hpart, hpublished, jobsFor, List.filter_map]
  congr 1
  apply List.filter_congr
  intro x hx
  have hiff : ⟨v, x.job⟩ ∈ held ↔ x.service = v := by
    constructor
    · intro hmem
      exact congrArg Ticket.service (List.inj_on_of_nodup_map hdistinct hx hmem rfl)
    · rintro rfl
      exact hx
  simp only [Function.comp_apply, hiff]

omit hpublished in
/-- If no two services share a topic, what is about a service is what is found on its topic. -/
theorem publishedFor_eq_onTopic {topics : Topics} (htopics : Function.Injective topics.of)
    (hplaced : ∀ x ∈ held, x.job.topic = topics.of x.service) (v : Service) :
    publishedFor v held history = (published history).filter fun job =>
      job ∈ held.map Ticket.job ∧ job.topic = topics.of v := by
  apply List.filter_congr
  intro job _
  have hiff : ⟨v, job⟩ ∈ held ↔ job ∈ held.map Ticket.job ∧ job.topic = topics.of v := by
    constructor
    · intro hmem
      exact ⟨List.mem_map_of_mem (f := Ticket.job) hmem, hplaced _ hmem⟩
    · rintro ⟨hmem, htopic⟩
      obtain ⟨⟨w, job'⟩, hx, rfl⟩ := List.mem_map.mp hmem
      obtain rfl : w = v := htopics ((hplaced _ hx).symm.trans htopic)
      exact hx
  simp only [hiff]

end Published

/-! ### Creations at work -/

variable {ι ρ κ β : Type} {d : Deployment ι ρ κ β} {u : Running ι ρ κ β} {k : Nat}
  {held : List Ticket} {s : Spec}

theorem WriteRequest.batch_create {clock : Time.Clock} (hid : 1 ≤ s.id) :
    (WriteRequest.create clock s).batch = creation clock s := by
  have hfirst : firstItemId ≤ s.id := hid
  have hcheck : checkId s.id = .ok () := by
    simp only [checkId, Int32.not_lt.mpr hfirst, if_false]
  simp only [batch, id, hcheck]

theorem Ticket.creates_of_fills {clock : Time.Clock} (hid : 1 ≤ s.id) {n : Nat} {x : Ticket}
    (h : x.Fills d (.create clock s) n) : ∃ r, s.records[n]? = some r ∧ x.Creates r := by
  obtain ⟨-, stamp, hx⟩ := h
  have hbatch : ((WriteRequest.create clock s).stamped stamp).batch = creation stamp s :=
    WriteRequest.batch_create hid
  rw [hbatch, creation, Time.Clock.getElem?_stamp, creationDrafts_eq, List.getElem?_map,
    Option.map_map, Option.map_eq_some_iff] at hx
  obtain ⟨r, hr, heq⟩ := hx
  obtain ⟨hservice, hmessage⟩ := Dispatch.mk.inj heq
  exact ⟨r, hr, hservice.symm, stamp, hmessage.symm⟩

theorem Ticketed.creates (h : Ticketed d k held u) {clock : Time.Clock} (hid : 1 ≤ s.id)
    {p : Progress} (hk : u.writes[k]? = some p) (hp : p.request = .create clock s)
    (hgoing : p.hasStopped = false) (hall : p.submitted = p.request.batch.length) :
    List.Forall₂ Ticket.Creates held s.records := by
  have hlength : held.length = s.records.length := by
    rw [h.count p hk hgoing, hall, hp, WriteRequest.batch_create hid, creation,
      Time.Clock.length_stamp, creationDrafts_eq, List.length_map]
  refine List.forall₂_of_length_eq_of_get hlength ?_
  intro n hn hn'
  have hfills := h.place p hk n held[n] (List.getElem?_eq_getElem hn)
  rw [hp] at hfills
  obtain ⟨r, hr, hcreates⟩ := Ticket.creates_of_fills hid hfills
  have hsame : s.records[n] = r := (List.getElem?_eq_some_iff.mp hr).2
  show held[n].Creates s.records[n]
  rw [hsame]
  exact hcreates

/-- What the readers of the topics find of a creation. -/
structure Recovered (topics : Topics) (s : Spec) (held : List Ticket)
    (history : List Occurrence) : Prop where
  services : held.map Ticket.service =
    .item :: (List.replicate s.ratings.length .ratings ++
      List.replicate s.commentary.length .commentary)
  published : (published history).filter (· ∈ held.map Ticket.job) = held.map Ticket.job
  onTopic : Function.Injective topics.of → ∀ v, publishedFor v held history =
    (Publish.published history).filter fun job =>
      job ∈ held.map Ticket.job ∧ job.topic = topics.of v
  view : ∀ composite,
    readView composite (fun v => publishedFor v held history) = some (s.view composite)

/-- A pool at work from the start on, and the tickets that the `k`-th write of the run has got. -/
structure Attended (d : Deployment ι ρ κ β) (k : Nat) (held : List Ticket)
    (u : Running ι ρ κ β) : Prop where
  ticketed : Ticketed d k held u
  ordered : Ordered d.settings.pool.workerCount u.traffic
  answered : Answered d.settings.pool.workerCount u.traffic
  finished : ∀ i, finishedBy i u.traffic.history <+:
    acceptedFor d.settings.pool.workerCount i u.traffic.history

theorem Attended.of_run (d : Deployment ι ρ κ β) (g₀ : Gateway ι ρ κ β) (channel : β) (k : Nat)
    (operations : List (Operation ι ρ κ β)) :
    let start := Running.start d g₀ channel
    Attended d k (start.tickets d k operations) (start.run d operations) := by
  intro start
  have htraffic : start.traffic = .start d.settings.pool channel := rfl
  obtain ⟨actions, hactions⟩ := start.traffic_run (d := d) operations
  rw [htraffic] at hactions
  let t := (Traffic.start d.settings.pool channel).run d.publish actions
  obtain ⟨ho, ha⟩ :
      Ordered d.settings.pool.workerCount t ∧ Answered d.settings.pool.workerCount t :=
    (Answered.start d.settings.pool channel).run (.start d.settings.pool channel) actions
  refine ⟨?_, ?_, ?_, ?_⟩
  · simpa using (Ticketed.start d k g₀ channel).run operations
  · rw [hactions]
    exact ho
  · rw [hactions]
    exact ha
  · rw [hactions]
    exact Ordered.finished_isPrefix d.settings.pool channel actions

theorem Attended.recovered (h : Attended d k held u) {clock : Time.Clock} (hid : 1 ≤ s.id)
    (hrequest : u.writes[k]?.map Progress.request = some (.create clock s))
    (hdone : u.HasSucceeded k held) : Recovered d.settings.topics s held u.traffic.history := by
  obtain ⟨p, hk, hgoing, hall, hok⟩ := hdone
  have hp : p.request = .create clock s := by
    rw [hk] at hrequest
    exact Option.some.inj hrequest
  have hcreates : List.Forall₂ Ticket.Creates held s.records :=
    h.ticketed.creates hid hk hp hgoing hall
  have hplace : ∀ x ∈ held, ∃ n, x.Fills d (.create clock s) n := by
    intro x hx
    obtain ⟨n, hn⟩ := List.mem_iff_getElem?.mp hx
    rw [← hp]
    exact ⟨n, h.ticketed.place p hk n x hn⟩
  have hkey : ∀ x ∈ held, x.job.message.key = toString s.id.toInt := by
    intro x hx
    obtain ⟨n, -, stamp', hmessage⟩ := hplace x hx
    exact WriteRequest.key_of_mem_batch (List.mem_of_getElem? hmessage)
  have hpublished := h.ticketed.published h.ordered h.answered h.finished hkey hok
  have hdistinct : (held.map Ticket.job).Nodup :=
    (List.Nodup.of_map _ h.answered.distinct).sublist h.ticketed.queued
  refine ⟨?_, hpublished, ?_, ?_⟩
  · rw [services_of_creates hcreates, services_records]
  · intro htopics v
    apply publishedFor_eq_onTopic htopics
    intro x hx
    obtain ⟨n, htopic, -⟩ := hplace x hx
    exact htopic
  · intro composite
    simp only [publishedFor_eq hpublished hdistinct]
    exact readView_of_creates hcreates composite

/-- The operations of a request that is alone, with these turns of the workers. -/
def Running.alone (u : Running ι ρ κ β) (r : WriteRequest) (turns : List Nat) :
    List (Operation ι ρ κ β) :=
  .write r ::
    (Operation.submissions r.clock u.writes.length 0 r.batch.length ++ turns.map .work)

/-- A creation that is alone and says that it has succeeded has a ticket for each message, and all
of them are acknowledged. -/
theorem Running.create_run {count : Nat} (ha : Answered count u.traffic)
    (hopen : u.traffic.isOpen = true) {clock : Time.Clock} (hid : 1 ≤ s.id)
    (hok : (u.gateway.create d clock s).1 = some (.ok ())) :
    ∃ turns : List Nat,
      let v := u.run d (u.alone (.create clock s) turns)
      v.traffic.pool = (u.gateway.create d clock s).2.pool ∧
        v.traffic.channel = (u.gateway.create d clock s).2.channel ∧
        v.writes[u.writes.length]?.map Progress.request = some (.create clock s) ∧
        v.HasSucceeded u.writes.length
          (u.tickets d u.writes.length (u.alone (.create clock s) turns)) := by
  let r := WriteRequest.create clock s
  let k := u.writes.length
  have hbatch : r.batch = creation clock s := WriteRequest.batch_create hid
  have hcreate : u.gateway.create d clock s = u.gateway.write d r.batch := by
    have hfirst : firstItemId ≤ s.id := hid
    simp only [Gateway.create, checkId, Int32.not_lt.mpr hfirst, if_false, hbatch]
  -- the answer is a success, so that every message was queued
  obtain ⟨-, jobs, answers, -, hq, -⟩ := queueAll_run d.publish d.settings.topics r.batch hopen
  let queued := queueAll d.settings.topics r.batch u.traffic.pool
  let worked := queued.1.run d.publish u.traffic.channel
  have hresult : writeResult outcome queued.2.2 (u.traffic.acknowledgements ++ worked.2.2.1) =
      some (.ok ()) := by
    rw [hq.writeResult_of_others ha.known, ← hok, hcreate]
    rfl
  obtain ⟨numbers, hnumbers⟩ : ∃ numbers, queued.2.2 = .ok numbers := by
    cases hn : queued.2.2 with
    | error e => simp [hn, writeResult, Except.mapError] at hresult
    | ok numbers => exact ⟨numbers, rfl⟩
  rw [hnumbers, writeResult_eq_ok_iff] at hresult
  -- the same creation message by message, followed by the turns of the workers
  let submissions : List (Operation ι ρ κ β) :=
    Operation.submissions r.clock k 0 r.batch.length
  let w := (u.step d (.write r)).run d submissions
  have hbegun : (u.step d (.write r)).writes[k]? = some ⟨r, 0, false⟩ := by
    simp [step, k]
  obtain ⟨hpool, hchannel⟩ :
      w.traffic.pool = queued.1 ∧ w.traffic.channel = u.traffic.channel :=
    run_submit_all r.batch hbegun rfl hopen
  obtain ⟨hdone, htickets, hacks⟩ := tickets_submit_all r.batch hbegun rfl hopen hnumbers
  obtain ⟨turns, hturns⟩ := Pool.turns_eq_map (β := β) 0 w.traffic.pool.workers
  obtain ⟨history, hrun⟩ := w.traffic.run_turns d.publish
  refine ⟨turns, ?_⟩
  intro v
  have hv : v = w.run d (turns.map .work) := by
    simp only [v, alone, run_cons, run_append]
    rfl
  have hwrites : v.writes[k]? = some ⟨r, r.batch.length, false⟩ := by
    rw [hv, writes_work]
    simpa using hdone
  have htraffic : v.traffic = w.traffic.run d.publish (Pool.turns 0 w.traffic.pool.workers) := by
    rw [hv, run_work, hturns]
  rw [hrun, hpool, hchannel] at htraffic
  have hheld : u.tickets d k (u.alone r turns) =
      (u.step d (.write r)).tickets d k submissions := by
    simp only [alone, tickets, ticket?, Option.toList_none, List.nil_append, tickets_append,
      tickets_work, List.append_nil]
    rfl
  refine ⟨?_, ?_, ?_, ?_⟩
  · rw [htraffic, hcreate]
    rfl
  · rw [htraffic, hcreate]
    rfl
  · rw [hwrites]
    rfl
  · refine ⟨_, hwrites, rfl, rfl, ?_⟩
    rw [hheld, htickets, htraffic]
    show outcome numbers (w.traffic.acknowledgements ++ worked.2.2.1) = some (.ok ())
    rw [hacks]
    exact hresult

/-- Whatever requests overlap and however services and channel behave, what has been published for
a creation that has succeeded is its item, then its ratings, then its commentary, and whoever reads
these messages topic by topic can assemble the view of what was asked for. A creation on its own
that reports success is one of those. -/
theorem created_aggregates_read_back (d : Deployment ι ρ κ β) (g₀ : Gateway ι ρ κ β) (channel : β)
    (operations : List (Operation ι ρ κ β)) :
    let topics := d.settings.topics
    let start := Running.start d g₀ channel
    let u := start.run d operations
    (∀ k clock s, u.writes[k]?.map Progress.request = some (.create clock s) → 1 ≤ s.id →
      u.HasSucceeded k (start.tickets d k operations) →
      Recovered topics s (start.tickets d k operations) u.traffic.history) ∧
    (u.traffic.isOpen = true → ∀ clock s, 1 ≤ s.id →
      (u.gateway.create d clock s).1 = some (.ok ()) → ∃ turns : List Nat,
        let more := u.alone (.create clock s) turns
        let v := u.run d more
        let held := u.tickets d u.writes.length more
        (v.traffic.pool = (u.gateway.create d clock s).2.pool ∧
          v.traffic.channel = (u.gateway.create d clock s).2.channel) ∧
        v.HasSucceeded u.writes.length held ∧ Recovered topics s held v.traffic.history) := by
  intro topics start u
  refine ⟨?_, ?_⟩
  · intro k clock s hrequest hid hdone
    exact (Attended.of_run d g₀ channel k operations).recovered hid hrequest hdone
  · intro hopen clock s hid hok
    have hu := Attended.of_run d g₀ channel u.writes.length operations
    obtain ⟨turns, hpool, hchannel, hrequest, hdone⟩ := u.create_run hu.answered hopen hid hok
    have hv := Attended.of_run d g₀ channel u.writes.length
      (operations ++ u.alone (.create clock s) turns)
    have hnone : start.tickets d u.writes.length operations = [] :=
      hu.ticketed.early (List.getElem?_eq_none (Nat.le_refl _))
    simp only [Running.tickets_append, Running.run_append] at hv
    rw [hnone, List.nil_append] at hv
    exact ⟨turns, ⟨hpool, hchannel⟩, hdone, hv.recovered hid hrequest hdone⟩

def soleWorker : Deployment Unit Unit Unit Nat :=
  .ofChannel { (Config.ofVariables fun _ => none).settings with pool := ⟨1, 8⟩ }
    fun _ n => some (.accepted, n + 1)

def lamp : Spec := ⟨7, "lamp", 1, [⟨1, "ann", 5, "good"⟩, ⟨2, "eve", 2, "dim"⟩], []⟩

def takingTurns : List (Operation Unit Unit Unit Nat) :=
  [.write (.create dayBreak lamp), .write (.create dayBreak ⟨7, "desk", 2, [], []⟩),
    .submit 0 dayBreak, .submit 1 dayBreak, .submit 0 dayBreak, .work 0, .work 0,
    .submit 0 dayBreak, .work 0, .work 0, .work 0, .work 0, .work 0, .work 0]

theorem created_aggregates_read_back_in_turn :
    let start := Running.start soleWorker (.start soleWorker.settings () () () 0) 0
    let u := start.run soleWorker takingTurns
    let held := start.tickets soleWorker 0 takingTurns
    u.writes[0]?.map Progress.request = some (.create dayBreak lamp) ∧ 1 ≤ lamp.id ∧
      u.HasSucceeded 0 held ∧
      (published u.traffic.history).map (fun job => (job.topic, job.number)) =
        [("items", 0), ("items", 1), ("ratings", 2), ("ratings", 3)] ∧
      readView "here" (fun v => publishedFor v held u.traffic.history) =
        some ⟨7, "lamp", 1, lamp.ratings, [], ⟨"here", "", "", ""⟩⟩ ∧
      u.traffic.isOpen = true ∧ (u.gateway.create soleWorker ticking lamp).1 = some (.ok ()) ∧
      ∃ turns : List Nat,
        let more := u.alone (.create ticking lamp) turns
        Recovered soleWorker.settings.topics lamp (u.tickets soleWorker u.writes.length more)
          (u.run soleWorker more).traffic.history := by
  intro start u held
  have hrequests : u.writes.map Progress.request =
      [.create dayBreak lamp, .create dayBreak ⟨7, "desk", 2, [], []⟩] :=
    start.requests_run takingTurns
  have hrequest : u.writes[0]?.map Progress.request = some (.create dayBreak lamp) := by
    rw [← List.getElem?_map, hrequests]
    rfl
  have hdone : u.HasSucceeded 0 held := by
    obtain ⟨p, hp, hcreate⟩ := Option.map_eq_some_iff.mp hrequest
    have hstate : u.writes[0]?.map (fun p => (p.hasStopped, p.submitted)) = some (false, 3) := by
      decide +kernel
    rw [hp] at hstate
    obtain ⟨hgoing, hsubmitted⟩ := Prod.mk.inj (Option.some.inj hstate)
    refine ⟨p, hp, hgoing, ?_, by decide +kernel⟩
    rw [hsubmitted, hcreate]
    decide +kernel
  have h := created_aggregates_read_back soleWorker (.start soleWorker.settings () () () 0) 0
    takingTurns
  have hview := (h.1 0 dayBreak lamp hrequest (by decide) hdone).view "here"
  have hcreate : (u.gateway.create soleWorker ticking lamp).1 = some (.ok ()) := by
    decide +kernel
  have hopen : u.traffic.isOpen = true := by
    decide +kernel
  obtain ⟨turns, -, -, hlater⟩ := h.2 hopen ticking lamp (by decide) hcreate
  exact ⟨hrequest, by decide, hdone, by decide +kernel, hview, hopen, hcreate, turns, hlater⟩

end AggregateGateway
