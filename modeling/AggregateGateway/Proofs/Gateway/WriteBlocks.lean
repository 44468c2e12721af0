import AggregateGateway.Proofs.Gateway.Creation
import AggregateGateway.Proofs.Publish.Uncongested
import AggregateGateway.Proofs.Text.Numerals

/-! Writes that overlap. A request queues its messages without a pause and then waits, while other
requests, the workers and the channel go on. The messages about one item leave in blocks, one for
each request in the order of the requests. -/

namespace AggregateGateway

open Catalog
open Publish

/-- A write, and the clock that is looked at for each of its messages. -/
inductive WriteRequest where
  | create (clock : Time.Clock) (s : Spec)
  | delete (clock : Time.Clock) (id : ItemId)

namespace WriteRequest

def id : WriteRequest → ItemId
  | .create _ s => s.id
  | .delete _ id => id

/-- The messages of a request in their order; none if its item cannot exist. -/
def batch (r : WriteRequest) : List Dispatch :=
  match checkId r.id with
  | .error _ => []
  | .ok () =>
    match r with
    | .create clock s => creation clock s
    | .delete clock id => deletion clock id

def messages (topics : Topics) (r : WriteRequest) : List (String × Message) :=
  r.batch.map fun x => (topics.of x.service, x.message)

theorem key_of_mem_batch {r : WriteRequest} {x : Dispatch} (h : x ∈ r.batch) :
    x.message.key = toString r.id.toInt := by
  simp only [batch] at h
  split at h
  · exact absurd h List.not_mem_nil
  · cases r with
    | create clock s => exact (mem_creation h).1
    | delete clock id =>
      obtain ⟨draft, hdraft, t, rfl⟩ := clock.exists_of_mem_stamp _ h
      simp only [deletionDrafts, List.mem_cons, List.not_mem_nil, or_false] at hdraft
      rcases hdraft with rfl | rfl | rfl <;> rfl

/-- The submissions that a request makes before it waits. Each takes a number, also the one that
is refused. -/
def submitted {β : Type} (topics : Topics) (p : Pool) (r : WriteRequest) : List (Action β) :=
  (submissions topics r.batch).take ((queueAll topics r.batch p).1.next - p.next)

end WriteRequest

/-- What can happen while no request is at work. -/
inductive Move (β : Type) where
  | request (r : WriteRequest)
  | work (i : Nat)
  | shift (channel : β)
  | drop (n : Nat)

def Move.request? {β : Type} : Move β → Option WriteRequest
  | .request r => some r
  | _ => none

/-- A pool at work, and the jobs that each request has queued. -/
structure Writing (β : Type) where
  traffic : Traffic β
  blocks : List (WriteRequest × List Job)

variable {β : Type} {publish : Publishing β} {topics : Topics} {count : Nat}

namespace Writing

def start (s : Sizing) (channel : β) : Writing β := ⟨.start s channel, []⟩

def step (publish : Publishing β) (topics : Topics) (w : Writing β) : Move β → Writing β
  | .request r =>
    let t := w.traffic.run publish (r.submitted topics w.traffic.pool)
    ⟨t, w.blocks ++ [(r, (accepted t.history).drop (accepted w.traffic.history).length)]⟩
  | .work i => { w with traffic := w.traffic.step publish (.work i) }
  | .shift channel => { w with traffic := w.traffic.step publish (.shift channel) }
  | .drop n => { w with traffic := w.traffic.step publish (.drop n) }

def run (publish : Publishing β) (topics : Topics) (w : Writing β) (moves : List (Move β)) :
    Writing β :=
  moves.foldl (step publish topics) w

end Writing

/-! ### The submissions of a request -/

theorem run_submissions_next (publish : Publishing β) {t : Traffic β} {sent : List (Action β)}
    (hsent : ∀ a ∈ sent, ∃ topic m, a = .submit topic m) (hopen : t.isOpen = true) :
    (t.run publish sent).isOpen = true ∧
      (t.run publish sent).pool.next = t.pool.next + sent.length := by
  induction sent generalizing t with
  | nil => exact ⟨hopen, rfl⟩
  | cons a sent ih =>
    rw [List.forall_mem_cons] at hsent
    obtain ⟨topic, m, rfl⟩ := hsent.1
    have hstep : t.step publish (.submit topic m) =
        t.answered topic m (t.pool.submit topic m) := by
      simp only [Traffic.step, hopen, if_true]
    obtain ⟨hopen', hnext'⟩ := ih (t := t.step publish (.submit topic m)) hsent.2
      (by rw [hstep]; exact hopen)
    have hnext : (t.step publish (.submit topic m)).pool.next = t.pool.next + 1 := by
      rw [hstep]
      exact (submit_answer t.pool topic m).1
    rw [Traffic.run_cons]
    exact ⟨hopen', by rw [hnext', hnext, List.length_cons]; omega⟩

theorem submissions_eq {batch : List Dispatch} {a : Action β}
    (h : a ∈ submissions topics batch) : ∃ topic m, a = .submit topic m := by
  obtain ⟨x, -, rfl⟩ := List.mem_map.mp h
  exact ⟨_, _, rfl⟩

theorem submitted_eq {t : Traffic β} {r : WriteRequest} {sent : List (Action β)}
    (hopen : t.isOpen = true) (hsent : sent <+: submissions topics r.batch)
    (hpool : (t.run publish sent).pool = (queueAll topics r.batch t.pool).1) :
    r.submitted topics t.pool = sent := by
  have hnext := (run_submissions_next publish (fun a ha => submissions_eq (hsent.subset ha)) hopen).2
  have hlength : (queueAll topics r.batch t.pool).1.next - t.pool.next = sent.length := by
    rw [← hpool, hnext]
    omega
  rw [WriteRequest.submitted, hlength]
  exact (List.prefix_iff_eq_take.mp hsent).symm

theorem run_submitted (publish : Publishing β) (topics : Topics) (r : WriteRequest)
    {t : Traffic β} (hopen : t.isOpen = true) :
    ∃ jobs answers,
      Queueing topics t.pool.next r.batch jobs answers (queueAll topics r.batch t.pool).2.2 ∧
      let u := t.run publish (r.submitted topics t.pool)
      u.isOpen = true ∧ u.pool = (queueAll topics r.batch t.pool).1 ∧ u.channel = t.channel ∧
        u.acknowledgements = t.acknowledgements ∧ u.history = t.history ++ answers := by
  obtain ⟨sent, jobs, answers, hsent, hq, hpool, hchannel, hacks, hhistory⟩ :=
    queueAll_run publish topics r.batch hopen
  refine ⟨jobs, answers, hq, ?_⟩
  rw [submitted_eq hopen hsent hpool]
  exact ⟨(run_submissions_next publish (fun a ha => submissions_eq (hsent.subset ha)) hopen).1,
    hpool, hchannel, hacks, hhistory⟩

/-! ### Blocks -/

def Job.content (job : Job) : String × Message :=
  (job.topic, job.message)

theorem jobsFrom_content (topics : Topics) (next : Nat) (batch : List Dispatch) :
    (jobsFrom topics next batch).map Job.content =
      batch.map fun x => (topics.of x.service, x.message) := by
  induction batch generalizing next with
  | nil => rfl
  | cons x batch ih => exact congrArg (_ :: ·) (ih (next + 1))

theorem Queueing.content_isPrefix {next : Nat} {r : WriteRequest} {jobs : List Job}
    {answers : List Occurrence} {numbers : Except SubmissionError (List Nat)}
    (h : Queueing topics next r.batch jobs answers numbers) :
    jobs.map Job.content <+: r.messages topics := by
  obtain ⟨queued, hqueued, rfl⟩ := h.queued_isPrefix
  rw [jobsFrom_content]
  exact hqueued.map _

structure InBlocks (topics : Topics) (count : Nat) (w : Writing β) : Prop where
  isOpen : w.traffic.isOpen = true
  ordered : Ordered count w.traffic
  answered : Answered count w.traffic
  content : ∀ b ∈ w.blocks, b.2.map Job.content <+: b.1.messages topics
  accepted_eq : accepted w.traffic.history = (w.blocks.map Prod.snd).flatten

namespace InBlocks

variable {w : Writing β}

theorem start (s : Sizing) (channel : β) :
    InBlocks topics s.workerCount (.start s channel) :=
  ⟨rfl, .start s channel, .start s channel, by simp [Writing.start], rfl⟩

theorem request (h : InBlocks topics count w) (r : WriteRequest) :
    InBlocks topics count (w.step publish topics (.request r)) := by
  obtain ⟨jobs, answers, hq, hopen, -, -, -, hhistory⟩ := run_submitted publish topics r h.isOpen
  obtain ⟨ho, ha⟩ :
      Ordered count (w.traffic.run publish (r.submitted topics w.traffic.pool)) ∧
        Answered count (w.traffic.run publish (r.submitted topics w.traffic.pool)) :=
    h.answered.run h.ordered _
  have haccepted : accepted
      (w.traffic.run publish (r.submitted topics w.traffic.pool)).history =
        accepted w.traffic.history ++ jobs := by
    rw [hhistory, accepted, List.filterMap_append]
    exact congrArg (_ ++ ·) hq.accepted_answers
  have hblock : w.step publish topics (.request r) =
      ⟨w.traffic.run publish (r.submitted topics w.traffic.pool), w.blocks ++ [(r, jobs)]⟩ := by
    simp only [Writing.step, haccepted, List.drop_left]
  rw [hblock]
  refine ⟨hopen, ho, ha, ?_, ?_⟩
  · intro b hb
    rw [List.mem_append, List.mem_singleton] at hb
    rcases hb with hb | rfl
    · exact h.content b hb
    · exact hq.content_isPrefix
  · simp [haccepted, h.accepted_eq]

theorem unconcerned (h : InBlocks topics count w) {a : Action β}
    (hopen : (w.traffic.step publish a).isOpen = w.traffic.isOpen)
    (haccepted : accepted (w.traffic.step publish a).history = accepted w.traffic.history) :
    InBlocks topics count { w with traffic := w.traffic.step publish a } :=
  ⟨hopen.trans h.isOpen, h.ordered.step a, h.answered.step h.ordered a, h.content,
    haccepted.trans h.accepted_eq⟩

theorem step (h : InBlocks topics count w) (m : Move β) :
    InBlocks topics count (w.step publish topics m) := by
  cases m with
  | request r => exact h.request r
  | work i =>
    refine h.unconcerned (a := .work i) ?_ (w.traffic.work_accepts_nothing publish i).1
    rcases w.traffic.work_cases publish i with he | ⟨job, queue, -, he⟩ | ⟨job, v, c, -, -, he⟩
    · rw [he]
    · rw [he]
    · rw [he]
  | shift channel => exact h.unconcerned (a := .shift channel) rfl rfl
  | drop n => exact h.unconcerned (a := .drop n) rfl rfl

theorem run (h : InBlocks topics count w) (moves : List (Move β)) :
    InBlocks topics count (w.run publish topics moves) :=
  List.foldlRecOn moves _ h fun _ hw m _ => hw.step m

end InBlocks

/-! ### One item -/

/-- The key of an item names it, as the key can be read back. -/
theorem key_injective {id id' : ItemId} (h : toString id.toInt = toString id'.toInt) :
    id = id' := by
  have hread (id : ItemId) :
      Text.signed? 2147483647 (toString id.toInt).toList = some id.toInt :=
    Text.signed?_toString id.le_toInt (Int.le_of_lt_add_one id.toInt_lt)
  have hsame : some id.toInt = some id'.toInt := by
    rw [← hread id, h, hread id']
  exact Int32.toInt_inj.mp (Option.some.inj hsame)

theorem key_of_content {r : WriteRequest} {jobs : List Job}
    (h : jobs.map Job.content <+: r.messages topics) {job : Job} (hj : job ∈ jobs) :
    job.message.key = toString r.id.toInt := by
  obtain ⟨x, hx, heq⟩ := List.mem_map.mp (h.subset (List.mem_map_of_mem hj))
  have hm : x.message = job.message := congrArg Prod.snd heq
  rw [← hm]
  exact WriteRequest.key_of_mem_batch hx

theorem acceptedUnder_blocks {blocks : List (WriteRequest × List Job)}
    (h : ∀ b ∈ blocks, b.2.map Job.content <+: b.1.messages topics) (id : ItemId) :
    (blocks.map Prod.snd).flatten.filter (fun job => job.message.key == toString id.toInt) =
      ((blocks.filter fun b => b.1.id == id).map Prod.snd).flatten := by
  induction blocks with
  | nil => rfl
  | cons b blocks ih =>
    rw [List.forall_mem_cons] at h
    rw [List.map_cons, List.flatten_cons, List.filter_append, ih h.2]
    by_cases hid : b.1.id = id
    · have hall : b.2.filter (fun job => job.message.key == toString id.toInt) = b.2 :=
        List.filter_eq_self.mpr fun job hj => by
          rw [key_of_content h.1 hj, hid, beq_self_eq_true]
      rw [hall, List.filter_cons, if_pos (beq_iff_eq.mpr hid), List.map_cons, List.flatten_cons]
    · have hnone : b.2.filter (fun job => job.message.key == toString id.toInt) = [] :=
        List.filter_eq_nil_iff.mpr fun job hj hk =>
          hid (key_injective ((key_of_content h.1 hj).symm.trans (beq_iff_eq.mp hk)))
      rw [hnone, List.filter_cons, if_neg (mt beq_iff_eq.mp hid), List.nil_append]

/-- A prefix of a concatenation consists of the first lists and a part of the next one. -/
theorem prefix_flatten {α : Type} {l : List α} {ls : List (List α)} (h : l <+: ls.flatten) :
    ∃ first part later, ls = first ++ later ∧ part <+: later.headD [] ∧
      l = first.flatten ++ part := by
  induction ls generalizing l with
  | nil => exact ⟨[], [], [], rfl, List.prefix_rfl, by simpa using h⟩
  | cons l' ls ih =>
    rw [List.flatten_cons] at h
    rcases List.prefix_or_prefix_of_prefix h (List.prefix_append l' ls.flatten) with hpart | hall
    · exact ⟨[], l, l' :: ls, rfl, hpart, rfl⟩
    · obtain ⟨rest, rfl⟩ := hall
      obtain ⟨first, part, later, rfl, hpart, rfl⟩ := ih ((List.prefix_append_right_inj l').mp h)
      exact ⟨l' :: first, part, later, rfl, hpart, (List.append_assoc _ _ _).symm⟩

/-- In a prefix of lists that repeat nothing, all of one list stands before any element of a
later one. -/
theorem mem_before_of_prefix {α : Type} {before earlier between later after pre post : List α}
    {x y : α} (h : pre ++ y :: post <+: before ++ (earlier ++ (between ++ (later ++ after))))
    (hnodup : (before ++ (earlier ++ (between ++ (later ++ after)))).Nodup)
    (hx : x ∈ earlier) (hy : y ∈ later) : x ∈ pre := by
  obtain ⟨rest, hrest⟩ := h
  obtain ⟨front, back, rfl⟩ := List.append_of_mem hy
  have hsplit : pre ++ y :: (post ++ rest) =
      (before ++ (earlier ++ (between ++ front))) ++ y :: (back ++ after) := by
    simpa using hrest
  rw [← hrest, List.append_assoc, List.cons_append] at hnodup
  have hnot := (List.nodup_cons.mp (List.nodup_middle.mp hnodup)).1
  rw [List.mem_append, not_or] at hnot
  obtain ⟨hpre, -, -⟩ := (List.append_cons_inj_of_notMem hnot.1 hnot.2).mp hsplit
  rw [hpre]
  exact List.mem_append_right _ (List.mem_append_left _ hx)

theorem Writing.blocks_run (publish : Publishing β) (topics : Topics) (w : Writing β)
    (moves : List (Move β)) :
    (w.run publish topics moves).blocks.map Prod.fst =
      w.blocks.map Prod.fst ++ moves.filterMap Move.request? := by
  induction moves generalizing w with
  | nil => exact (List.append_nil _).symm
  | cons m moves ih =>
    have hrun : w.run publish topics (m :: moves) =
        (w.step publish topics m).run publish topics moves := rfl
    rw [hrun, ih]
    cases m with
    | request r => simp [step, Move.request?]
    | work i => rfl
    | shift channel => rfl
    | drop n => rfl

/-! ### Requests on their own -/

section Perform

variable {ι ρ κ : Type}

def Gateway.perform (d : Deployment ι ρ κ β) (r : WriteRequest) (g : Gateway ι ρ κ β) :
    Option (Except Failure Unit) × Gateway ι ρ κ β :=
  match r with
  | .create clock s => g.create d clock s
  | .delete clock id => g.delete d clock id

theorem Gateway.perform_refused (d : Deployment ι ρ κ β) {r : WriteRequest} {f : Failure}
    (g : Gateway ι ρ κ β) (hid : checkId r.id = .error f) :
    g.perform d r = (some (.error f), g) := by
  cases r with
  | create clock s =>
    have hid' : checkId s.id = .error f := hid
    simp only [perform, create, hid']
  | delete clock id =>
    have hid' : checkId id = .error f := hid
    simp only [perform, delete, hid']

theorem Gateway.perform_write (d : Deployment ι ρ κ β) {r : WriteRequest} (g : Gateway ι ρ κ β)
    (hid : checkId r.id = .ok ()) : g.perform d r = g.write d r.batch := by
  cases r with
  | create clock s =>
    have hid' : checkId s.id = .ok () := hid
    simp only [perform, create, WriteRequest.batch, hid, hid']
  | delete clock id =>
    have hid' : checkId id = .ok () := hid
    simp only [perform, delete, WriteRequest.batch, hid, hid']

theorem Gateway.perform_cases (d : Deployment ι ρ κ β) (r : WriteRequest) (g : Gateway ι ρ κ β) :
    g.perform d r = g.write d r.batch ∨ r.batch = [] ∧ (g.perform d r).2 = g := by
  cases hid : checkId r.id with
  | error f =>
    have hbatch : r.batch = [] := by simp only [WriteRequest.batch, hid]
    exact .inr ⟨hbatch, congrArg Prod.snd (g.perform_refused d hid)⟩
  | ok => exact .inl (g.perform_write d hid)

theorem Writing.run_work (publish : Publishing β) (topics : Topics) (w : Writing β)
    (turns : List Nat) :
    (w.run publish topics (turns.map .work)).traffic =
      w.traffic.run publish (turns.map .work) := by
  induction turns generalizing w with
  | nil => rfl
  | cons i turns ih => exact ih (w.step publish topics (.work i))

/-- A request that is alone queues its messages and then lets the workers take their turns. -/
theorem InBlocks.perform_run {d : Deployment ι ρ κ β} {w : Writing β}
    (h : InBlocks d.settings.topics count w) (r : WriteRequest) (g₀ : Gateway ι ρ κ β) :
    let g := { g₀ with pool := w.traffic.pool, channel := w.traffic.channel }
    ∃ turns : List Nat,
      let v := w.run d.publish d.settings.topics (.request r :: turns.map .work)
      (g.perform d r).2.pool = v.traffic.pool ∧
        (g.perform d r).2.channel = v.traffic.channel := by
  intro g
  rcases g.perform_cases d r with he | ⟨hbatch, he⟩
  · obtain ⟨jobs, answers, -, -, hpool, hchannel, -, -⟩ :=
      run_submitted d.publish d.settings.topics r h.isOpen
    let u := w.traffic.run d.publish (r.submitted d.settings.topics w.traffic.pool)
    obtain ⟨turns, hturns⟩ := Pool.turns_eq_map (β := β) 0 u.pool.workers
    obtain ⟨history, hrun⟩ := u.run_turns d.publish
    refine ⟨turns, ?_⟩
    intro v
    have hv : v.traffic = u.run d.publish (turns.map .work) :=
      Writing.run_work d.publish d.settings.topics (w.step d.publish d.settings.topics (.request r))
        turns
    rw [he, hv, ← hturns, hrun]
    simp only [u, hpool, hchannel]
    exact ⟨rfl, rfl⟩
  · refine ⟨[], ?_⟩
    have hnone : r.submitted (β := β) d.settings.topics w.traffic.pool = [] := by
      simp only [WriteRequest.submitted, hbatch, submissions, List.map_nil, List.take_nil]
    simp only [Writing.run, List.map_nil, List.foldl_cons, List.foldl_nil, Writing.step, hnone, he,
      Traffic.run]
    exact ⟨rfl, rfl⟩

/-- Requests that overlap in any way, each of which queues a front part of its messages, stamped one
by one. What has been accepted about an item is one block for each request about it, in their order,
and what has been offered is all of the first blocks and a front part of the next: all that a
request has queued is offered before anything of a later one. -/
theorem writes_leave_in_blocks (d : Deployment ι ρ κ β) (s : Sizing) (channel : β)
    (moves : List (Move β)) (id : ItemId) :
    let topics := d.settings.topics
    let w := (Writing.start s channel).run d.publish topics moves
    let offered := offeredUnder (toString id.toInt) w.traffic.history
    let blocks := w.blocks.filter fun b => b.1.id == id
    (w.blocks.map Prod.fst = moves.filterMap Move.request? ∧
      ∀ b ∈ w.blocks, b.2.map Job.content <+: b.1.messages topics) ∧
    (acceptedUnder (toString id.toInt) w.traffic.history = (blocks.map Prod.snd).flatten ∧
      ∃ first part later, blocks.map Prod.snd = first ++ later ∧ part <+: later.headD [] ∧
        offered = first.flatten ++ part) ∧
    (∀ before earlier between later after,
      blocks = before ++ earlier :: (between ++ later :: after) →
      ∀ pre job post, offered = pre ++ job :: post → job ∈ later.2 →
        ∀ job' ∈ earlier.2, job' ∈ pre) ∧
    ∀ (r : WriteRequest) (g₀ : Gateway ι ρ κ β),
      let g := { g₀ with pool := w.traffic.pool, channel := w.traffic.channel }
      ∃ turns : List Nat,
        let v := w.run d.publish topics (.request r :: turns.map .work)
        (g.perform d r).2.pool = v.traffic.pool ∧
          (g.perform d r).2.channel = v.traffic.channel := by
  intro topics w offered blocks
  have h : InBlocks topics s.workerCount w := (InBlocks.start s channel).run moves
  have haccepted : acceptedUnder (toString id.toInt) w.traffic.history =
      (blocks.map Prod.snd).flatten := by
    rw [acceptedUnder, h.accepted_eq, acceptedUnder_blocks h.content id]
  have hoffered : offered <+: (blocks.map Prod.snd).flatten := by
    rw [← haccepted]
    exact offeredUnder_isPrefix (fun i => (h.ordered.inOrder i).offered_isPrefix) _
  refine ⟨⟨?_, h.content⟩, ⟨haccepted, prefix_flatten hoffered⟩, ?_, h.perform_run⟩
  · exact Writing.blocks_run d.publish topics (.start s channel) moves
  · intro before earlier between later after hblocks pre job post hpre hjob job' hjob'
    have hnodup : (acceptedUnder (toString id.toInt) w.traffic.history).Nodup :=
      (List.Nodup.of_map _ h.answered.distinct).filter _
    rw [haccepted] at hnodup
    have hflatten : (blocks.map Prod.snd).flatten =
        (before.map Prod.snd).flatten ++ (earlier.2 ++ ((between.map Prod.snd).flatten ++
          (later.2 ++ (after.map Prod.snd).flatten))) := by
      simp [hblocks]
    rw [hflatten] at hnodup hoffered
    rw [hpre] at hoffered
    exact mem_before_of_prefix hoffered hnodup hjob' hjob

/-- A creation of three messages and a deletion of which only the first one finds room. -/
theorem writes_leave_in_blocks_when_full :
    let d := Deployment.ofChannel (Config.ofVariables fun _ => none).settings
      (fun _ (n : Nat) => some (.accepted, n + 1))
    let w := (Writing.start ⟨1, 4⟩ 0).run d.publish d.settings.topics
      [.request (.create ticking ⟨7, "lamp", 1, [⟨1, "ann", 5, "good"⟩],
          [⟨1, "bob", "lamps", "fine"⟩]⟩),
        .request (.delete ⟨fun n => ticking.look (n + 3)⟩ 7), .work 0, .work 0,
        .request (.delete ⟨fun n => ticking.look (n + 6)⟩ 8),
        .work 0, .work 0, .work 0, .work 0, .work 0]
    let offered := offeredUnder (toString (7 : ItemId).toInt) w.traffic.history
    let blocks := w.blocks.filter fun b => b.1.id == 7
    blocks.map (fun b => b.2.map fun job => job.message.kind) =
        [["CREATE", "CREATE", "CREATE"], ["DELETE"]] ∧
      ∃ created deleted job,
        blocks = [created, deleted] ∧ offered = offered.take 3 ++ [job] ∧ job ∈ deleted.2 ∧
          ∀ job' ∈ created.2, job' ∈ offered.take 3 := by
  have h := writes_leave_in_blocks (Deployment.ofChannel (Config.ofVariables fun _ => none).settings
      (fun _ (n : Nat) => some (.accepted, n + 1))) ⟨1, 4⟩ 0
      [.request (.create ticking ⟨7, "lamp", 1, [⟨1, "ann", 5, "good"⟩],
          [⟨1, "bob", "lamps", "fine"⟩]⟩),
        .request (.delete ⟨fun n => ticking.look (n + 3)⟩ 7), .work 0, .work 0,
        .request (.delete ⟨fun n => ticking.look (n + 6)⟩ 8),
        .work 0, .work 0, .work 0, .work 0, .work 0] 7
  dsimp only at h ⊢
  obtain ⟨-, -, hbefore, -⟩ := h
  refine ⟨by decide +kernel, ?_⟩
  generalize hblocks : List.filter _ _ = blocks at hbefore ⊢
  generalize hoffered : offeredUnder _ _ = offered at hbefore ⊢
  have htwo : blocks.map Prod.snd = [offered.take 3, offered.drop 3] := by
    rw [← hblocks, ← hoffered]
    decide +kernel
  have hlast : (offered.drop 3).length = 1 := by
    rw [← hoffered]
    decide +kernel
  obtain ⟨created, rest, rfl, -, hrest⟩ := List.map_eq_cons_iff.mp htwo
  obtain ⟨deleted, none, rfl, hdeleted, hnone⟩ := List.map_eq_cons_iff.mp hrest
  obtain rfl := List.map_eq_nil_iff.mp hnone
  obtain ⟨job, hjob⟩ := List.length_eq_one_iff.mp hlast
  have hsplit : offered = offered.take 3 ++ [job] := by
    rw [← hjob, List.take_append_drop]
  have hmem : job ∈ deleted.2 := by
    rw [hdeleted, hjob]
    exact List.mem_singleton_self job
  exact ⟨created, deleted, job, rfl, hsplit, hmem,
    hbefore [] created [] deleted [] rfl _ job [] hsplit hmem⟩

end Perform

end AggregateGateway
