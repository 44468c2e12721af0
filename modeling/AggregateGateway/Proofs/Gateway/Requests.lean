import AggregateGateway.Proofs.Gateway.WriteBlocks

/-! Requests of all kinds at once. Every message of a write is queued on its own, stamped with the
time of that moment, while other writes and reads, the workers and the channel go on. Reads leave
the pool and the channel alone. -/

namespace AggregateGateway

open Catalog
open Publish

namespace WriteRequest

def clock : WriteRequest → Time.Clock
  | .create clock _ => clock
  | .delete clock _ => clock

/-- The same request, with one time for all its messages. -/
def stamped (stamp : Time.Instant) : WriteRequest → WriteRequest
  | .create _ s => .create stamp s
  | .delete _ id => .delete stamp id

/-- What is stamped with a look of the clock of a request is its own message of that place. -/
theorem getElem?_batch_look (r : WriteRequest) (n : Nat) :
    (r.stamped (r.clock.look n)).batch[n]? = r.batch[n]? := by
  cases r with
  | create clock _ | delete clock _ =>
    simp only [batch, stamped, WriteRequest.id]
    split
    · rfl
    · simp only [creation, deletion, Time.Clock.getElem?_stamp]
      rfl

end WriteRequest

inductive Reading where
  | aggregates (wishes : List Wish)
  | item (w : Wish)
  | ratings (w : Wish)
  | commentary (w : Wish)
  | health

variable {ι ρ κ β : Type}

/-- The gateway when a read is over. -/
def Gateway.after (d : Deployment ι ρ κ β) (g : Gateway ι ρ κ β) : Reading → Gateway ι ρ κ β
  | .aggregates wishes => (g.readTogether d wishes).2
  | .item w => (g.readItem d w).2
  | .ratings w => (g.readRatings d w).2
  | .commentary w => (g.readCommentary d w).2
  | .health => (g.health d).2

/-- A write at work. -/
structure Progress where
  request : WriteRequest
  /-- How many of its messages it has submitted. -/
  submitted : Nat
  /-- One of them was refused. -/
  hasStopped : Bool

inductive Operation (ι ρ κ β : Type) where
  | write (r : WriteRequest)
  /-- A write submits its next message. -/
  | submit (k : Nat) (stamp : Time.Instant)
  | read (q : Reading)
  /-- A read gets on, or a service changes. -/
  | elsewhere (g : Gateway ι ρ κ β)
  | work (i : Nat)
  | shift (channel : β)
  | drop (n : Nat)
  | close

namespace Operation

def write? : Operation ι ρ κ β → Option WriteRequest
  | .write r => some r
  | _ => none

def isReading : Operation ι ρ κ β → Bool
  | .read _ => true
  | .elsewhere _ => true
  | _ => false

/-- The `k`-th write submits `count` messages from its `n`-th on, with one look at the clock for
each. -/
def submissions (clock : Time.Clock) (k n count : Nat) : List (Operation ι ρ κ β) :=
  (List.range' n count).map fun i => .submit k (clock.look i)

theorem submissions_succ (clock : Time.Clock) (k n count : Nat) :
    (submissions clock k n (count + 1) : List (Operation ι ρ κ β)) =
      .submit k (clock.look n) :: submissions clock k (n + 1) count := by
  simp only [submissions, List.range'_succ, List.map_cons]

end Operation

structure Running (ι ρ κ β : Type) where
  traffic : Traffic β
  /-- All of the gateway but its pool and its channel. -/
  around : Gateway ι ρ κ β
  writes : List Progress

namespace Running

def start (d : Deployment ι ρ κ β) (around : Gateway ι ρ κ β) (channel : β) : Running ι ρ κ β :=
  ⟨.start d.settings.pool channel, around, []⟩

def gateway (u : Running ι ρ κ β) : Gateway ι ρ κ β :=
  { u.around with pool := u.traffic.pool, channel := u.traffic.channel }

/-- The write submits the message. -/
def submitted (d : Deployment ι ρ κ β) (u : Running ι ρ κ β) (k : Nat) (p : Progress)
    (x : Dispatch) : Running ι ρ κ β :=
  let topic := d.settings.topics.of x.service
  let isQueued := u.traffic.isOpen && (u.traffic.pool.submit topic x.message).2.isOk
  { u with
    traffic := u.traffic.step d.publish (.submit topic x.message)
    writes := u.writes.set k ⟨p.request, p.submitted + 1, !isQueued⟩ }

/-- What the `k`-th write submits next, unless it has stopped or is through. -/
def next? (u : Running ι ρ κ β) (k : Nat) (stamp : Time.Instant) : Option (Progress × Dispatch) :=
  match u.writes[k]? with
  | none => none
  | some p =>
    if p.hasStopped then none
    else ((p.request.stamped stamp).batch[p.submitted]?).map (p, ·)

def step (d : Deployment ι ρ κ β) (u : Running ι ρ κ β) : Operation ι ρ κ β → Running ι ρ κ β
  | .write r => { u with writes := u.writes ++ [⟨r, 0, false⟩] }
  | .submit k stamp =>
    match u.next? k stamp with
    | none => u
    | some (p, x) => u.submitted d k p x
  | .read q =>
    let g := u.gateway.after d q
    { u with around := g, traffic := { u.traffic with pool := g.pool, channel := g.channel } }
  | .elsewhere g => { u with around := g }
  | .work i => { u with traffic := u.traffic.step d.publish (.work i) }
  | .shift channel => { u with traffic := u.traffic.step d.publish (.shift channel) }
  | .drop n => { u with traffic := u.traffic.step d.publish (.drop n) }
  | .close => { u with traffic := u.traffic.step d.publish .close }

def run (d : Deployment ι ρ κ β) (u : Running ι ρ κ β) (operations : List (Operation ι ρ κ β)) :
    Running ι ρ κ β :=
  operations.foldl (step d) u

theorem run_cons (d : Deployment ι ρ κ β) (u : Running ι ρ κ β) (o : Operation ι ρ κ β)
    (operations : List (Operation ι ρ κ β)) :
    u.run d (o :: operations) = (u.step d o).run d operations := rfl

theorem run_append (d : Deployment ι ρ κ β) (u : Running ι ρ κ β)
    (operations later : List (Operation ι ρ κ β)) :
    u.run d (operations ++ later) = (u.run d operations).run d later :=
  List.foldl_append

variable {d : Deployment ι ρ κ β} {u : Running ι ρ κ β}

theorem next?_eq_some_iff {k : Nat} {stamp : Time.Instant} {p : Progress} {x : Dispatch} :
    u.next? k stamp = some (p, x) ↔ u.writes[k]? = some p ∧ p.hasStopped = false ∧
      (p.request.stamped stamp).batch[p.submitted]? = some x := by
  unfold next?
  cases hk : u.writes[k]? with
  | none => simp
  | some q =>
    cases hq : q.hasStopped with
    | true =>
      constructor
      · intro h
        simp [hq] at h
      · rintro ⟨h, hp, -⟩
        obtain rfl := Option.some.inj h
        simp [hq] at hp
    | false =>
      constructor
      · intro h
        simp only [hq, Bool.false_eq_true, if_false, Option.map_eq_some_iff, Prod.mk.injEq] at h
        obtain ⟨y, hy, rfl, rfl⟩ := h
        exact ⟨rfl, hq, hy⟩
      · rintro ⟨h, -, hx⟩
        obtain rfl := Option.some.inj h
        simp [hq, hx]

theorem step_submit {k : Nat} {stamp : Time.Instant} {p : Progress} {x : Dispatch}
    (h : u.next? k stamp = some (p, x)) :
    u.step d (.submit k stamp) = u.submitted d k p x := by
  simp only [step, h]

theorem writes_submitted {k : Nat} {p : Progress} (hk : u.writes[k]? = some p) (x : Dispatch) :
    (u.submitted d k p x).writes[k]? = some ⟨p.request, p.submitted + 1,
      !(u.traffic.isOpen &&
        (u.traffic.pool.submit (d.settings.topics.of x.service) x.message).2.isOk)⟩ := by
  have hlt : k < u.writes.length := (List.getElem?_eq_some_iff.mp hk).1
  simp only [submitted, List.getElem?_set_self hlt]

theorem traffic_submitted (hopen : u.traffic.isOpen = true) (k : Nat) (p : Progress)
    (x : Dispatch) :
    (u.submitted d k p x).traffic = u.traffic.answered (d.settings.topics.of x.service) x.message
      (u.traffic.pool.submit (d.settings.topics.of x.service) x.message) := by
  simp only [submitted, Traffic.step, hopen, if_true]

theorem requests_submitted {k : Nat} {p : Progress} (hk : u.writes[k]? = some p) (x : Dispatch) :
    (u.submitted d k p x).writes.map Progress.request = u.writes.map Progress.request := by
  obtain ⟨hlt, rfl⟩ := List.getElem?_eq_some_iff.mp hk
  apply List.ext_getElem
  · simp [submitted]
  · intro i hi hi'
    by_cases hik : k = i
    · simp [submitted, hik]
    · simp [submitted, List.getElem_set_ne hik]

/-- The writes that have begun are those of the run. -/
theorem requests_run (u : Running ι ρ κ β) (operations : List (Operation ι ρ κ β)) :
    (u.run d operations).writes.map Progress.request =
      u.writes.map Progress.request ++ operations.filterMap Operation.write? := by
  induction operations generalizing u with
  | nil => exact (List.append_nil _).symm
  | cons o operations ih =>
    rw [run_cons, ih]
    cases o with
    | write r => simp [step, Operation.write?]
    | submit k stamp =>
      simp only [step, Operation.write?, List.filterMap_cons]
      cases hnext : u.next? k stamp with
      | none => rfl
      | some y => rw [requests_submitted (next?_eq_some_iff.mp hnext).1]
    | read | elsewhere | work | shift | drop | close => rfl

end Running

/-! ### Reads -/

section Reads

theorem fetchDetails_keeps (d : Deployment ι ρ κ β) (wishes : List Wish) (g : Gateway ι ρ κ β) :
    (Gateway.fetchDetails d wishes g).2.pool = g.pool ∧
      (Gateway.fetchDetails d wishes g).2.channel = g.channel := by
  induction wishes generalizing g with
  | nil => exact ⟨rfl, rfl⟩
  | cons w wishes ih => exact ih ((g.fetchRatings d w).2.fetchCommentary d w).2

/-- Whatever is read, the pool and the channel stay as they are. -/
theorem Gateway.after_keeps (d : Deployment ι ρ κ β) (g : Gateway ι ρ κ β) (q : Reading) :
    (g.after d q).pool = g.pool ∧ (g.after d q).channel = g.channel := by
  cases q with
  | aggregates wishes => exact fetchDetails_keeps d _ (g.fetchItems d _).2
  | item w => exact ⟨rfl, rfl⟩
  | ratings w => exact ⟨rfl, rfl⟩
  | commentary w => exact ⟨rfl, rfl⟩
  | health => exact ⟨rfl, rfl⟩

namespace Running

variable {d : Deployment ι ρ κ β} {u v : Running ι ρ κ β}

/-- The same work on writes, whatever is being read. -/
def SameWrites (u v : Running ι ρ κ β) : Prop :=
  u.traffic = v.traffic ∧ u.writes = v.writes

theorem sameWrites_of_isReading (u : Running ι ρ κ β) {o : Operation ι ρ κ β}
    (h : o.isReading = true) : (u.step d o).SameWrites u := by
  cases o with
  | read q =>
    obtain ⟨hpool, hchannel⟩ := u.gateway.after_keeps d q
    refine ⟨?_, rfl⟩
    simp only [step, hpool, hchannel]
    rfl
  | elsewhere g => exact ⟨rfl, rfl⟩
  | write | submit | work | shift | drop | close => simp [Operation.isReading] at h

theorem SameWrites.step (h : u.SameWrites v) {o : Operation ι ρ κ β} (ho : o.isReading = false) :
    (u.step d o).SameWrites (v.step d o) := by
  obtain ⟨traffic, around, writes⟩ := u
  obtain ⟨traffic', around', writes'⟩ := v
  obtain ⟨rfl, rfl⟩ : traffic = traffic' ∧ writes = writes' := h
  cases o with
  | read q => simp [Operation.isReading] at ho
  | elsewhere g => simp [Operation.isReading] at ho
  | submit k stamp =>
    have hnext : (Running.mk traffic around writes).next? k stamp =
        (Running.mk traffic around' writes).next? k stamp := rfl
    simp only [Running.step, hnext]
    cases (Running.mk traffic around' writes).next? k stamp with
    | none => exact ⟨rfl, rfl⟩
    | some x => exact ⟨rfl, rfl⟩
  | write | work | shift | drop | close => exact ⟨rfl, rfl⟩

theorem SameWrites.run (h : u.SameWrites v) (operations : List (Operation ι ρ κ β)) :
    (u.run d operations).SameWrites (v.run d (operations.filter fun o => !o.isReading)) := by
  induction operations generalizing u v with
  | nil => exact h
  | cons o operations ih =>
    cases ho : o.isReading with
    | true =>
      obtain ⟨htraffic, hwrites⟩ := u.sameWrites_of_isReading (d := d) ho
      rw [List.filter_cons_of_neg (by simp [ho])]
      exact ih ⟨htraffic.trans h.1, hwrites.trans h.2⟩
    | false =>
      rw [List.filter_cons_of_pos (by simp [ho])]
      exact ih (h.step ho)

end Running

end Reads

/-! ### A write on its own -/

namespace Running

variable {d : Deployment ι ρ κ β} {u : Running ι ρ κ β}

theorem run_work (turns : List Nat) :
    (u.run d (turns.map .work)).traffic = u.traffic.run d.publish (turns.map .work) := by
  induction turns generalizing u with
  | nil => rfl
  | cons i turns ih => exact ih (u := u.step d (.work i))

theorem run_submit_stopped {r : WriteRequest} {k n : Nat} (hk : u.writes[k]? = some ⟨r, n, true⟩)
    (clock : Time.Clock) (m count : Nat) :
    u.run d (Operation.submissions clock k m count) = u := by
  have hstep (stamp : Time.Instant) : u.step d (.submit k stamp) = u := by simp [step, next?, hk]
  induction count generalizing m with
  | zero => rfl
  | succ count ih => rw [Operation.submissions_succ, run_cons, hstep, ih]

/-- What a write submits next by its own clock. -/
theorem next?_of_drop {r : WriteRequest} {k n : Nat} {x : Dispatch} {xs : List Dispatch}
    (hk : u.writes[k]? = some ⟨r, n, false⟩) (hxs : r.batch.drop n = x :: xs) :
    u.next? k (r.clock.look n) = some (⟨r, n, false⟩, x) ∧ r.batch.drop (n + 1) = xs := by
  constructor
  · have hx : r.batch[n]? = some x := by
      rw [← List.head?_drop, hxs]
      rfl
    exact next?_eq_some_iff.mpr ⟨hk, rfl, (r.getElem?_batch_look n).trans hx⟩
  · rw [← List.tail_drop, hxs]
    rfl

/-- A write that is left alone submits its messages up to the first that is refused. -/
theorem run_submit_all {r : WriteRequest} {k : Nat} (xs : List Dispatch) :
    ∀ {u : Running ι ρ κ β} {n : Nat}, u.writes[k]? = some ⟨r, n, false⟩ → r.batch.drop n = xs →
      u.traffic.isOpen = true →
      let v := u.run d (Operation.submissions r.clock k n xs.length)
      v.traffic.pool = (queueAll d.settings.topics xs u.traffic.pool).1 ∧
        v.traffic.channel = u.traffic.channel := by
  induction xs with
  | nil => exact fun _ _ _ => ⟨rfl, rfl⟩
  | cons x xs ih =>
    intro u n hk hxs hopen v
    obtain ⟨hnext, hmore⟩ := next?_of_drop hk hxs
    have hrun : v = (u.submitted d k ⟨r, n, false⟩ x).run d
        (Operation.submissions r.clock k (n + 1) xs.length) := by
      simp only [v, List.length_cons, Operation.submissions_succ, run_cons, step_submit hnext]
    have htraffic := traffic_submitted (d := d) hopen k ⟨r, n, false⟩ x
    have hwrites := writes_submitted (d := d) hk x
    obtain ⟨-, hanswer⟩ := submit_answer u.traffic.pool (d.settings.topics.of x.service) x.message
    rcases hanswer with hanswer | ⟨e, -, hanswer⟩
    · rw [hopen, hanswer] at hwrites
      obtain ⟨hpool, hchannel⟩ := ih hwrites hmore (by rw [htraffic]; exact hopen)
      rw [hrun, hpool, hchannel, htraffic, (queueAll_cons_queued xs hanswer).1]
      exact ⟨rfl, rfl⟩
    · rw [hopen, hanswer] at hwrites
      rw [hrun, run_submit_stopped hwrites, htraffic, (queueAll_cons_refused xs hanswer).1]
      exact ⟨rfl, rfl⟩

theorem perform_run (u : Running ι ρ κ β) (hopen : u.traffic.isOpen = true) (r : WriteRequest)
    (g₀ : Gateway ι ρ κ β) :
    let g := { g₀ with pool := u.traffic.pool, channel := u.traffic.channel }
    ∃ turns : List Nat,
      let v := u.run d (.write r ::
        (Operation.submissions r.clock u.writes.length 0 r.batch.length ++ turns.map .work))
      (g.perform d r).2.pool = v.traffic.pool ∧ (g.perform d r).2.channel = v.traffic.channel := by
  intro g
  have hk : (u.step d (.write r)).writes[u.writes.length]? = some ⟨r, 0, false⟩ := by
    simp [step]
  let v := (u.step d (.write r)).run d
    (Operation.submissions r.clock u.writes.length 0 r.batch.length)
  obtain ⟨hpool, hchannel⟩ :
      v.traffic.pool = (queueAll d.settings.topics r.batch u.traffic.pool).1 ∧
        v.traffic.channel = u.traffic.channel := run_submit_all r.batch hk rfl hopen
  rcases g.perform_cases d r with he | ⟨hbatch, he⟩
  · obtain ⟨turns, hturns⟩ := Pool.turns_eq_map (β := β) 0 v.traffic.pool.workers
    obtain ⟨history, hrun⟩ := v.traffic.run_turns d.publish
    refine ⟨turns, ?_⟩
    intro w
    have hw : w.traffic = v.traffic.run d.publish (Pool.turns 0 v.traffic.pool.workers) := by
      rw [hturns, ← run_work, ← run_append]
      rfl
    rw [hw, hrun, he, hpool, hchannel]
    exact ⟨rfl, rfl⟩
  · refine ⟨[], ?_⟩
    rw [hbatch, he]
    exact ⟨rfl, rfl⟩

end Running

end AggregateGateway
