import AggregateGateway.Proofs.Gateway.Announcements
import AggregateGateway.Proofs.Publish.Accounting

/-! What a write has to show for the messages it has queued. Every queued message leaves a ticket
with its write; when all of them have been acknowledged with success, their jobs are what the
channel has accepted of the write, in the order in which they were queued. -/

namespace AggregateGateway

open Catalog
open Publish

structure Ticket where
  service : Service
  job : Job
  deriving DecidableEq

variable {ι ρ κ β : Type} {d : Deployment ι ρ κ β} {u : Running ι ρ κ β} {k : Nat}
  {held : List Ticket}

namespace Running

/-- The ticket that the `k`-th write gets if the operation queues a message of it. -/
def ticket? (d : Deployment ι ρ κ β) (u : Running ι ρ κ β) (k : Nat) :
    Operation ι ρ κ β → Option Ticket
  | .submit j stamp =>
    match u.next? j stamp with
    | none => none
    | some (_, x) =>
      let topic := d.settings.topics.of x.service
      match u.traffic.isOpen, j == k, (u.traffic.pool.submit topic x.message).2 with
      | true, true, .ok n => some ⟨x.service, n, topic, x.message⟩
      | _, _, _ => none
  | _ => none

def tickets (d : Deployment ι ρ κ β) (k : Nat) :
    Running ι ρ κ β → List (Operation ι ρ κ β) → List Ticket
  | _, [] => []
  | u, o :: later => (u.ticket? d k o).toList ++ (u.step d o).tickets d k later

theorem tickets_append (u : Running ι ρ κ β) (operations later : List (Operation ι ρ κ β)) :
    u.tickets d k (operations ++ later) =
      u.tickets d k operations ++ (u.run d operations).tickets d k later := by
  induction operations generalizing u with
  | nil => rfl
  | cons o operations ih =>
    simp only [List.cons_append, tickets, ih, List.append_assoc]
    rfl

/-- A write has succeeded when all its messages are queued and have been acknowledged. -/
def HasSucceeded (u : Running ι ρ κ β) (k : Nat) (held : List Ticket) : Prop :=
  ∃ p, u.writes[k]? = some p ∧ p.hasStopped = false ∧ p.submitted = p.request.batch.length ∧
    outcome (held.map fun x => x.job.number) u.traffic.acknowledgements = some (.ok ())

end Running

/-- The ticket belongs to the message in the `n`-th place of the write, stamped when it was
submitted. -/
def Ticket.Fills (d : Deployment ι ρ κ β) (r : WriteRequest) (n : Nat) (x : Ticket) : Prop :=
  x.job.topic = d.settings.topics.of x.service ∧
    ∃ stamp, (r.stamped stamp).batch[n]? = some ⟨x.service, x.job.message⟩

/-- The tickets of a write against its progress and the history of the pool. -/
structure Ticketed (d : Deployment ι ρ κ β) (k : Nat) (held : List Ticket)
    (u : Running ι ρ κ β) : Prop where
  early : u.writes[k]? = none → held = []
  count : ∀ p, u.writes[k]? = some p → p.hasStopped = false → held.length = p.submitted
  place : ∀ p, u.writes[k]? = some p → ∀ n (x : Ticket), held[n]? = some x → x.Fills d p.request n
  queued : (held.map Ticket.job).Sublist (accepted u.traffic.history)

namespace Ticketed

theorem start (d : Deployment ι ρ κ β) (k : Nat) (around : Gateway ι ρ κ β) (channel : β) :
    Ticketed d k [] (.start d around channel) := by
  constructor <;> simp [Running.start]

variable {v : Running ι ρ κ β}

theorem unconcerned (h : Ticketed d k held u) (hwrites : v.writes[k]? = u.writes[k]?)
    (hhistory : u.traffic.history <+: v.traffic.history) : Ticketed d k held v := by
  refine ⟨?_, ?_, ?_, ?_⟩
  · rw [hwrites]
    exact h.early
  · rw [hwrites]
    exact h.count
  · rw [hwrites]
    exact h.place
  · exact h.queued.trans (hhistory.filterMap _).sublist

theorem refused (h : Ticketed d k held u) {p : Progress} (hp : u.writes[k]? = some p) {n : Nat}
    (hv : v.writes[k]? = some ⟨p.request, n, true⟩)
    (hhistory : u.traffic.history <+: v.traffic.history) : Ticketed d k held v := by
  refine ⟨?_, ?_, ?_, ?_⟩
  · intro hnone
    exact absurd (hv.symm.trans hnone) nofun
  · intro q hq hstopped
    obtain rfl := Option.some.inj (hv.symm.trans hq)
    exact absurd hstopped nofun
  · intro q hq
    obtain rfl := Option.some.inj (hv.symm.trans hq)
    exact h.place p hp
  · exact h.queued.trans (hhistory.filterMap _).sublist

theorem issued (h : Ticketed d k held u) {p : Progress} (hp : u.writes[k]? = some p)
    (hgoing : p.hasStopped = false) (hv : v.writes[k]? = some ⟨p.request, p.submitted + 1, false⟩)
    {x : Ticket} (hx : x.Fills d p.request p.submitted)
    (haccepted : accepted v.traffic.history = accepted u.traffic.history ++ [x.job]) :
    Ticketed d k (held ++ [x]) v := by
  have hcount := h.count p hp hgoing
  refine ⟨?_, ?_, ?_, ?_⟩
  · intro hnone
    exact absurd (hv.symm.trans hnone) nofun
  · intro q hq _
    obtain rfl := Option.some.inj (hv.symm.trans hq)
    simp [hcount]
  · intro q hq n y hy
    obtain rfl := Option.some.inj (hv.symm.trans hq)
    rcases Nat.lt_or_ge n held.length with hn | hn
    · rw [List.getElem?_append_left hn] at hy
      exact h.place p hp n y hy
    · rw [List.getElem?_append_right hn] at hy
      obtain ⟨hlt, rfl⟩ := List.getElem?_eq_some_iff.mp hy
      have hn' : n = p.submitted := by
        simp only [List.length_singleton] at hlt
        omega
      simpa [hn'] using hx
  · rw [haccepted, List.map_append]
    exact h.queued.append (List.Sublist.refl _)

theorem begun (h : Ticketed d k held u) (r : WriteRequest) :
    Ticketed d k (held ++ (u.ticket? d k (.write r)).toList) (u.step d (.write r)) := by
  have hwrites : (u.step d (.write r)).writes = u.writes ++ [⟨r, 0, false⟩] := rfl
  rw [show u.ticket? d k (.write r) = none from rfl, Option.toList_none, List.append_nil]
  rcases Nat.lt_or_ge k u.writes.length with hk | hk
  · exact h.unconcerned (by rw [hwrites, List.getElem?_append_left hk]) List.prefix_rfl
  · -- the write begins now or later, without a ticket
    obtain rfl : held = [] := h.early (List.getElem?_eq_none hk)
    refine ⟨fun _ => rfl, ?_, by simp, List.nil_sublist _⟩
    intro p hp _
    rw [hwrites, List.getElem?_append_right hk] at hp
    obtain ⟨-, rfl⟩ := List.getElem?_eq_some_iff.mp hp
    simp

theorem submit (h : Ticketed d k held u) {stamp : Time.Instant} {p : Progress} {x : Dispatch}
    (hnext : u.next? k stamp = some (p, x)) :
    Ticketed d k (held ++ (u.ticket? d k (.submit k stamp)).toList) (u.submitted d k p x) := by
  obtain ⟨hp, hgoing, hx⟩ := Running.next?_eq_some_iff.mp hnext
  have hwrites := Running.writes_submitted (d := d) hp x
  have hhistory : u.traffic.history <+: (u.submitted d k p x).traffic.history :=
    u.traffic.history_isPrefix_step _
  cases hopen : u.traffic.isOpen with
  | false =>
    have hno : u.ticket? d k (.submit k stamp) = none := by
      simp [Running.ticket?, hnext, hopen]
    rw [hopen, Bool.false_and] at hwrites
    rw [hno, Option.toList_none, List.append_nil]
    exact h.refused hp hwrites hhistory
  | true =>
    cases hanswer : (u.traffic.pool.submit (d.settings.topics.of x.service) x.message).2 with
    | error e =>
      have hno : u.ticket? d k (.submit k stamp) = none := by
        simp [Running.ticket?, hnext, hopen, hanswer]
      rw [hopen, hanswer] at hwrites
      rw [hno, Option.toList_none, List.append_nil]
      exact h.refused hp hwrites hhistory
    | ok n =>
      have hticket : u.ticket? d k (.submit k stamp) =
          some ⟨x.service, n, d.settings.topics.of x.service, x.message⟩ := by
        simp [Running.ticket?, hnext, hopen, hanswer]
      rw [hopen, hanswer] at hwrites
      rw [hticket, Option.toList_some]
      refine h.issued hp hgoing hwrites ⟨rfl, stamp, hx⟩ ?_
      simp [Running.submitted, Traffic.step, hopen, Traffic.answered, hanswer, accepted]

theorem step (h : Ticketed d k held u) (o : Operation ι ρ κ β) :
    Ticketed d k (held ++ (u.ticket? d k o).toList) (u.step d o) := by
  -- whatever leaves no ticket and does not touch the write
  have hothers : ∀ o, u.ticket? d k o = none → (u.step d o).writes[k]? = u.writes[k]? →
      u.traffic.history <+: (u.step d o).traffic.history →
        Ticketed d k (held ++ (u.ticket? d k o).toList) (u.step d o) := by
    intro o hno hwrites hhistory
    rw [hno, Option.toList_none, List.append_nil]
    exact h.unconcerned hwrites hhistory
  cases o with
  | write r => exact h.begun r
  | submit j stamp =>
    cases hnext : u.next? j stamp with
    | none =>
      have hstep : u.step d (.submit j stamp) = u := by simp only [Running.step, hnext]
      have hno : u.ticket? d k (.submit j stamp) = none := by simp only [Running.ticket?, hnext]
      exact hothers _ hno (by rw [hstep]) (by rw [hstep])
    | some y =>
      obtain ⟨p, x⟩ := y
      have hstep : u.step d (.submit j stamp) = u.submitted d j p x :=
        Running.step_submit hnext
      by_cases hj : j = k
      · subst hj
        rw [hstep]
        exact h.submit hnext
      · have hno : u.ticket? d k (.submit j stamp) = none := by
          simp [Running.ticket?, hnext, hj]
        refine hothers _ hno ?_ ?_
        · rw [hstep]
          exact List.getElem?_set_ne hj
        · rw [hstep]
          exact u.traffic.history_isPrefix_step _
  | read q =>
    obtain ⟨htraffic, hwrites⟩ := u.sameWrites_of_isReading (d := d) (o := .read q) rfl
    exact hothers _ rfl (by rw [hwrites]) (by rw [htraffic])
  | elsewhere g => exact hothers _ rfl rfl List.prefix_rfl
  | work i => exact hothers _ rfl rfl (u.traffic.history_isPrefix_step _)
  | shift channel => exact hothers _ rfl rfl (u.traffic.history_isPrefix_step _)
  | drop n => exact hothers _ rfl rfl (u.traffic.history_isPrefix_step _)
  | close => exact hothers _ rfl rfl (u.traffic.history_isPrefix_step _)

theorem run (h : Ticketed d k held u) (operations : List (Operation ι ρ κ β)) :
    Ticketed d k (held ++ u.tickets d k operations) (u.run d operations) := by
  induction operations generalizing u held with
  | nil => simpa [Running.tickets, Running.run] using h
  | cons o operations ih =>
    rw [Running.run_cons, Running.tickets, ← List.append_assoc]
    exact ih (h.step o)

/-- What the channel has accepted of a write that has succeeded, if its messages have one key. -/
theorem published {count : Nat} {key : String} (h : Ticketed d k held u)
    (ho : Ordered count u.traffic) (ha : Answered count u.traffic)
    (hfinished : ∀ i, finishedBy i u.traffic.history <+: acceptedFor count i u.traffic.history)
    (hkey : ∀ x ∈ held, x.job.message.key = key)
    (hok : outcome (held.map fun x => x.job.number) u.traffic.acknowledgements = some (.ok ())) :
    (published u.traffic.history).filter (· ∈ held.map Ticket.job) = held.map Ticket.job := by
  let i := Pool.shardOf count key
  have hshard : (held.map Ticket.job).filter
      (fun job => Pool.shardOf count job.message.key == i) = held.map Ticket.job := by
    rw [List.filter_eq_self]
    intro job hj
    obtain ⟨x, hx, rfl⟩ := List.mem_map.mp hj
    rw [hkey x hx, beq_self_eq_true]
  have hjobs : (held.map Ticket.job).Sublist (acceptedFor count i u.traffic.history) := by
    rw [← hshard]
    exact h.queued.filter _
  have hnumbers : held.map (fun x => x.job.number) = (held.map Ticket.job).map Job.number := by
    rw [List.map_map]
    rfl
  rw [hnumbers, outcome_eq_ok_iff ha ho fun job hj => hjobs.subset hj] at hok
  exact ha.published_filter hfinished hjobs fun job hj => fate_ok_iff.mp (hok job hj)

end Ticketed

namespace Running

theorem traffic_run (u : Running ι ρ κ β) (operations : List (Operation ι ρ κ β)) :
    ∃ actions, (u.run d operations).traffic = u.traffic.run d.publish actions := by
  induction operations generalizing u with
  | nil => exact ⟨[], rfl⟩
  | cons o operations ih =>
    obtain ⟨actions, hactions⟩ := ih (u.step d o)
    have hstep : ∃ first, (u.step d o).traffic = u.traffic.run d.publish first := by
      cases o with
      | write r => exact ⟨[], rfl⟩
      | submit j stamp =>
        cases hnext : u.next? j stamp with
        | none => exact ⟨[], by simp only [step, hnext]; rfl⟩
        | some y =>
          obtain ⟨p, x⟩ := y
          exact ⟨[.submit (d.settings.topics.of x.service) x.message], by
            simp only [step, hnext]
            rfl⟩
      | read q => exact ⟨[], (u.sameWrites_of_isReading (d := d) (o := .read q) rfl).1⟩
      | elsewhere g => exact ⟨[], rfl⟩
      | work i => exact ⟨[.work i], rfl⟩
      | shift channel => exact ⟨[.shift channel], rfl⟩
      | drop n => exact ⟨[.drop n], rfl⟩
      | close => exact ⟨[.close], rfl⟩
    obtain ⟨first, hfirst⟩ := hstep
    exact ⟨first ++ actions, by rw [run_cons, hactions, hfirst, Traffic.run_append]⟩

/-! ### A write on its own -/

theorem tickets_work (turns : List Nat) : u.tickets d k (turns.map .work) = [] := by
  induction turns generalizing u with
  | nil => rfl
  | cons i turns ih => exact ih (u := u.step d (.work i))

theorem writes_work (turns : List Nat) : (u.run d (turns.map .work)).writes = u.writes := by
  induction turns generalizing u with
  | nil => rfl
  | cons i turns ih => exact ih (u := u.step d (.work i))

/-- A write that is left alone and never refused gets a ticket for each of its messages. -/
theorem tickets_submit_all {r : WriteRequest} (xs : List Dispatch) :
    ∀ {u : Running ι ρ κ β} {n : Nat} {numbers : List Nat},
      u.writes[k]? = some ⟨r, n, false⟩ → r.batch.drop n = xs → u.traffic.isOpen = true →
      (queueAll d.settings.topics xs u.traffic.pool).2.2 = .ok numbers →
      let submissions := Operation.submissions r.clock k n xs.length
      (u.run d submissions).writes[k]? = some ⟨r, n + xs.length, false⟩ ∧
        (u.tickets d k submissions).map (fun x => x.job.number) = numbers ∧
        (u.run d submissions).traffic.acknowledgements = u.traffic.acknowledgements := by
  induction xs with
  | nil =>
    intro u n numbers hk _ _ hnumbers
    obtain rfl : [] = numbers := Except.ok.inj hnumbers
    exact ⟨hk, rfl, rfl⟩
  | cons x xs ih =>
    intro u n numbers hk hxs hopen hnumbers submissions
    obtain ⟨hnext, hmore⟩ := next?_of_drop hk hxs
    let topic := d.settings.topics.of x.service
    have hstep : u.step d (.submit k (r.clock.look n)) = u.submitted d k ⟨r, n, false⟩ x :=
      step_submit hnext
    rcases (submit_answer u.traffic.pool topic x.message).2 with hanswer | ⟨e, -, hanswer⟩
    · have hticket : u.ticket? d k (.submit k (r.clock.look n)) =
          some ⟨x.service, u.traffic.pool.next, topic, x.message⟩ := by
        simp [ticket?, hnext, hopen, hanswer, topic]
      have hwrites := writes_submitted (d := d) hk x
      rw [hopen, hanswer] at hwrites
      have htraffic := traffic_submitted (d := d) hopen k ⟨r, n, false⟩ x
      rw [(queueAll_cons_queued xs hanswer).2] at hnumbers
      cases hrest : (queueAll d.settings.topics xs
          (u.traffic.pool.submit topic x.message).1).2.2 with
      | error e =>
        rw [hrest] at hnumbers
        cases hnumbers
      | ok more =>
        rw [hrest] at hnumbers
        obtain rfl : u.traffic.pool.next :: more = numbers := Except.ok.inj hnumbers
        obtain ⟨hdone, hlater, hacks⟩ := ih (u := u.submitted d k ⟨r, n, false⟩ x) hwrites hmore
          (by rw [htraffic]; exact hopen) (by rw [htraffic]; exact hrest)
        have hrun : u.run d submissions = (u.submitted d k ⟨r, n, false⟩ x).run d
            (Operation.submissions r.clock k (n + 1) xs.length) := by
          simp only [submissions, List.length_cons, Operation.submissions_succ, run_cons, hstep]
        refine ⟨?_, ?_, ?_⟩
        · rw [hrun, hdone, List.length_cons, Nat.add_assoc, Nat.add_comm 1]
        · simp only [submissions, List.length_cons, Operation.submissions_succ, tickets, hstep,
            hticket, Option.toList_some, List.singleton_append, List.map_cons, hlater]
        · rw [hrun, hacks, htraffic]
          rfl
    · rw [(queueAll_cons_refused xs hanswer).2] at hnumbers
      cases hnumbers

end Running

end AggregateGateway
