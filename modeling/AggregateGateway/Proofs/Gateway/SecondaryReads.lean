import AggregateGateway.Proofs.Gateway.GuardedRead

/-! An aggregate is read by three reads side by side, which are polled in any order and as often as
one likes. What ratings and commentary answer, and when, makes no difference to the read of the
item: not to its calls, nor to the breaker, nor to anything measured but the degraded reads. -/

namespace AggregateGateway

open Catalog
open Metrics (Measurement)
open Publish (Pool)
open Resilience (Breaker Call Execution Guard Refusal)
open Resilience.Policy (TimedReaches)
open Time (Moment)

/-! ### A read that may fail -/

/-- A read that is made once, at whatever moment it is first polled. -/
inductive Part (α : Type) where
  | ready
  | waiting (due : Moment) (answer : Except Failure (List α))
  | finished (records : List α)

namespace Part

variable {σ α : Type}

/-- What a poll makes of a part and of its service, and what is measured. -/
def poll (s : Service) (call : Call σ Failure (List α)) (now : Moment) :
    Part α → σ → Part α × σ × List Measurement
  | .ready, service =>
    let (reply, service) := call service
    (.waiting (now + reply.latency) reply.answer, service, [])
  | .waiting due answer, service =>
    if now < due then (.waiting due answer, service, [])
    else (.finished (recordsOf answer), service, recordMeasurements s answer)
  | .finished records, service => (.finished records, service, [])

def records? : Part α → Option (List α)
  | .finished records => some records
  | _ => none

/-- The part tells what the service answers that was in the state `start`. -/
def Tells (call : Call σ Failure (List α)) (start : σ) : Part α → σ → Prop
  | .ready, service => service = start
  | .waiting _ answer, service => service = (call start).2 ∧ answer = (call start).1.answer
  | .finished records, service =>
    service = (call start).2 ∧ records = recordsOf (call start).1.answer

variable {call : Call σ Failure (List α)} {start service : σ} {part : Part α}

theorem Tells.poll (h : part.Tells call start service) (s : Service) (now : Moment) :
    (part.poll s call now service).1.Tells call start (part.poll s call now service).2.1 := by
  cases part with
  | ready =>
    obtain rfl : service = start := h
    exact ⟨rfl, rfl⟩
  | waiting due answer =>
    by_cases hdue : now < due
    · simp only [Part.poll, hdue, if_true]
      exact h
    · simp only [Part.poll, hdue, if_false]
      exact ⟨h.1, congrArg recordsOf h.2⟩
  | finished records => exact h

theorem poll_due (s : Service) (call : Call σ Failure (List α)) (service : σ) {now due : Moment}
    (answer : Except Failure (List α)) (h : due ≤ now) :
    ((waiting due answer).poll s call now service).1 = .finished (recordsOf answer) := by
  simp only [poll, Nat.not_lt.mpr h, if_false]

theorem Tells.finished (h : part.Tells call start service) {records : List α}
    (hfinished : part.records? = some records) :
    service = (call start).2 ∧ records = recordsOf (call start).1.answer := by
  cases part with
  | ready | waiting => cases hfinished
  | finished records' =>
    cases hfinished
    exact h

theorem recordMeasurements_degraded (s : Service) (answer : Except Failure (List α)) :
    ∀ m ∈ recordMeasurements s answer, ∃ label, m = .count .degradedReads label := by
  intro m hm
  cases answer with
  | ok records => cases hm
  | error e => exact ⟨s.name, List.mem_singleton.mp hm⟩

theorem poll_measures (s : Service) (call : Call σ Failure (List α)) (now : Moment)
    (part : Part α) (service : σ) :
    ∀ m ∈ (part.poll s call now service).2.2, ∃ label, m = .count .degradedReads label := by
  intro m hm
  cases part with
  | ready | finished => cases hm
  | waiting due answer =>
    by_cases hdue : now < due
    · simp only [poll, hdue, if_true] at hm
      cases hm
    · simp only [poll, hdue, if_false] at hm
      exact recordMeasurements_degraded s answer m hm

end Part

/-! ### The three reads -/

structure Joint (ι ρ κ β : Type) where
  gateway : Gateway (ι × List (Moment × Wish)) ρ κ β
  item : Execution Failure Item
  ratings : Part Rating
  commentary : Part Commentary

variable {ι ρ κ ρ' κ' β : Type}

/-- What a gateway is left with besides the services of ratings and commentary and their degraded
reads. -/
structure Guarded (ι β : Type) where
  breaker : Breaker
  registry : Metrics.Registry
  items : ι
  pool : Pool
  channel : β

def Gateway.guarded (g : Gateway ι ρ κ β) : Guarded ι β :=
  ⟨g.breaker, g.registry.without .degradedReads, g.items, g.pool, g.channel⟩

def Gateway.withLog (log : List (Moment × Wish)) (g : Gateway ι ρ κ β) :
    Gateway (ι × List (Moment × Wish)) ρ κ β :=
  { g with items := (g.items, log) }

namespace Joint

def start (g : Gateway ι ρ κ β) : Joint ι ρ κ β :=
  ⟨g.withLog [], .ready, .ready, .ready⟩

def guard (j : Joint ι ρ κ β) : Guard (ι × List (Moment × Wish)) :=
  ⟨j.gateway.breaker, j.gateway.registry, j.gateway.items⟩

section Steps

variable (d : Deployment ι ρ κ β) (w : Wish)

def step (j : Joint ι ρ κ β) : Moment × Happening ι → Joint ι ρ κ β
  | (now, .item) =>
    match d.settings.policy.step (callAt d.items w now) now j.item j.guard with
    | none => { j with gateway := { j.gateway with now } }
    | some (item, guard) =>
      { j with
        item
        gateway :=
          { j.gateway with
            now
            breaker := guard.breaker
            items := guard.service
            registry := guard.registry.recordAll (endMeasurements w.id item) } }
  | (now, .ratings) =>
    let (part, service, ms) :=
      j.ratings.poll .ratings (d.ratings w.id w.options) now j.gateway.ratings
    { j with
      ratings := part
      gateway := { j.gateway.recordAll ms with now, ratings := service } }
  | (now, .commentary) =>
    let (part, service, ms) :=
      j.commentary.poll .commentary (d.commentary w.id w.options) now j.gateway.commentary
    { j with
      commentary := part
      gateway := { j.gateway.recordAll ms with now, commentary := service } }
  | (now, .other change ms) =>
    let (breaker, items) := change (j.gateway.breaker, j.gateway.items.1)
    { j with
      gateway :=
        { j.gateway.recordAll ms with now, breaker, items := (items, j.gateway.items.2) } }

def run (j : Joint ι ρ κ β) (happenings : List (Moment × Happening ι)) : Joint ι ρ κ β :=
  happenings.foldl (step d w) j

/-- The answer of the read, which is there as soon as all three reads are over. -/
def answer? (j : Joint ι ρ κ β) : Option (Except Failure View) :=
  match j.item.result?, j.ratings.records?, j.commentary.records? with
  | some r, some ratings, some commentary =>
    some ((itemResult d.settings.address w.id r).map fun i =>
      View.assemble i ratings commentary d.settings.address)
  | _, _, _ => none

end Steps

/-- What is seen of an aggregate by the read of its item. -/
def guardedRead (j : Joint ι ρ κ β) : GuardedRead ι β :=
  ⟨j.item, j.guard.without .degradedReads, j.gateway.pool, j.gateway.channel⟩

variable {d : Deployment ι ρ κ β} {w : Wish}

theorem count_endMeasurements (id : ItemId) (e : Execution Failure Item) (label : String) :
    (endMeasurements id e).count (.count .degradedReads label) = 0 := by
  cases e with
  | ended r => exact Gateway.count_itemMeasurements_degradedReads id label r
  | ready | attempting | pausing => rfl

/-- Each read does its work as if the others did not exist. -/
theorem guardedRead_step (j : Joint ι ρ κ β) (x : Moment × Happening ι) :
    (j.step d w x).guardedRead = j.guardedRead.step d.settings d.items w x := by
  obtain ⟨now, x⟩ := x
  cases x with
  | item =>
    have hmetric : Metrics.Metric.degradedReads.isOfPolicy = false := rfl
    have hwithout := Resilience.Policy.step_without hmetric d.settings.policy
      (callAt d.items w now) now j.item j.guard
    cases hstep : d.settings.policy.step (callAt d.items w now) now j.item j.guard with
    | none =>
      rw [hstep, Option.map_none] at hwithout
      have hidle : j.guardedRead.step d.settings d.items w (now, .item) = j.guardedRead :=
        GuardedRead.poll_of_idle hwithout
      rw [hidle]
      simp only [step, hstep]
      rfl
    | some y =>
      obtain ⟨e, g⟩ := y
      rw [hstep, Option.map_some] at hwithout
      have hregistry := g.registry.without_recordAll_other (count_endMeasurements w.id e)
      simp only [step, hstep, GuardedRead.step, GuardedRead.poll, guardedRead, hwithout]
      simp only [guard, Guard.without, Guard.recordAll, hregistry]
  | ratings =>
    have hregistry := j.gateway.registry.without_recordAll_self
      (Part.poll_measures .ratings (d.ratings w.id w.options) now j.ratings j.gateway.ratings)
    simp only [step, GuardedRead.step, guardedRead, guard, Guard.without, Gateway.recordAll,
      hregistry]
  | commentary =>
    have hregistry := j.gateway.registry.without_recordAll_self
      (Part.poll_measures .commentary (d.commentary w.id w.options) now j.commentary
        j.gateway.commentary)
    simp only [step, GuardedRead.step, guardedRead, guard, Guard.without, Gateway.recordAll,
      hregistry]
  | other change ms =>
    have hregistry := j.gateway.registry.without_recordAll ms .degradedReads
    simp only [step, GuardedRead.step, guardedRead, guard, Guard.without, Gateway.recordAll,
      hregistry]

theorem guardedRead_run (j : Joint ι ρ κ β) (happenings : List (Moment × Happening ι)) :
    (j.run d w happenings).guardedRead = j.guardedRead.run d.settings d.items w happenings := by
  induction happenings generalizing j with
  | nil => rfl
  | cons x happenings ih =>
    have hstep := guardedRead_step (d := d) (w := w) j x
    show ((j.step d w x).run d w happenings).guardedRead = _
    rw [ih, hstep]
    rfl

/-- The reads of ratings and commentary as they answer when nothing is beside them. -/
structure Tells (d : Deployment ι ρ κ β) (w : Wish) (g : Gateway ι ρ κ β)
    (j : Joint ι ρ κ β) : Prop where
  ratings : j.ratings.Tells (d.ratings w.id w.options) g.ratings j.gateway.ratings
  commentary :
    j.commentary.Tells (d.commentary w.id w.options) g.commentary j.gateway.commentary

theorem Tells.start (d : Deployment ι ρ κ β) (w : Wish) (g : Gateway ι ρ κ β) :
    Tells d w g (.start g) :=
  ⟨rfl, rfl⟩

theorem Tells.step {g : Gateway ι ρ κ β} {j : Joint ι ρ κ β} (h : Tells d w g j)
    (x : Moment × Happening ι) : Tells d w g (j.step d w x) := by
  obtain ⟨now, x⟩ := x
  cases x with
  | item =>
    simp only [Joint.step]
    split
    · exact ⟨h.ratings, h.commentary⟩
    · exact ⟨h.ratings, h.commentary⟩
  | ratings => exact ⟨h.ratings.poll .ratings now, h.commentary⟩
  | commentary => exact ⟨h.ratings, h.commentary.poll .commentary now⟩
  | other change ms => exact ⟨h.ratings, h.commentary⟩

theorem Tells.run {g : Gateway ι ρ κ β} {j : Joint ι ρ κ β} (h : Tells d w g j)
    (happenings : List (Moment × Happening ι)) : Tells d w g (j.run d w happenings) :=
  List.foldlRecOn happenings _ h fun _ hj x _ => hj.step x

/-! ### The end of a read -/

/-- The item is read under the policy as if it were alone, with a log of the calls. -/
theorem course (d : Deployment ι ρ κ β) (w : Wish) (g : Gateway ι ρ κ β) :
    let x := g.itemRead d w
    ∃ log, TimedReaches d.settings.policy (callAt d.items w)
      (g.now, .ready, (start g).guardedRead.guard)
      (x.moment, .ended x.result, (x.guard.withLog log).without .degradedReads) := by
  intro x
  have hlone := Resilience.Policy.reaches_lone d.settings.policy (d.items w.id w.options) g.now
    ⟨g.breaker, g.registry, g.items⟩
  obtain ⟨log, hlog⟩ := hlone.timed (fun now => (now, w)) []
  exact ⟨log, hlog.without rfl⟩

theorem read_guarded (d : Deployment ι ρ κ β) {w : Wish} (hw : w.check = .ok ())
    (g : Gateway ι ρ κ β) :
    let x := g.itemRead d w
    (g.read d w).2.guarded =
      ⟨x.guard.breaker,
        (x.guard.registry.without .degradedReads).recordAll (itemMeasurements w.id x.result),
        x.guard.service, g.pool, g.channel⟩ := by
  intro x
  have hread := Gateway.read_eq d g hw
  have hregistry : (g.read d w).2.registry.without .degradedReads =
      (x.guard.registry.without .degradedReads).recordAll (itemMeasurements w.id x.result) := by
    rw [hread]
    dsimp only
    rw [Metrics.Registry.without_recordAll_self _ (Part.recordMeasurements_degraded _ _),
      Metrics.Registry.without_recordAll_self _ (Part.recordMeasurements_degraded _ _),
      Metrics.Registry.without_recordAll_other _
        (Gateway.count_itemMeasurements_degradedReads w.id · x.result)]
  simp only [Gateway.guarded, hregistry]
  rw [hread]

theorem answer?_eq_some {j : Joint ι ρ κ β} {answer : Except Failure View}
    (h : j.answer? d w = some answer) :
    ∃ r ratings commentary, j.item.result? = some r ∧ j.ratings.records? = some ratings ∧
      j.commentary.records? = some commentary ∧
      answer = (itemResult d.settings.address w.id r).map fun i =>
        View.assemble i ratings commentary d.settings.address := by
  simp only [answer?] at h
  split at h
  · next r ratings commentary hr hratings hcommentary =>
    exact ⟨r, ratings, commentary, hr, hratings, hcommentary, (Option.some.inj h).symm⟩
  · cases h

theorem run_append (j : Joint ι ρ κ β) (happenings later : List (Moment × Happening ι)) :
    j.run d w (happenings ++ later) = (j.run d w happenings).run d w later :=
  List.foldl_append

theorem run_items (j : Joint ι ρ κ β) {happenings : List (Moment × Happening ι)}
    (h : ∀ x ∈ happenings, x.2 = .item) :
    (j.run d w happenings).ratings = j.ratings ∧
      (j.run d w happenings).commentary = j.commentary := by
  induction happenings generalizing j with
  | nil => exact ⟨rfl, rfl⟩
  | cons x happenings ih =>
    rw [List.forall_mem_cons] at h
    obtain ⟨now, x⟩ := x
    obtain rfl : x = .item := h.1
    obtain ⟨hratings, hcommentary⟩ := ih (j.step d w (now, .item)) h.2
    have hstep : (j.step d w (now, .item)).ratings = j.ratings ∧
        (j.step d w (now, .item)).commentary = j.commentary := by
      simp only [step]
      split
      · exact ⟨rfl, rfl⟩
      · exact ⟨rfl, rfl⟩
    exact ⟨hratings.trans hstep.1, hcommentary.trans hstep.2⟩

/-- Whatever is polled when, as long as nothing is late for the item: the calls are those of the log,
and the answer and what is left behind are those of the read as a whole. There is a way to get to
the answer. -/
structure Settles (d : Deployment ι ρ κ β) (w : Wish) (g : Gateway ι ρ κ β)
    (log : List (Moment × Wish)) : Prop where
  calls : ∀ happenings,
    GuardedRead.IsPrompt d.settings d.items w g.now (start g).guardedRead happenings →
      ((start g).run d w happenings).gateway.items.2 <+: log
  answers : ∀ happenings,
    GuardedRead.IsPrompt d.settings d.items w g.now (start g).guardedRead happenings →
      ∀ answer, ((start g).run d w happenings).answer? d w = some answer →
        let left := ((start g).run d w happenings).gateway
        (g.read d w).1 = some answer ∧ left.guarded = ((g.read d w).2.withLog log).guarded ∧
          left.ratings = (g.read d w).2.ratings ∧ left.commentary = (g.read d w).2.commentary
  ends : ∃ happenings,
    GuardedRead.IsPrompt d.settings d.items w g.now (start g).guardedRead happenings ∧
      (((start g).run d w happenings).answer? d w).isSome = true

section Settles

variable {g : Gateway ι ρ κ β} {log : List (Moment × Wish)}
  (hcourse : TimedReaches d.settings.policy (callAt d.items w)
    (g.now, .ready, (start g).guardedRead.guard)
    ((g.itemRead d w).moment, .ended (g.itemRead d w).result,
      ((g.itemRead d w).guard.withLog log).without .degradedReads))
include hcourse

theorem onCourse_run {happenings : List (Moment × Happening ι)}
    (hprompt : GuardedRead.IsPrompt d.settings d.items w g.now (start g).guardedRead happenings) :
    ∃ moment, GuardedRead.OnCourse d.settings d.items w (g.itemRead d w).result
      (((g.itemRead d w).guard.withLog log).without .degradedReads) moment
      ((start g).run d w happenings).guardedRead := by
  have hstart : GuardedRead.OnCourse d.settings d.items w (g.itemRead d w).result
      (((g.itemRead d w).guard.withLog log).without .degradedReads) g.now
      (start g).guardedRead := .inl ⟨rfl, _, hcourse⟩
  rw [guardedRead_run]
  exact hstart.run hprompt

theorem settled (hw : w.check = .ok ()) {happenings : List (Moment × Happening ι)}
    (hprompt : GuardedRead.IsPrompt d.settings d.items w g.now (start g).guardedRead happenings)
    {answer : Except Failure View}
    (hanswer : ((start g).run d w happenings).answer? d w = some answer) :
    let left := ((start g).run d w happenings).gateway
    (g.read d w).1 = some answer ∧ left.guarded = ((g.read d w).2.withLog log).guarded ∧
      left.ratings = (g.read d w).2.ratings ∧ left.commentary = (g.read d w).2.commentary := by
  intro left
  let j := (start g).run d w happenings
  obtain ⟨r, ratings, commentary, hr, hratings, hcommentary, hview⟩ := answer?_eq_some hanswer
  obtain ⟨moment, hj⟩ := onCourse_run hcourse hprompt
  obtain ⟨rfl, hguard⟩ := hj.ended hr
  have htells : Tells d w g j := (Tells.start d w g).run happenings
  obtain ⟨hratingsLeft, rfl⟩ := htells.ratings.finished hratings
  obtain ⟨hcommentaryLeft, rfl⟩ := htells.commentary.finished hcommentary
  have hkeeps := GuardedRead.run_keeps d.settings d.items w (start g).guardedRead happenings
  rw [← guardedRead_run] at hkeeps
  have hread := Gateway.read_eq d g hw
  refine ⟨?_, ?_, ?_, ?_⟩
  · rw [hread, hview]
  · have hleft : left.guarded = ⟨j.guardedRead.guard.breaker, j.guardedRead.guard.registry,
        j.guardedRead.guard.service, j.guardedRead.pool, j.guardedRead.channel⟩ := rfl
    have hread : ((g.read d w).2.withLog log).guarded = ⟨(g.read d w).2.guarded.breaker,
        (g.read d w).2.guarded.registry, ((g.read d w).2.guarded.items, log),
        (g.read d w).2.guarded.pool, (g.read d w).2.guarded.channel⟩ := rfl
    rw [hread, read_guarded d hw, hleft, hguard, hkeeps.1, hkeeps.2]
    rfl
  · rw [hread]
    exact hratingsLeft
  · rw [hread]
    exact hcommentaryLeft

theorem exists_answer : ∃ happenings,
    GuardedRead.IsPrompt d.settings d.items w g.now (start g).guardedRead happenings ∧
      (((start g).run d w happenings).answer? d w).isSome = true := by
  let v := (start g).guardedRead
  let ratings := d.ratings w.id w.options g.ratings
  let commentary := d.commentary w.id w.options g.commentary
  obtain ⟨happenings, moment, hitems, hend, hprompt⟩ :=
    GuardedRead.exists_prompt hcourse rfl g.now v rfl (fun _ => rfl) (Nat.le_refl _)
      fun limit hlimit => GuardedRead.le_limit hlimit
  -- ratings and commentary are asked at once, and looked at again when all answers are there
  let last := max moment (max (g.now + ratings.1.latency) (g.now + commentary.1.latency))
  let front : List (Moment × Happening ι) := [(g.now, .ratings), (g.now, .commentary)]
  let back : List (Moment × Happening ι) := [(last, .ratings), (last, .commentary)]
  refine ⟨front ++ (happenings ++ back), ?_, ?_⟩
  · have hback : GuardedRead.IsPrompt d.settings d.items w moment
        (v.run d.settings d.items w happenings) back := by
      have hnever (now limit : Moment)
          (h : limit ∈ (v.run d.settings d.items w happenings).limit? now) : last ≤ limit := by
        rw [GuardedRead.limit_of_ended hend] at h
        cases h
      exact ⟨Nat.le_max_left _ _, hnever moment, rfl, Nat.le_refl _, hnever last, rfl, trivial⟩
    have hnow (limit : Moment) (h : limit ∈ v.limit? g.now) : g.now ≤ limit :=
      GuardedRead.le_limit h
    exact ⟨Nat.le_refl _, hnow, rfl, Nat.le_refl _, hnow, rfl, hprompt back hback⟩
  · let begun := (start g).run d w front
    let read := begun.run d w happenings
    have hrun : (start g).run d w (front ++ (happenings ++ back)) = read.run d w back := by
      simp only [run_append]
      rfl
    have hitem : (read.run d w back).item.result? = some (g.itemRead d w).result := by
      have hread : read.guardedRead = v.run d.settings d.items w happenings :=
        guardedRead_run begun happenings
      have hsame : (read.run d w back).item = read.guardedRead.item := rfl
      rw [hsame, hread, hend]
      rfl
    obtain ⟨hratings, hcommentary⟩ := run_items (d := d) (w := w) begun hitems
    have hratingsOver : (read.run d w back).ratings = .finished (recordsOf ratings.1.answer) := by
      have hlast : (read.run d w back).ratings = (read.ratings.poll .ratings
          (d.ratings w.id w.options) last read.gateway.ratings).1 := rfl
      rw [hlast, hratings]
      exact Part.poll_due _ _ _ _ (Nat.le_trans (Nat.le_max_left _ _) (Nat.le_max_right _ _))
    have hcommentaryOver :
        (read.run d w back).commentary = .finished (recordsOf commentary.1.answer) := by
      have hlast : (read.run d w back).commentary = (read.commentary.poll .commentary
          (d.commentary w.id w.options) last read.gateway.commentary).1 := rfl
      rw [hlast, hcommentary]
      exact Part.poll_due _ _ _ _ (Nat.le_trans (Nat.le_max_right _ _) (Nat.le_max_right _ _))
    rw [hrun]
    simp only [answer?, hitem, hratingsOver, hcommentaryOver, Part.records?, Option.isSome_some]

theorem settles (hw : w.check = .ok ()) : Settles d w g log where
  calls _ hprompt := by
    obtain ⟨moment, hj⟩ := onCourse_run hcourse hprompt
    exact hj.log_isPrefix
  answers _ hprompt _ hanswer := settled hcourse hw hprompt hanswer
  ends := exists_answer hcourse

end Settles

theorem guardedRead_start {g : Gateway ι ρ κ β} {g' : Gateway ι ρ' κ' β}
    (h : g'.guarded = g.guarded) : (start g').guardedRead = (start g).guardedRead := by
  obtain ⟨hbreaker, hregistry, hitems, hpool, hchannel⟩ := Guarded.mk.inj h
  simp only [guardedRead, start, guard, Guard.without, Gateway.withLog, hbreaker, hregistry, hitems,
    hpool, hchannel]

end Joint

/-! ### Two reads of one aggregate -/

/-- Views with the same item, and with the same ratings and the same commentary if these are known
to be the same. -/
structure Catalog.View.Alike (sameRatings sameCommentary : Prop) (v v' : View) : Prop where
  id : v'.id = v.id
  name : v'.name = v.name
  weight : v'.weight = v.weight
  composite : v'.addresses.composite = v.addresses.composite
  item : v'.addresses.item = v.addresses.item
  ratings : sameRatings → v'.ratings = v.ratings ∧ v'.addresses.ratings = v.addresses.ratings
  commentary : sameCommentary →
    v'.commentary = v.commentary ∧ v'.addresses.commentary = v.addresses.commentary

theorem assemble_alike (item : Item) (ratings ratings' : List Rating)
    (commentary commentary' : List Commentary) (address : String) :
    (View.assemble item ratings commentary address).Alike (ratings' = ratings)
      (commentary' = commentary) (View.assemble item ratings' commentary' address) := by
  refine ⟨rfl, rfl, rfl, rfl, rfl, ?_, ?_⟩
  · rintro rfl
    exact ⟨rfl, rfl⟩
  · rintro rfl
    exact ⟨rfl, rfl⟩

def AnswersAlike (sameRatings sameCommentary : Prop) (a a' : Option (Except Failure View)) : Prop :=
  (∃ e, a = some (.error e) ∧ a' = some (.error e)) ∨
    ∃ v v', a = some (.ok v) ∧ a' = some (.ok v') ∧ v.Alike sameRatings sameCommentary v'

theorem Gateway.read_refused (d : Deployment ι ρ κ β) {w : Wish} {e : Failure}
    (hw : w.check = .error e) (g : Gateway ι ρ κ β) : g.read d w = (some (.error e), g) := by
  have hnone : [w].filter Wish.isAdmitted = [] := by
    simp only [List.filter_cons, Wish.isAdmitted, hw, List.filter_nil]
    rfl
  have hnow : lastMoment g.now [(⟨some (.error e), g.now⟩ : Timed (Option (Except Failure View)))] =
      g.now := Nat.max_self _
  simp only [read, readTogether, hnone, readAdmitted, fetchItems, fetchDetails, withRefusals, hw,
    hnow]
  rfl

section TwoReads

variable {d : Deployment ι ρ κ β} {d' : Deployment ι ρ' κ' β} {g : Gateway ι ρ κ β}
  {g' : Gateway ι ρ' κ' β}
  (hsettings : d'.settings = d.settings) (hitems : d'.items = d.items) (hnow : g'.now = g.now)
  (hguarded : g'.guarded = g.guarded)
include hsettings hitems hnow hguarded

theorem itemRead_same (w : Wish) :
    let x := g.itemRead d w
    let x' := g'.itemRead d' w
    ∃ log,
      TimedReaches d.settings.policy (callAt d.items w)
        (g.now, .ready, (Joint.start g).guardedRead.guard)
        (x.moment, .ended x.result, (x.guard.withLog log).without .degradedReads) ∧
      TimedReaches d'.settings.policy (callAt d'.items w)
        (g'.now, .ready, (Joint.start g').guardedRead.guard)
        (x'.moment, .ended x'.result, (x'.guard.withLog log).without .degradedReads) ∧
      x'.result = x.result ∧ x'.guard.breaker = x.guard.breaker ∧
      x'.guard.service = x.guard.service ∧
      x'.guard.registry.without .degradedReads = x.guard.registry.without .degradedReads := by
  intro x x'
  obtain ⟨log, hcourse⟩ := Joint.course d w g
  obtain ⟨log', hcourse'⟩ := Joint.course d' w g'
  have hsame := hcourse'
  rw [hsettings, hitems, hnow, Joint.guardedRead_start hguarded] at hsame
  have hend := TimedReaches.end_unique hcourse hsame ⟨_, rfl⟩ ⟨_, rfl⟩
  obtain ⟨-, hend⟩ := Prod.mk.inj hend
  obtain ⟨hresult, hguard⟩ := Prod.mk.inj hend
  obtain ⟨hbreaker, hregistry, hboth⟩ := Guard.mk.inj hguard
  obtain ⟨hservice, hlog⟩ := Prod.mk.inj hboth
  subst hlog
  exact ⟨log, hcourse, hcourse', (Execution.ended.inj hresult).symm, hbreaker.symm, hservice.symm,
    hregistry.symm⟩

theorem read_guarded_same (w : Wish) : (g'.read d' w).2.guarded = (g.read d w).2.guarded := by
  cases hw : w.check with
  | error e =>
    rw [Gateway.read_refused d hw, Gateway.read_refused d' hw]
    exact hguarded
  | ok =>
    obtain ⟨-, -, -, hresult, hbreaker, hservice, hregistry⟩ :=
      itemRead_same hsettings hitems hnow hguarded w
    obtain ⟨-, -, -, hpool, hchannel⟩ := Guarded.mk.inj hguarded
    rw [Joint.read_guarded d hw, Joint.read_guarded d' hw, hresult, hbreaker, hservice, hregistry,
      hpool, hchannel]

theorem read_alike (w : Wish) :
    AnswersAlike
      ((d'.ratings w.id w.options g'.ratings).1.answer =
        (d.ratings w.id w.options g.ratings).1.answer)
      ((d'.commentary w.id w.options g'.commentary).1.answer =
        (d.commentary w.id w.options g.commentary).1.answer)
      (g.read d w).1 (g'.read d' w).1 := by
  cases hw : w.check with
  | error e => exact .inl ⟨e, by rw [Gateway.read_refused d hw], by rw [Gateway.read_refused d' hw]⟩
  | ok =>
    obtain ⟨-, -, -, hresult, -⟩ := itemRead_same hsettings hitems hnow hguarded w
    rw [Gateway.read_eq d g hw, Gateway.read_eq d' g' hw, hresult, hsettings]
    dsimp only
    cases itemResult d.settings.address w.id (g.itemRead d w).result with
    | error e => exact .inl ⟨e, rfl, rfl⟩
    | ok item =>
      refine .inr ⟨_, _, rfl, rfl, ?_⟩
      obtain ⟨hid, hname, hweight, hcomposite, hitem, hratings, hcommentary⟩ :=
        assemble_alike item (recordsOf (d.ratings w.id w.options g.ratings).1.answer)
          (recordsOf (d'.ratings w.id w.options g'.ratings).1.answer)
          (recordsOf (d.commentary w.id w.options g.commentary).1.answer)
          (recordsOf (d'.commentary w.id w.options g'.commentary).1.answer) d.settings.address
      exact ⟨hid, hname, hweight, hcomposite, hitem,
        fun h => hratings (congrArg recordsOf h), fun h => hcommentary (congrArg recordsOf h)⟩

end TwoReads

/-- Two reads of one aggregate from states in which the ratings and commentary services may differ in
any way. They leave the same behind, apart from these services and from degraded reads, and their
answers differ only in what the services answered differently. As the three reads of an aggregate are
polled, in any order, the item is called at the same moments; and as long as the polls of the item
that find something to do and the doings of other requests are the same, all else is. -/
theorem secondary_reads_do_not_interfere {d : Deployment ι ρ κ β} {d' : Deployment ι ρ' κ' β}
    {g : Gateway ι ρ κ β} {g' : Gateway ι ρ' κ' β} (hsettings : d'.settings = d.settings)
    (hitems : d'.items = d.items) (hnow : g'.now = g.now) (hguarded : g'.guarded = g.guarded)
    (w : Wish) :
    let ratings := (d.ratings w.id w.options g.ratings).1.answer
    let ratings' := (d'.ratings w.id w.options g'.ratings).1.answer
    let commentary := (d.commentary w.id w.options g.commentary).1.answer
    let commentary' := (d'.commentary w.id w.options g'.commentary).1.answer
    ((g'.read d' w).2.guarded = (g.read d w).2.guarded ∧
      (∀ metric, metric ≠ .degradedReads → ∀ label,
        (g'.read d' w).2.registry.count metric label =
          (g.read d w).2.registry.count metric label) ∧
      AnswersAlike (ratings' = ratings) (commentary' = commentary) (g.read d w).1
        (g'.read d' w).1) ∧
    (1 ≤ w.id → w.options.faultPercent ≤ 100 →
      ∃ log, Joint.Settles d w g log ∧ Joint.Settles d' w g' log) ∧
    ∀ happenings happenings' : List (Moment × Happening ι),
      let essential := (Joint.start g).guardedRead.essential d.settings d.items w
      essential happenings' = essential happenings →
        ((Joint.start g').run d' w happenings').guardedRead =
          ((Joint.start g).run d w happenings).guardedRead := by
  intro ratings ratings' commentary commentary'
  have hleft := read_guarded_same hsettings hitems hnow hguarded w
  refine ⟨⟨hleft, ?_, read_alike hsettings hitems hnow hguarded w⟩, ?_, ?_⟩
  · intro metric hmetric label
    obtain ⟨-, hregistry, -⟩ := Guarded.mk.inj hleft
    have hcount := congrArg (·.count metric label) hregistry
    simpa only [Metrics.Registry.count_without hmetric] using hcount
  · intro hid hfault
    have hw := Gateway.check_ok hid hfault
    obtain ⟨log, hcourse, hcourse', -⟩ := itemRead_same hsettings hitems hnow hguarded w
    exact ⟨log, Joint.settles hcourse hw, Joint.settles hcourse' hw⟩
  · intro happenings happenings' essential hessential
    rw [Joint.guardedRead_run, Joint.guardedRead_run, Joint.guardedRead_start hguarded, hsettings,
      hitems, ← GuardedRead.run_essential _ happenings', ← GuardedRead.run_essential _ happenings]
    exact congrArg _ hessential

theorem Gateway.Rehearsal.guarded_setRatings (r : Gateway.Rehearsal)
    (change : StandIn (List Rating) → StandIn (List Rating)) :
    (r.setRatings change).deployment = r.deployment ∧
      (r.setRatings change).gateway.now = r.gateway.now ∧
      (r.setRatings change).gateway.guarded = r.gateway.guarded :=
  ⟨rfl, rfl, rfl⟩

/-- Ratings that are there after a while instead of an error at once. The polls of the ratings and
one that comes too early for the item make no difference. -/
theorem secondary_reads_do_not_interfere_with_ratings :
    let r := Gateway.Rehearsal.withoutRatings
    let r' := r.setRatings fun s =>
      { s with fixed := some (.ok [⟨7, 1, "ann", 5, "good", none⟩]), delay := .millis 900 }
    let w : Wish := ⟨7, 3, 100, some "blue"⟩
    (r'.deployment.settings = r.deployment.settings ∧ r'.deployment.items = r.deployment.items ∧
      r'.gateway.now = r.gateway.now ∧ r'.gateway.guarded = r.gateway.guarded) ∧
    (∃ v v', (r.gateway.read r.deployment w).1 = some (.ok v) ∧
      (r'.gateway.read r'.deployment w).1 = some (.ok v') ∧ v.ratings = [] ∧
      v'.ratings = [⟨1, "ann", 5, "good"⟩] ∧ v'.commentary = v.commentary ∧ v'.name = v.name) ∧
    (r'.gateway.read r'.deployment w).2.guarded = (r.gateway.read r.deployment w).2.guarded ∧
    (∃ log, Joint.Settles r.deployment w r.gateway log ∧
      Joint.Settles r'.deployment w r'.gateway log) ∧
    ((Joint.start r'.gateway).run r'.deployment w
        [(0, .ratings), (0, .item), (0, .item), (0, .commentary), (1, .item)]).guardedRead =
      ((Joint.start r.gateway).run r.deployment w [(0, .item), (0, .item), (0, .ratings)]).guardedRead := by
  intro r r' w
  obtain ⟨hdeployment, hnow, hguarded⟩ := r.guarded_setRatings fun s =>
    { s with fixed := some (.ok [⟨7, 1, "ann", 5, "good", none⟩]), delay := .millis 900 }
  have hsettings : r'.deployment.settings = r.deployment.settings :=
    congrArg Deployment.settings hdeployment
  have hitems : r'.deployment.items = r.deployment.items := congrArg Deployment.items hdeployment
  have h := secondary_reads_do_not_interfere hsettings hitems hnow hguarded w
  obtain ⟨⟨hleft, -, halike⟩, hsettles, hhappenings⟩ := h
  refine ⟨⟨hsettings, hitems, hnow, hguarded⟩, ?_, hleft,
    hsettles (by decide) (by decide), ?_⟩
  · have hratings : (r.gateway.read r.deployment w).1.map (fun a => a.toOption.map View.ratings) =
        some (some []) := by
      decide +kernel
    have hratings' : (r'.gateway.read r'.deployment w).1.map
        (fun a => a.toOption.map View.ratings) = some (some [⟨1, "ann", 5, "good"⟩]) := by
      decide +kernel
    rcases halike with ⟨e, he, -⟩ | ⟨v, v', hv, hv', hviews⟩
    · rw [he] at hratings
      cases hratings
    · rw [hv] at hratings
      rw [hv'] at hratings'
      exact ⟨v, v', hv, hv', Option.some.inj (Option.some.inj hratings),
        Option.some.inj (Option.some.inj hratings'), (hviews.commentary rfl).1, hviews.name⟩
  · exact hhappenings [(0, .item), (0, .item), (0, .ratings)]
      [(0, .ratings), (0, .item), (0, .item), (0, .commentary), (1, .item)] rfl

end AggregateGateway
