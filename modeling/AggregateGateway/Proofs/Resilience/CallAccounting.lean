import AggregateGateway.Proofs.Metrics.Counters
import AggregateGateway.Proofs.Resilience.BreakerTraffic

/-! The books of a breaker. Every call that has begun was rejected, has ended, was given up or is
still running. The breaker keeps its totals and makes its reports at separate places; they agree
all the same, and so does what a recorder shows that is told the reports. The settings may be any,
also those that make no sense. -/

namespace AggregateGateway.Resilience.Breaker

open Metrics (Measurement Metric Registry)
open Time (Moment Span)

/-! ### What an operation adds to the totals -/

theorem record_keeps_totals (s : Settings) (now : Moment) (p : Permit) (o : Outcome)
    (b : Breaker) : (b.record s now p o).totals = b.totals := by
  rcases record_cases s now p o b with ⟨phase, -, h⟩ | h | h
  · rw [h]
  · rw [h]
    rfl
  · rw [h]
    rfl

theorem acquire_keeps_totals (s : Settings) (now : Moment) (b : Breaker) :
    (b.acquire s now).1.totals = b.totals := by
  rcases acquire_cases s now b with ⟨phase, -, h⟩ | ⟨admitted, h⟩
  · rw [h]
  · rw [h]
    rfl

theorem begin_totals (s : Settings) (now : Moment) (b : Breaker) :
    (b.begin s now).1.totals =
      { b.totals with
        calls := b.totals.calls + 1
        rejections := b.totals.rejections + if (b.begin s now).2 = none then 1 else 0 } := by
  have ht := acquire_keeps_totals s now b.countCall
  rcases begin_cases s now b with ⟨after, p, ha, hb⟩ | ⟨after, ha, hb⟩
  · rw [ha] at ht
    rw [hb]
    exact ht
  · rw [ha] at ht
    simp only [hb, if_true, countRejection, report]
    rw [ht]
    rfl

theorem finish_totals (s : Settings) (now : Moment) (p : Permit) (o : Outcome) (b : Breaker) :
    (b.finish s now p o).totals =
      { b.totals with
        successes := b.totals.successes + if o = .success then 1 else 0
        failures := b.totals.failures + if o = .failure then 1 else 0 } := by
  have hr := record_keeps_totals s now p o b
  cases o with
  | success | failure => simp [finish, countSuccess, countFailure, report, hr]
  | ignored => simpa [finish] using hr

theorem abandon_keeps_totals (p : Permit) (b : Breaker) : (b.abandon p).totals = b.totals := by
  unfold abandon
  split
  · split <;> rfl
  · rfl

/-! ### What an operation reports -/

/-- The state that a report tells. -/
def Report.gauge? : Report → Option Nat
  | .state gauge => some gauge
  | .call | .rejection | .success | .failure => none

/-- Every total has been reported as often as it was counted, and the state that was reported last
is the present one. -/
structure Mirrored (b : Breaker) : Prop where
  calls : b.reports.count .call = b.totals.calls
  successes : b.reports.count .success = b.totals.successes
  failures : b.reports.count .failure = b.totals.failures
  rejections : b.reports.count .rejection = b.totals.rejections
  state : b.reports.findSome? Report.gauge? = some b.phase.gauge

theorem mirrored_fresh : Mirrored .fresh := by
  constructor <;> rfl

theorem Mirrored.inPhase {b : Breaker} (h : b.Mirrored) {phase : Phase}
    (hg : phase.gauge = b.phase.gauge) : Mirrored { b with phase } :=
  ⟨h.calls, h.successes, h.failures, h.rejections, by rw [hg]; exact h.state⟩

theorem Mirrored.enter {b : Breaker} (h : b.Mirrored) (phase : Phase) :
    (b.enter phase).Mirrored := by
  have hcount : ∀ r, r ≠ .state phase.gauge →
      (b.enter phase).reports.count r = b.reports.count r :=
    fun r hr => List.count_cons_of_ne hr.symm
  constructor
  case state => rfl
  all_goals rw [hcount _ (by simp)]
  · exact h.calls
  · exact h.successes
  · exact h.failures
  · exact h.rejections

/-- One breaker can follow another: what was reported stays so, and reports that were in order
still are. -/
structure Follows (old new : Breaker) : Prop where
  reports : old.reports <:+ new.reports
  mirrored : old.Mirrored → new.Mirrored

theorem Follows.refl (b : Breaker) : b.Follows b :=
  ⟨List.suffix_refl _, id⟩

theorem Follows.trans {b b' b'' : Breaker} (h : b.Follows b') (h' : b'.Follows b'') :
    b.Follows b'' :=
  ⟨h.reports.trans h'.reports, fun hm => h'.mirrored (h.mirrored hm)⟩

theorem follows_inPhase {b : Breaker} {phase : Phase} (hg : phase.gauge = b.phase.gauge) :
    b.Follows { b with phase } :=
  ⟨List.suffix_refl _, fun hm => hm.inPhase hg⟩

theorem follows_enter (phase : Phase) (b : Breaker) : b.Follows (b.enter phase) :=
  ⟨List.suffix_cons .., fun hm => hm.enter phase⟩

theorem follows_acquire (s : Settings) (now : Moment) (b : Breaker) :
    b.Follows (b.acquire s now).1 := by
  rcases acquire_cases s now b with ⟨phase, hg, h⟩ | ⟨admitted, h⟩
  · rw [h]
    exact follows_inPhase hg
  · rw [h]
    exact follows_enter _ b

theorem follows_record (s : Settings) (now : Moment) (p : Permit) (o : Outcome) (b : Breaker) :
    b.Follows (b.record s now p o) := by
  rcases record_cases s now p o b with ⟨phase, hg, h⟩ | h | h
  · rw [h]
    exact follows_inPhase hg
  · rw [h]
    exact follows_enter _ b
  · rw [h]
    exact follows_enter _ b

/-- What is counted and then reported is in order again. -/
theorem follows_counted {b : Breaker} {totals : Totals} {r : Report} (hr : r.gauge? = none)
    (hcalls : totals.calls = b.totals.calls + if r == .call then 1 else 0)
    (hsuccesses : totals.successes = b.totals.successes + if r == .success then 1 else 0)
    (hfailures : totals.failures = b.totals.failures + if r == .failure then 1 else 0)
    (hrejections : totals.rejections = b.totals.rejections + if r == .rejection then 1 else 0) :
    b.Follows (report r { b with totals }) := by
  refine ⟨List.suffix_cons .., fun hm => ?_⟩
  constructor
  case state =>
    have hstate : (r :: b.reports).findSome? Report.gauge? = b.reports.findSome? Report.gauge? := by
      rw [List.findSome?_cons, hr]
    exact hstate.trans hm.state
  all_goals refine List.count_cons.trans ?_
  · rw [hm.calls]
    exact hcalls.symm
  · rw [hm.successes]
    exact hsuccesses.symm
  · rw [hm.failures]
    exact hfailures.symm
  · rw [hm.rejections]
    exact hrejections.symm

theorem follows_countCall (b : Breaker) : b.Follows b.countCall :=
  follows_counted rfl rfl rfl rfl rfl

theorem follows_countRejection (b : Breaker) : b.Follows b.countRejection :=
  follows_counted rfl rfl rfl rfl rfl

theorem follows_countSuccess (b : Breaker) : b.Follows b.countSuccess :=
  follows_counted rfl rfl rfl rfl rfl

theorem follows_countFailure (b : Breaker) : b.Follows b.countFailure :=
  follows_counted rfl rfl rfl rfl rfl

theorem follows_begin (s : Settings) (now : Moment) (b : Breaker) :
    b.Follows (b.begin s now).1 := by
  have hcall := (follows_countCall b).trans (follows_acquire s now b.countCall)
  rcases begin_cases s now b with ⟨after, p, ha, hb⟩ | ⟨after, ha, hb⟩
  · rw [ha] at hcall
    rw [hb]
    exact hcall
  · rw [ha] at hcall
    rw [hb]
    exact hcall.trans (follows_countRejection after)

theorem follows_finish (s : Settings) (now : Moment) (p : Permit) (o : Outcome) (b : Breaker) :
    b.Follows (b.finish s now p o) := by
  refine (follows_record s now p o b).trans ?_
  cases o with
  | success => exact follows_countSuccess _
  | failure => exact follows_countFailure _
  | ignored => exact .refl _

theorem follows_abandon (p : Permit) (b : Breaker) : b.Follows (b.abandon p) := by
  unfold abandon
  split
  · rename_i hb
    split
    · exact follows_inPhase (by rw [hb]; rfl)
    · exact .refl b
  · exact .refl b

/-! ### What a recorder shows -/

/-- The reports in the order in which they were made, as they are measured. -/
def reported (name : String) (b : Breaker) : List Measurement :=
  b.reports.reverse.map (·.measurement name)

/-- What is measured between two breakers are the reports that have been added. -/
theorem reported_eq_append {old new : Breaker} (name : String) (h : old.reports <:+ new.reports) :
    new.reported name = old.reported name ++ measurements name old new := by
  obtain ⟨more, hmore⟩ := h
  have hlength : new.reports.length - old.reports.length = more.length := by
    rw [← hmore, List.length_append]
    omega
  simp only [reported, measurements, hlength]
  simp [← hmore]

/-- A recorder that is told everything shows the totals and the state of the breaker. -/
structure Shown (name : String) (b : Breaker) (recorder : Registry) : Prop where
  calls : recorder.count .breakerCalls name = b.totals.calls
  successes : recorder.count .breakerSuccesses name = b.totals.successes
  failures : recorder.count .breakerFailures name = b.totals.failures
  rejections : recorder.count .breakerRejections name = b.totals.rejections
  state : recorder.state? name = some b.phase.gauge.toFloat

theorem count_reported {name : String} {metric : Metric} {r : Report} (b : Breaker)
    (h : ∀ r', r'.measurement name = .count metric name ↔ r' = r) :
    (Registry.empty.recordAll (b.reported name)).count metric name = b.reports.count r := by
  have hempty : Registry.empty.count metric name = 0 := rfl
  have heq : (fun r' : Report => r'.measurement name == .count metric name) = (· == r) := by
    funext r'
    rw [Bool.eq_iff_iff, beq_iff_eq, beq_iff_eq]
    exact h r'
  rw [Registry.count_recordAll, hempty, Nat.zero_add, reported, List.count, List.countP_map,
    List.countP_reverse]
  exact congrArg (List.countP · b.reports) heq

theorem state?_reported (name : String) (reports : List Report) :
    (Registry.empty.recordAll (reports.reverse.map (·.measurement name))).state? name =
      (reports.findSome? Report.gauge?).map Nat.toFloat := by
  induction reports with
  | nil => rfl
  | cons r earlier ih =>
    rw [List.reverse_cons, List.map_append, Registry.recordAll_append]
    have hlast := Registry.state?_record
      (Registry.empty.recordAll (earlier.reverse.map (·.measurement name)))
      (r.measurement name) name
    refine hlast.trans ?_
    cases r with
    | state gauge => simp only [Report.measurement, beq_self_eq_true, if_true]; rfl
    | call | rejection | success | failure => exact ih

theorem Mirrored.shown {b : Breaker} (h : b.Mirrored) (name : String) :
    Shown name b (Registry.empty.recordAll (b.reported name)) where
  calls := (count_reported b (by intro r; cases r <;> simp [Report.measurement])).trans h.calls
  successes :=
    (count_reported b (by intro r; cases r <;> simp [Report.measurement])).trans h.successes
  failures :=
    (count_reported b (by intro r; cases r <;> simp [Report.measurement])).trans h.failures
  rejections :=
    (count_reported b (by intro r; cases r <;> simp [Report.measurement])).trans h.rejections
  state := by
    rw [reported, state?_reported, h.state]
    rfl

/-! ### The books -/

/-- How the call that an action ends came to its end, which is without an outcome if it was given
up. -/
def Traffic.ending? (t : Traffic) : Action → Option (Option Outcome)
  | .finish p o => if p ∈ t.running then some (some o) else none
  | .cancel p => if p ∈ t.running then some none else none
  | .start | .trip | .reset | .advance _ => none

def Action.starts : Action → Nat
  | .start => 1
  | .finish .. | .cancel _ | .trip | .reset | .advance _ => 0

/-- A breaker in use, with what is noted of its calls and with a recorder of its own. -/
structure Watched where
  traffic : Traffic
  started : Nat
  /-- How each admitted call that is over came to its end, oldest first. -/
  endings : List (Option Outcome)
  recorder : Registry

namespace Watched

def idle (name : String) : Watched :=
  ⟨.idle, 0, [], Registry.empty.record (Breaker.fresh.stateMeasurement name)⟩

def step (s : Settings) (name : String) (w : Watched) (a : Action) : Watched :=
  let t := w.traffic.step s a
  { traffic := t
    started := w.started + a.starts
    endings := w.endings ++ (w.traffic.ending? a).toList
    recorder := w.recorder.recordAll (measurements name w.traffic.breaker t.breaker) }

def run (s : Settings) (name : String) (w : Watched) (actions : List Action) : Watched :=
  actions.foldl (step s name) w

theorem run_traffic (s : Settings) (name : String) (w : Watched) (actions : List Action) :
    (w.run s name actions).traffic = w.traffic.run s actions := by
  induction actions generalizing w with
  | nil => rfl
  | cons a later ih => exact ih (w.step s name a)

/-- The totals say how many calls have begun and how many of them ended with each outcome, and
every call is in one place. -/
structure Balanced (w : Watched) : Prop where
  begun : w.traffic.breaker.totals.calls = w.started
  successes : w.traffic.breaker.totals.successes = w.endings.count (some .success)
  failures : w.traffic.breaker.totals.failures = w.endings.count (some .failure)
  whole : w.started =
    w.traffic.breaker.totals.rejections + w.endings.length + w.traffic.running.length

theorem Balanced.unconcerned {w w' : Watched} (h : w.Balanced)
    (ht : w'.traffic.breaker.totals = w.traffic.breaker.totals)
    (hr : w'.traffic.running = w.traffic.running) (hs : w'.started = w.started)
    (he : w'.endings = w.endings) : w'.Balanced := by
  constructor
  · rw [ht, hs]
    exact h.begun
  · rw [ht, he]
    exact h.successes
  · rw [ht, he]
    exact h.failures
  · rw [ht, he, hr, hs]
    exact h.whole

theorem Balanced.ended {w w' : Watched} {p : Permit} (h : w.Balanced) (hp : p ∈ w.traffic.running)
    (ending : Option Outcome)
    (ht : w'.traffic.breaker.totals =
      { w.traffic.breaker.totals with
        successes := w.traffic.breaker.totals.successes + if ending = some .success then 1 else 0
        failures := w.traffic.breaker.totals.failures + if ending = some .failure then 1 else 0 })
    (hr : w'.traffic.running = w.traffic.running.erase p) (hs : w'.started = w.started)
    (he : w'.endings = w.endings ++ [ending]) : w'.Balanced := by
  have hcount : ∀ o, w'.endings.count (some o) =
      w.endings.count (some o) + if ending = some o then 1 else 0 := by
    intro o
    rw [he, List.count_append, List.count_singleton]
    simp
  have hlength : w'.traffic.running.length + 1 = w.traffic.running.length := by
    have hpos := List.length_pos_of_mem hp
    rw [hr, List.length_erase_of_mem hp]
    omega
  have hendings : w'.endings.length = w.endings.length + 1 := by rw [he, List.length_append]; rfl
  have hwhole := h.whole
  constructor
  · rw [ht, hs]
    exact h.begun
  · rw [ht, hcount, ← h.successes]
  · rw [ht, hcount, ← h.failures]
  · rw [ht, hs, hendings]
    simp only
    omega

theorem Balanced.step {s : Settings} {w : Watched} (name : String) (h : w.Balanced) (a : Action) :
    (w.step s name a).Balanced := by
  -- nothing comes of ending a call that does not run
  have hsame : ∀ a, (w.step s name a).traffic = w.traffic → a.starts = 0 →
      w.traffic.ending? a = none → (w.step s name a).Balanced := by
    intro a ht hs he
    apply h.unconcerned
    · rw [ht]
    · rw [ht]
    · exact congrArg (w.started + ·) hs
    · simp [Watched.step, he]
  cases a with
  | start =>
    have ht := begin_totals s w.traffic.now w.traffic.breaker
    have he : (w.step s name .start).endings = w.endings := List.append_nil _
    have hr : (w.step s name .start).traffic.running.length = w.traffic.running.length +
        (w.traffic.breaker.begin s w.traffic.now).2.toList.length := List.length_append
    have hone : (w.traffic.breaker.begin s w.traffic.now).2.toList.length +
        (if (w.traffic.breaker.begin s w.traffic.now).2 = none then 1 else 0) = 1 := by
      cases (w.traffic.breaker.begin s w.traffic.now).2 <;> rfl
    have hwhole := h.whole
    change (w.step s name .start).traffic.breaker.totals = _ at ht
    constructor
    · rw [ht]
      exact congrArg (· + 1) h.begun
    · rw [ht, he]
      exact h.successes
    · rw [ht, he]
      exact h.failures
    · rw [ht, he, hr]
      change w.started + 1 = _
      simp only
      omega
  | finish p o =>
    by_cases hp : p ∈ w.traffic.running
    · have hstep := Traffic.step_finish s o hp
      apply h.ended hp (some o)
      · simpa [Watched.step, hstep] using finish_totals s w.traffic.now p o w.traffic.breaker
      · simp [Watched.step, hstep, Traffic.ended]
      · rfl
      · simp [Watched.step, Traffic.ending?, hp]
    · exact hsame _ (Traffic.step_finish_idle s o hp) rfl (if_neg hp)
  | cancel p =>
    by_cases hp : p ∈ w.traffic.running
    · have hstep := Traffic.step_cancel s hp
      apply h.ended hp none
      · simpa [Watched.step, hstep] using abandon_keeps_totals p w.traffic.breaker
      · simp [Watched.step, hstep]
      · rfl
      · simp [Watched.step, Traffic.ending?, hp]
    · exact hsame _ (Traffic.step_cancel_idle s hp) rfl (if_neg hp)
  | trip | reset | advance nanos =>
    exact h.unconcerned rfl rfl rfl (List.append_nil _)

theorem Balanced.run {s : Settings} {w : Watched} (name : String) (h : w.Balanced)
    (actions : List Action) : (w.run s name actions).Balanced :=
  List.foldlRecOn actions _ h fun _ hw a _ => hw.step name a

/-- The reports of the breaker are in order, and the recorder has been told all of them. -/
structure Reconciled (name : String) (w : Watched) : Prop where
  mirrored : w.traffic.breaker.Mirrored
  recorder : w.recorder = Registry.empty.recordAll (w.traffic.breaker.reported name)

theorem follows_step (s : Settings) (t : Traffic) (a : Action) :
    t.breaker.Follows (t.step s a).breaker := by
  cases a with
  | start => exact follows_begin s t.now t.breaker
  | finish p o =>
    by_cases hp : p ∈ t.running
    · rw [Traffic.step_finish s o hp]
      exact follows_finish s t.now p o t.breaker
    · rw [Traffic.step_finish_idle s o hp]
      exact .refl t.breaker
  | cancel p =>
    by_cases hp : p ∈ t.running
    · rw [Traffic.step_cancel s hp]
      exact follows_abandon p t.breaker
    · rw [Traffic.step_cancel_idle s hp]
      exact .refl t.breaker
  | trip => exact follows_enter (.open t.now) t.breaker
  | reset => exact follows_enter (.closed []) t.breaker
  | advance nanos => exact .refl t.breaker

/-- A recorder that is told what is measured after each action has been told every report. -/
theorem Reconciled.step {s : Settings} {name : String} {w : Watched} (h : Reconciled name w)
    (a : Action) : Reconciled name (w.step s name a) := by
  have hf := follows_step s w.traffic a
  constructor
  · exact hf.mirrored h.mirrored
  · rw [show (w.step s name a).recorder = w.recorder.recordAll _ from rfl, h.recorder,
      ← Registry.recordAll_append]
    exact congrArg _ (reported_eq_append name hf.reports).symm

theorem reconciled_run (s : Settings) (name : String) (actions : List Action) :
    Reconciled name ((idle name).run s name actions) :=
  List.foldlRecOn actions _ ⟨mirrored_fresh, rfl⟩ fun _ hw a _ => hw.step a

theorem length_eq_counts (endings : List (Option Outcome)) :
    endings.length = endings.count (some .success) + endings.count (some .failure) +
      endings.count (some .ignored) + endings.count none := by
  induction endings with
  | nil => rfl
  | cons ending later ih =>
    rw [List.length_cons, ih]
    rcases ending with _ | _ | _ | _ <;> simp <;> omega

/-- Every call is accounted for: at any moment each call that has begun was rejected, ended with
an outcome, was given up or is running. Successes and failures are those of all calls, whatever
the breaker had become when they ended. A recorder of the breaker alone is told every report that
the breaker makes, in order, and shows its totals and its present state. No total exceeds the
number of calls, so machine words of any size suffice for as many calls as they can count. -/
theorem calls_accounted (s : Settings) (name : String) (actions : List Action) :
    let w := (idle name).run s name actions
    let b := w.traffic.breaker
    w.traffic = Traffic.idle.run s actions ∧
      b.totals.calls = w.started ∧
      b.totals.calls = b.totals.successes + b.totals.failures + b.totals.rejections +
        w.endings.count (some .ignored) + w.endings.count none + w.traffic.running.length ∧
      b.totals.successes = w.endings.count (some .success) ∧
      b.totals.failures = w.endings.count (some .failure) ∧
      w.recorder = Registry.empty.recordAll (b.reported name) ∧
      w.recorder.count .breakerCalls name = b.totals.calls ∧
      w.recorder.count .breakerSuccesses name = b.totals.successes ∧
      w.recorder.count .breakerFailures name = b.totals.failures ∧
      w.recorder.count .breakerRejections name = b.totals.rejections ∧
      w.recorder.state? name = some b.phase.gauge.toFloat := by
  intro w b
  have hidle : (idle name).Balanced := ⟨rfl, rfl, rfl, rfl⟩
  have hbooks : w.Balanced := hidle.run name actions
  have hreconciled : Reconciled name w := reconciled_run s name actions
  have hshown : Shown name b w.recorder := by
    rw [hreconciled.recorder]
    exact hreconciled.mirrored.shown name
  have hcalls : b.totals.calls = w.started := hbooks.begun
  have hsuccesses : b.totals.successes = w.endings.count (some .success) := hbooks.successes
  have hfailures : b.totals.failures = w.endings.count (some .failure) := hbooks.failures
  have hwhole : w.started =
      b.totals.rejections + w.endings.length + w.traffic.running.length := hbooks.whole
  have hendings := length_eq_counts w.endings
  have hplaces : b.totals.calls = b.totals.successes + b.totals.failures + b.totals.rejections +
      w.endings.count (some .ignored) + w.endings.count none + w.traffic.running.length := by
    omega
  exact ⟨run_traffic s name (idle name) actions, hcalls, hplaces, hsuccesses, hfailures,
    hreconciled.recorder, hshown.calls, hshown.successes, hshown.failures, hshown.rejections,
    hshown.state⟩

end Watched

end AggregateGateway.Resilience.Breaker
