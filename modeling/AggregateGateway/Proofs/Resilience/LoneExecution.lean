import AggregateGateway.Proofs.Metrics.Counters
import AggregateGateway.Proofs.Resilience.ExecutionSteps
import AggregateGateway.Proofs.Resilience.PolicyTraffic
import Mathlib.Logic.Relation

/-! An execution with nothing beside it. The schedule takes it to its end, and what it comes to is
a series of attempts under the breaker: `Policy.lone` says so without a schedule. -/

namespace AggregateGateway

/-- The metrics of breakers and of retries. -/
def Metrics.Metric.isOfPolicy : Metrics.Metric → Bool
  | .breakerState | .breakerCalls | .breakerSuccesses | .breakerFailures | .breakerRejections
  | .retryAttempts | .retrySuccesses | .retryExhausted => true
  | _ => false

namespace Resilience

open Time (Moment)

variable {σ ε α : Type}

def Call.repeated (call : Call σ ε α) (s : σ) : Nat → σ
  | 0 => s
  | n + 1 => (call (call.repeated s n)).2

/-! ### Attempts -/

namespace Retry

variable {p : Policy} {isRetryable : ε → Bool} {replies : Nat → Reply ε α}
  {attempt left : Nat}

theorem runFrom_settled {r : Except (Failure ε) α}
    (h : p.after isRetryable attempt (replies attempt).answer = .settled r) :
    runFrom p isRetryable replies attempt left =
      ⟨r, attempt, (replies attempt).latency, Verdict.measurements attempt (.settled r)⟩ := by
  cases left <;> simp only [runFrom, h]

theorem runFrom_again
    (h : p.after isRetryable attempt (replies attempt).answer = .again) :
    runFrom p isRetryable replies attempt (left + 1) =
      let rest := runFrom p isRetryable replies (attempt + 1) left
      ⟨rest.result, rest.attempts, (replies attempt).latency + p.wait.nanos + rest.elapsed,
        Verdict.measurements attempt (.again : Verdict ε α) ++ rest.measurements⟩ := by
  simp only [runFrom, h]

theorem runFrom_attempts (p : Policy) (isRetryable : ε → Bool)
    (replies : Nat → Reply ε α) (attempt left : Nat) :
    attempt ≤ (runFrom p isRetryable replies attempt left).attempts ∧
      (runFrom p isRetryable replies attempt left).attempts ≤ attempt + left := by
  induction left generalizing attempt with
  | zero => exact ⟨Nat.le_refl _, Nat.le_refl _⟩
  | succ left ih =>
    cases h : p.after isRetryable attempt (replies attempt).answer with
    | settled r =>
      rw [runFrom_settled h]
      exact ⟨Nat.le_refl _, Nat.le_add_right _ _⟩
    | again =>
      rw [runFrom_again h]
      have := ih (attempt + 1)
      dsimp only
      omega

end Retry

namespace Policy

variable [Classified ε]

/-- The replies to the attempts of one execution, which are numbered from one. -/
def replies (p : Policy) (call : Call σ ε α) (s : σ) (attempt : Nat) : Retry.Reply ε α :=
  p.cut (call (call.repeated s (attempt - 1))).1

/-! ### Moves -/

/-- An execution takes the step that is due, or else waits for the next one. -/
inductive Move (p : Policy) (call : Call σ ε α) :
    Moment × Execution ε α × Guard σ → Moment × Execution ε α × Guard σ → Prop
  | step {now : Moment} {e e' : Execution ε α} {g g' : Guard σ}
    (h : p.step call now e g = some (e', g')) : Move p call (now, e, g) (now, e', g')
  | wait {now due : Moment} {e : Execution ε α} {g : Guard σ}
    (h : p.step call now e g = none) (hdue : e.due? = some due) :
    Move p call (now, e, g) (due, e, g)

theorem Move.rightUnique (p : Policy) (call : Call σ ε α) : Relator.RightUnique (Move p call) := by
  intro s t u ht hu
  cases ht with
  | step h =>
    cases hu with
    | step h' => cases h.symm.trans h'; rfl
    | wait h' _ => cases h.symm.trans h'
  | wait h hdue =>
    cases hu with
    | step h' => cases h.symm.trans h'
    | wait _ hdue' => cases hdue.symm.trans hdue'; rfl

abbrev Reaches (p : Policy) (call : Call σ ε α) :=
  Relation.ReflTransGen (Move p call)

theorem eq_of_reaches_ended {p : Policy} {call : Call σ ε α} {now : Moment}
    {r : Except (Refusal ε) α} {g : Guard σ} {s : Moment × Execution ε α × Guard σ}
    (h : Reaches p call (now, .ended r, g) s) : s = (now, .ended r, g) := by
  rcases Relation.ReflTransGen.cases_head h with h | ⟨t, ht, -⟩
  · exact h.symm
  · cases ht with
    | step h => cases h
    | wait h hdue => cases hdue

theorem reaches_ended_unique {p : Policy} {call : Call σ ε α}
    {s : Moment × Execution ε α × Guard σ} {now now' : Moment} {r r' : Except (Refusal ε) α}
    {g g' : Guard σ} (h : Reaches p call s (now, .ended r, g))
    (h' : Reaches p call s (now', .ended r', g')) :
    (now, Execution.ended r, g) = (now', .ended r', g') := by
  rcases Relation.ReflTransGen.total_of_right_unique (Move.rightUnique p call) h h' with h | h
  · exact (eq_of_reaches_ended h).symm
  · exact eq_of_reaches_ended h

theorem reaches_poll (p : Policy) (call : Call σ ε α) (now : Moment) (n : Nat)
    (e : Execution ε α) (g : Guard σ) : Reaches p call (now, e, g) (now, p.poll call now n e g) := by
  induction n generalizing e g with
  | zero => exact .refl
  | succ n ih =>
    cases h : p.step call now e g with
    | none =>
      rw [poll_none h]
    | some next =>
      obtain ⟨e', g'⟩ := next
      rw [poll_some h]
      exact .head (.step h) (ih e' g')

/-! ### The schedule -/

theorem run_one_ended {p : Policy} {call : Call σ ε α} {n : Nat} {now : Moment}
    {e : Execution ε α} {g g' : Guard σ} {r : Except (Refusal ε) α}
    (h : p.poll call now p.stepLimit e g = (.ended r, g')) :
    Schedule.run p none (n + 1) now [⟨call, e, none⟩] g =
      (now, [⟨call, .ended r, some now⟩], g') := by
  have hpolled : Schedule.pollAll p now [⟨call, e, none⟩] g =
      ([⟨call, .ended r, some now⟩], g') := by
    simp only [Schedule.pollAll, Schedule.pollTask, h, Execution.result?, Option.map_some,
      Option.none_or]
  have hnext : Schedule.nextMoment [(⟨call, .ended r, some now⟩ : Task σ ε α)] = none := rfl
  simp only [Schedule.run, hpolled, hnext]

theorem run_one_due {p : Policy} {call : Call σ ε α} {n : Nat} {now due : Moment}
    {e e' : Execution ε α} {g g' : Guard σ}
    (h : p.poll call now p.stepLimit e g = (e', g')) (hdue : e'.due? = some due) :
    Schedule.run p none (n + 1) now [⟨call, e, none⟩] g =
      Schedule.run p none n due [⟨call, e', none⟩] g' := by
  have hresult : e'.result? = none := by
    cases e' with
    | ended r => cases hdue
    | ready | attempting | pausing => rfl
  have hpolled : Schedule.pollAll p now [⟨call, e, none⟩] g = ([⟨call, e', none⟩], g') := by
    simp only [Schedule.pollAll, Schedule.pollTask, h, hresult, Option.map_none, Option.none_or]
  have hnext : Schedule.nextMoment [(⟨call, e', none⟩ : Task σ ε α)] = some due := by
    simp only [Schedule.nextMoment, List.filterMap_cons, hdue, List.filterMap_nil]
    rfl
  simp only [Schedule.run, hpolled, hnext]

theorem run_one {p : Policy} {call : Call σ ε α} {n : Nat} {now : Moment} {e : Execution ε α}
    {g : Guard σ} (hrounds : p.stepsLeft e ≤ n) (hstep : p.step call now e g ≠ none) :
    ∃ moment r g',
      Schedule.run p none n now [⟨call, e, none⟩] g =
        (moment, [⟨call, .ended r, some moment⟩], g') ∧
      Reaches p call (now, e, g) (moment, .ended r, g') := by
  induction n generalizing now e g with
  | zero =>
    cases e with
    | ended r => exact absurd rfl hstep
    | ready | attempting | pausing => simp only [stepsLeft] at hrounds; omega
  | succ n ih =>
    obtain ⟨e', g', hpoll⟩ : ∃ e' g', p.poll call now p.stepLimit e g = (e', g') := ⟨_, _, rfl⟩
    have hreaches := reaches_poll p call now p.stepLimit e g
    have hidle := step_poll call now g (stepsLeft_le p e)
    rw [hpoll] at hreaches hidle
    rcases step_eq_none hidle with ⟨r, rfl⟩ | ⟨due, hdue, hlater, hready⟩
    · exact ⟨now, r, g', run_one_ended hpoll, hreaches⟩
    · -- a round takes one of the steps that are left, so the rounds suffice
      have hless : p.stepsLeft e' < p.stepsLeft e := by
        have hlt := stepsLeft_poll_lt (n := p.stepLimit) (Nat.succ_pos _) hstep
        rw [hpoll] at hlt
        exact hlt
      obtain ⟨moment, r, last, hrun, hlast⟩ :=
        ih (e := e') (by omega) (hready g')
      refine ⟨moment, r, last, ?_, hreaches.trans (.head (.wait hidle hdue) hlast)⟩
      rw [run_one_due hpoll hdue, hrun]

/-! ### Closed form -/

variable {p : Policy} {call : Call σ ε α}

theorem reaches_due {now due : Moment} {e : Execution ε α} {g : Guard σ}
    (hdue : e.due? = some due) (h : now ≤ due) : Reaches p call (now, e, g) (due, e, g) := by
  rcases Nat.eq_or_lt_of_le h with rfl | hlt
  · exact .refl
  · refine .single (.wait ?_ hdue)
    cases e with
    | ready | ended r => cases hdue
    | attempting permit attempt due answer | pausing permit attempt due =>
      cases hdue
      simp only [step, hlt, if_true]

/-- What executions share when the last attempt of one of them has been settled. -/
def afterRun (p : Policy) (call : Call σ ε α) (s : σ) (moment : Moment) (permit : Breaker.Permit)
    (run : Retry.Run ε α) (g : Guard σ) : Guard σ :=
  (⟨g.breaker, g.registry.recordAll run.measurements, call.repeated s run.attempts⟩ :
    Guard σ).setBreaker p.name (g.breaker.finish p.breaker moment permit (outcome run.result))

section Series

variable {s : σ} {attempt : Nat} {g : Guard σ} (now : Moment) (permit : Breaker.Permit)
  (hservice : g.service = call.repeated s attempt)

include hservice

theorem reaches_verdict :
    let reply := p.replies call s (attempt + 1)
    Reaches p call (now, p.attemptFrom call now permit (attempt + 1) g)
      (now + reply.latency, .attempting permit (attempt + 1) (now + reply.latency) reply.answer,
        ⟨g.breaker, g.registry, call.repeated s (attempt + 1)⟩) := by
  intro reply
  have hfrom : p.attemptFrom call now permit (attempt + 1) g =
      (.attempting permit (attempt + 1) (now + reply.latency) reply.answer,
        ⟨g.breaker, g.registry, call.repeated s (attempt + 1)⟩) := by
    simp only [attemptFrom, hservice]
    rfl
  rw [hfrom]
  exact reaches_due rfl (Nat.le_add_right _ _)

theorem reaches_settled {r : Except (Retry.Failure ε) α} (left : Nat)
    (h : p.retry.after Classified.isTransient (attempt + 1)
      (p.replies call s (attempt + 1)).answer = .settled r) :
    let run := Retry.runFrom p.retry Classified.isTransient (p.replies call s) (attempt + 1) left
    Reaches p call (now, p.attemptFrom call now permit (attempt + 1) g)
      (now + run.elapsed, .ended (run.result.mapError Refusal.ofFailure),
        p.afterRun call s (now + run.elapsed) permit run g) := by
  rw [Retry.runFrom_settled h]
  refine (reaches_verdict now permit hservice).tail (.step ?_)
  simp only [step, Nat.lt_irrefl, if_false, h]
  rfl

theorem reaches_again
    (h : p.retry.after Classified.isTransient (attempt + 1)
      (p.replies call s (attempt + 1)).answer = .again) :
    let later := now + (p.replies call s (attempt + 1)).latency + p.retry.wait.nanos
    Reaches p call (now, p.attemptFrom call now permit (attempt + 1) g)
      (later, p.attemptFrom call later permit (attempt + 2)
        ⟨g.breaker, g.registry.recordAll (Retry.Verdict.measurements (attempt + 1)
          (.again : Retry.Verdict ε α)), call.repeated s (attempt + 1)⟩) := by
  intro later
  let due := now + (p.replies call s (attempt + 1)).latency
  let g' : Guard σ := ⟨g.breaker, g.registry.recordAll (Retry.Verdict.measurements (attempt + 1)
    (.again : Retry.Verdict ε α)), call.repeated s (attempt + 1)⟩
  have hpause : Move p call
      (due, .attempting permit (attempt + 1) due (p.replies call s (attempt + 1)).answer,
        ⟨g.breaker, g.registry, call.repeated s (attempt + 1)⟩)
      (due, .pausing permit (attempt + 2) later, g') := by
    refine .step ?_
    simp only [step, Nat.lt_irrefl, if_false, h]
    rfl
  have hresume : Move p call (later, .pausing permit (attempt + 2) later, g')
      (later, p.attemptFrom call later permit (attempt + 2) g') := by
    refine .step ?_
    simp only [step, Nat.lt_irrefl, if_false]
    rfl
  exact ((reaches_verdict now permit hservice).tail hpause).trans
    ((reaches_due rfl (Nat.le_add_right due _)).tail hresume)

end Series

theorem reaches_end {s : σ} {left : Nat} {g : Guard σ} (attempt : Nat) (now : Moment)
    (permit : Breaker.Permit) (hservice : g.service = call.repeated s attempt)
    (hleft : p.retry.maxAttempts - (attempt + 1) = left) :
    let run := Retry.runFrom p.retry Classified.isTransient (p.replies call s) (attempt + 1) left
    Reaches p call (now, p.attemptFrom call now permit (attempt + 1) g)
      (now + run.elapsed, .ended (run.result.mapError Refusal.ofFailure),
        p.afterRun call s (now + run.elapsed) permit run g) := by
  induction left generalizing attempt now g with
  | zero =>
    cases h : p.retry.after Classified.isTransient (attempt + 1)
        (p.replies call s (attempt + 1)).answer with
    | settled r => exact reaches_settled now permit hservice 0 h
    | again =>
      -- the last attempt is never followed by another one
      have hlt := lt_maxAttempts_of_again h
      omega
  | succ left ih =>
    cases h : p.retry.after Classified.isTransient (attempt + 1)
        (p.replies call s (attempt + 1)).answer with
    | settled r => exact reaches_settled now permit hservice (left + 1) h
    | again =>
      have hall := (reaches_again now permit hservice h).trans
        (ih (attempt + 1) _ rfl (by omega))
      rw [Retry.runFrom_again h]
      dsimp only at hall ⊢
      rw [← Nat.add_assoc, ← Nat.add_assoc]
      simpa only [afterRun, Metrics.Registry.recordAll, List.foldl_append] using hall

/-- What an execution comes to that has nothing beside it. -/
structure Lone (σ ε α : Type) where
  result : Except (Refusal ε) α
  moment : Moment
  attempts : Nat
  guard : Guard σ

def lone (p : Policy) (call : Call σ ε α) (now : Moment) (g : Guard σ) : Lone σ ε α :=
  match g.breaker.begin p.breaker now with
  | (b, none) => ⟨.error (.circuitOpen p.name), now, 0, g.setBreaker p.name b⟩
  | (b, some permit) =>
    let run := Retry.run p.retry Classified.isTransient (p.replies call g.service)
    let moment := now + run.elapsed
    ⟨run.result.mapError Refusal.ofFailure, moment, run.attempts,
      p.afterRun call g.service moment permit run (g.setBreaker p.name b)⟩

theorem lone_rejected {now : Moment} {g : Guard σ} {b : Breaker} (call : Call σ ε α)
    (h : g.breaker.begin p.breaker now = (b, none)) :
    p.lone call now g = ⟨.error (.circuitOpen p.name), now, 0, g.setBreaker p.name b⟩ := by
  simp only [lone, h]

theorem lone_admitted {now : Moment} {g : Guard σ} {b : Breaker} {permit : Breaker.Permit}
    (call : Call σ ε α) (h : g.breaker.begin p.breaker now = (b, some permit)) :
    p.lone call now g =
      let run := Retry.run p.retry Classified.isTransient (p.replies call g.service)
      let moment := now + run.elapsed
      ⟨run.result.mapError Refusal.ofFailure, moment, run.attempts,
        p.afterRun call g.service moment permit run (g.setBreaker p.name b)⟩ := by
  simp only [lone, h]

theorem reaches_lone (p : Policy) (call : Call σ ε α) (now : Moment) (g : Guard σ) :
    Reaches p call (now, .ready, g)
      ((p.lone call now g).moment, .ended (p.lone call now g).result,
        (p.lone call now g).guard) := by
  rcases h : g.breaker.begin p.breaker now with ⟨b, _ | permit⟩
  · rw [lone_rejected call h]
    exact .single (.step (by simp only [step, h]))
  · have hstep : p.step call now .ready g =
        some (p.attemptFrom call now permit 1 (g.setBreaker p.name b)) := by
      simp only [step, h]
    rw [lone_admitted call h]
    exact .head (.step hstep) (reaches_end (s := g.service) 0 now permit rfl rfl)

/-- The schedule of one execution needs no schedule. -/
theorem together_lone (p : Policy) (call : Call σ ε α) (now : Moment) (g : Guard σ) :
    let x := p.lone call now g
    Schedule.together p now [call] g =
      (x.moment, [⟨call, .ended x.result, some x.moment⟩], x.guard) := by
  intro x
  obtain ⟨moment, r, g', hrun, hreaches⟩ :=
    run_one (p := p) (n := 1 * p.stepLimit + 1) (e := .ready) (g := g)
      (by simp only [stepsLeft, stepLimit]; omega) (step_ready p call now g)
  cases reaches_ended_unique hreaches (reaches_lone p call now g)
  exact hrun

/-! ### What it leaves behind -/

theorem le_lone_moment (p : Policy) (call : Call σ ε α) (now : Moment) (g : Guard σ) :
    now ≤ (p.lone call now g).moment := by
  rcases h : g.breaker.begin p.breaker now with ⟨b, _ | permit⟩
  · exact Nat.le_of_eq (congrArg Lone.moment (lone_rejected call h)).symm
  · rw [lone_admitted call h]
    exact Nat.le_add_right _ _

theorem lone_service (p : Policy) (call : Call σ ε α) (now : Moment) (g : Guard σ) :
    (p.lone call now g).guard.service = call.repeated g.service (p.lone call now g).attempts := by
  rcases h : g.breaker.begin p.breaker now with ⟨b, _ | permit⟩
  · rw [lone_rejected call h]
    rfl
  · rw [lone_admitted call h]
    rfl

theorem lone_attempts (p : Policy) (call : Call σ ε α) (now : Moment) (g : Guard σ) :
    ((p.lone call now g).attempts = 0 ↔ (g.breaker.begin p.breaker now).2 = none) ∧
      (p.lone call now g).attempts ≤ max 1 p.retry.maxAttempts := by
  rcases h : g.breaker.begin p.breaker now with ⟨b, _ | permit⟩
  · rw [lone_rejected call h]
    exact ⟨⟨fun _ => rfl, fun _ => rfl⟩, Nat.zero_le _⟩
  · obtain ⟨hfirst, hlast⟩ := Retry.runFrom_attempts p.retry Classified.isTransient
      (p.replies call g.service) 1 (p.retry.maxAttempts - 1)
    rw [lone_admitted call h]
    refine ⟨⟨fun hzero => ?_, fun hnone => nomatch hnone⟩, Nat.le_trans hlast (by omega)⟩
    exact absurd hzero (Nat.ne_of_gt hfirst)

section Noted

variable {κ : Type} (key : κ)

omit [Classified ε] in
theorem repeated_noted (call : Call σ ε α) (s : σ) (log : List κ) (n : Nat) :
    (call.noted key).repeated (s, log) n =
      (call.repeated s n, log ++ List.replicate n key) := by
  induction n with
  | zero => exact congrArg (s, ·) (List.append_nil log).symm
  | succ n ih =>
    simp only [Call.repeated, ih, Call.noted]
    rw [List.replicate_succ', List.append_assoc]

theorem replies_noted (p : Policy) (call : Call σ ε α) (s : σ) :
    p.replies (call.noted key) (s, ([] : List κ)) = p.replies call s := by
  funext attempt
  simp only [replies, repeated_noted, Call.noted]

/-- A log changes nothing and holds one note for each attempt. -/
theorem lone_noted (p : Policy) (call : Call σ ε α) (now : Moment) (g : Guard σ) :
    let x := p.lone (call.noted key) now (g.noting κ)
    let y := p.lone call now g
    x.result = y.result ∧ x.moment = y.moment ∧
      x.guard.service.2 = List.replicate y.attempts key := by
  intro x y
  have hlog : x.guard.service.2 = List.replicate x.attempts key := by
    have hservice : x.guard.service = _ := lone_service p (call.noted key) now (g.noting κ)
    rw [hservice]
    exact congrArg Prod.snd (repeated_noted key call g.service [] x.attempts)
  rcases h : g.breaker.begin p.breaker now with ⟨b, _ | permit⟩
  · have hx : x = _ := lone_rejected (call.noted key) (g := g.noting κ) h
    have hy : y = _ := lone_rejected call h
    rw [hlog, hx, hy]
    exact ⟨rfl, rfl, rfl⟩
  · have hx : x = _ := lone_admitted (call.noted key) (g := g.noting κ) h
    have hy : y = _ := lone_admitted call h
    have hreplies : p.replies (call.noted key) (g.noting κ).service = p.replies call g.service :=
      replies_noted key p call g.service
    rw [hlog, hx, hy]
    dsimp only
    rw [hreplies]
    exact ⟨rfl, rfl, rfl⟩

end Noted

section Counts

open Metrics (Metric Measurement)

variable {metric : Metric} (hmetric : metric.isOfPolicy = false) (label : String)

include hmetric

omit [Classified ε] in
theorem count_measurements (name : String) (before after : Breaker) :
    (Breaker.measurements name before after).count (.count metric label) = 0 := by
  refine List.count_eq_zero.mpr fun h => ?_
  obtain ⟨r, -, hr⟩ := List.mem_map.mp h
  cases r with
  | call | rejection | success | failure =>
    injection hr with hm
    rw [← hm] at hmetric
    cases hmetric
  | state gauge => cases hr

omit [Classified ε] in
theorem count_setBreaker (g : Guard σ) (name : String) (b : Breaker) :
    (g.setBreaker name b).registry.count metric label = g.registry.count metric label := by
  rw [Guard.setBreaker, Metrics.Registry.count_recordAll, count_measurements hmetric, Nat.add_zero]

omit [Classified ε] in
theorem count_of_policy {metric' : Metric} (hmetric' : metric'.isOfPolicy = true)
    (label' : String) :
    [Measurement.count metric' label'].count (.count metric label) = 0 := by
  refine List.count_eq_zero.mpr fun h => ?_
  injection List.mem_singleton.mp h with hm
  rw [hm, hmetric'] at hmetric
  cases hmetric

omit [Classified ε] in
theorem count_verdict (attempt : Nat) (v : Retry.Verdict ε α) :
    (v.measurements attempt).count (.count metric label) = 0 := by
  rcases v with (f | a) | _
  · cases f with
    | exhausted attempts last => exact count_of_policy hmetric label rfl ""
    | aborted e => rfl
  · simp only [Retry.Verdict.measurements]
    split
    · exact count_of_policy hmetric label rfl ""
    · rfl
  · exact count_of_policy hmetric label rfl ""

omit [Classified ε] in
theorem count_runFrom (p : Retry.Policy) (isRetryable : ε → Bool)
    (replies : Nat → Retry.Reply ε α) (attempt left : Nat) :
    (Retry.runFrom p isRetryable replies attempt left).measurements.count
      (.count metric label) = 0 := by
  induction left generalizing attempt with
  | zero => exact count_verdict hmetric label attempt _
  | succ left ih =>
    cases h : p.after isRetryable attempt (replies attempt).answer with
    | settled r =>
      rw [Retry.runFrom_settled h]
      exact count_verdict hmetric label attempt _
    | again =>
      rw [Retry.runFrom_again h]
      simp only [List.count_append, count_verdict hmetric, ih]

theorem lone_count (p : Policy) (call : Call σ ε α) (now : Moment) (g : Guard σ) :
    (p.lone call now g).guard.registry.count metric label = g.registry.count metric label := by
  rcases h : g.breaker.begin p.breaker now with ⟨b, _ | permit⟩
  · rw [lone_rejected call h]
    exact count_setBreaker hmetric label g p.name b
  · rw [lone_admitted call h]
    simp only [afterRun, count_setBreaker hmetric, Metrics.Registry.count_recordAll, Retry.run,
      count_runFrom hmetric, Nat.add_zero]

end Counts

end Policy

end Resilience

end AggregateGateway
