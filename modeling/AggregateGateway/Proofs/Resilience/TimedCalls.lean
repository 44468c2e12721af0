import AggregateGateway.Proofs.Resilience.LoneExecution

/-! An execution that makes its call at one moment or another, so that it can be noted when it does.
Neither such a log nor a metric that no policy reports makes a difference to its course. -/

namespace AggregateGateway.Resilience

open Metrics (Metric)
open Time (Moment)

variable {σ ε α κ : Type}

namespace Guard

def withLog (log : List κ) (g : Guard σ) : Guard (σ × List κ) :=
  ⟨g.breaker, g.registry, g.service, log⟩

def without (metric : Metric) (g : Guard σ) : Guard σ :=
  { g with registry := g.registry.without metric }

variable {metric : Metric} (hmetric : metric.isOfPolicy = false)
include hmetric

theorem without_setBreaker (g : Guard σ) (name : String) (b : Breaker) :
    (g.setBreaker name b).without metric = (g.without metric).setBreaker name b := by
  have hcount (label : String) :
      (Breaker.measurements name g.breaker b).count (.count metric label) = 0 :=
    Policy.count_measurements hmetric label name g.breaker b
  have hregistry := g.registry.without_recordAll_other hcount
  simp only [setBreaker, without, hregistry]

theorem without_recordVerdict (g : Guard σ) (v : Retry.Verdict ε α) (attempt : Nat) :
    ({ g with registry := g.registry.recordAll (v.measurements attempt) } : Guard σ).without metric =
      { g.without metric with
        registry := (g.without metric).registry.recordAll (v.measurements attempt) } := by
  have hcount (label : String) : (v.measurements attempt).count (.count metric label) = 0 :=
    Policy.count_verdict hmetric label attempt v
  have hregistry := g.registry.without_recordAll_other hcount
  simp only [without, hregistry]

end Guard

namespace Policy

variable [Classified ε] {p : Policy} {call : Call σ ε α}

/-! ### Steps -/

theorem step_withLog (key : κ) (call : Call σ ε α) (now : Moment) (e : Execution ε α)
    (g : Guard σ) (log : List κ) :
    ∃ log', log <+: log' ∧ p.step (call.noted key) now e (g.withLog log) =
      (p.step call now e g).map fun x => (x.1, x.2.withLog log') := by
  cases e with
  | ready =>
    rcases h : g.breaker.begin p.breaker now with ⟨b, _ | permit⟩
    · have h' : (g.withLog log).breaker.begin p.breaker now = (b, none) := h
      exact ⟨log, List.prefix_rfl, by simp only [step, h, h']; rfl⟩
    · have h' : (g.withLog log).breaker.begin p.breaker now = (b, some permit) := h
      exact ⟨log ++ [key], List.prefix_append _ _, by simp only [step, h, h']; rfl⟩
  | attempting permit attempt due answer =>
    refine ⟨log, List.prefix_rfl, ?_⟩
    by_cases hdue : now < due
    · simp only [step, hdue, if_true, Option.map_none]
    · simp only [step, hdue, if_false]
      cases p.retry.after Classified.isTransient attempt answer <;> rfl
  | pausing permit attempt due =>
    refine ⟨log ++ [key], List.prefix_append _ _, ?_⟩
    by_cases hdue : now < due
    · simp only [step, hdue, if_true, Option.map_none]
    · simp only [step, hdue, if_false]
      rfl
  | ended r => exact ⟨log, List.prefix_rfl, rfl⟩

theorem step_without {metric : Metric} (hmetric : metric.isOfPolicy = false) (p : Policy)
    (call : Call σ ε α) (now : Moment) (e : Execution ε α) (g : Guard σ) :
    p.step call now e (g.without metric) =
      (p.step call now e g).map fun x => (x.1, x.2.without metric) := by
  cases e with
  | ready =>
    rcases h : g.breaker.begin p.breaker now with ⟨b, _ | permit⟩
    · have h' : (g.without metric).breaker.begin p.breaker now = (b, none) := h
      simp only [step, h, h', Option.map_some, Guard.without_setBreaker hmetric]
    · have h' : (g.without metric).breaker.begin p.breaker now = (b, some permit) := h
      simp only [step, h, h', Option.map_some, ← Guard.without_setBreaker hmetric]
      rfl
  | attempting permit attempt due answer =>
    by_cases hdue : now < due
    · simp only [step, hdue, if_true, Option.map_none]
    · simp only [step, hdue, if_false, ← Guard.without_recordVerdict hmetric]
      cases p.retry.after Classified.isTransient attempt answer with
      | again => rfl
      | settled r =>
        simp only [Option.map_some, Guard.without_setBreaker hmetric]
        rfl
  | pausing permit attempt due =>
    by_cases hdue : now < due
    · simp only [step, hdue, if_true, Option.map_none]
    · simp only [step, hdue, if_false]
      rfl
  | ended r => rfl

theorem step_early {now due : Moment} {e : Execution ε α} (p : Policy) (call : Call σ ε α)
    (g : Guard σ) (hdue : e.due? = some due) (h : now < due) : p.step call now e g = none := by
  cases e with
  | ready | ended r => cases hdue
  | attempting permit attempt due answer | pausing permit attempt due =>
    cases hdue
    simp only [step, h, if_true]

/-! ### Courses -/

/-- An execution takes the step that is due, with the call of that moment, or else waits for the
next one. -/
inductive TimedMove (p : Policy) (calls : Moment → Call σ ε α) :
    Moment × Execution ε α × Guard σ → Moment × Execution ε α × Guard σ → Prop
  | step {now : Moment} {e e' : Execution ε α} {g g' : Guard σ}
    (h : p.step (calls now) now e g = some (e', g')) :
    TimedMove p calls (now, e, g) (now, e', g')
  | wait {now due : Moment} {e : Execution ε α} {g : Guard σ}
    (h : p.step (calls now) now e g = none) (hdue : e.due? = some due) :
    TimedMove p calls (now, e, g) (due, e, g)

abbrev TimedReaches (p : Policy) (calls : Moment → Call σ ε α) :=
  Relation.ReflTransGen (TimedMove p calls)

variable {calls : Moment → Call σ ε α} {s t u : Moment × Execution ε α × Guard σ}

theorem TimedMove.rightUnique (p : Policy) (calls : Moment → Call σ ε α) :
    Relator.RightUnique (TimedMove p calls) := by
  intro s t u ht hu
  cases ht with
  | step h =>
    cases hu with
    | step h' => cases h.symm.trans h'; rfl
    | wait h' _ => cases h.symm.trans h'
  | wait h hdue =>
    cases hu with
    | step h' => cases h.symm.trans h'
    | wait _ hdue' => cases hdue.symm.trans hdue'; rfl

def IsEnd (s : Moment × Execution ε α × Guard σ) : Prop :=
  ∃ r, s.2.1 = .ended r

theorem IsEnd.no_move (hs : IsEnd s) : ¬ TimedMove p calls s t := by
  obtain ⟨r, hr⟩ := hs
  rintro (⟨h⟩ | ⟨-, hdue⟩)
  · cases hr
    cases h
  · cases hr
    cases hdue

theorem TimedReaches.eq_of_end (h : TimedReaches p calls s t) (hs : IsEnd s) : t = s := by
  rcases Relation.ReflTransGen.cases_head h with h | ⟨u, hu, -⟩
  · exact h.symm
  · exact absurd hu hs.no_move

theorem TimedReaches.end_unique (h : TimedReaches p calls s t) (h' : TimedReaches p calls s u)
    (ht : IsEnd t) (hu : IsEnd u) : t = u := by
  rcases Relation.ReflTransGen.total_of_right_unique (TimedMove.rightUnique p calls) h h' with h | h
  · exact (TimedReaches.eq_of_end h ht).symm
  · exact TimedReaches.eq_of_end h hu

theorem TimedReaches.after_move (h : TimedReaches p calls s t) (ht : IsEnd t)
    (hmove : TimedMove p calls s u) : TimedReaches p calls u t := by
  rcases Relation.ReflTransGen.cases_head h with rfl | ⟨v, hv, hlater⟩
  · exact absurd hmove ht.no_move
  · obtain rfl : u = v := TimedMove.rightUnique p calls hmove hv
    exact hlater

theorem TimedReaches.due {now due : Moment} {e : Execution ε α} (p : Policy)
    (calls : Moment → Call σ ε α) (g : Guard σ) (hdue : e.due? = some due) (h : now ≤ due) :
    TimedReaches p calls (now, e, g) (due, e, g) := by
  rcases Nat.eq_or_lt_of_le h with rfl | hlt
  · exact .refl
  · exact .single (.wait (step_early p (calls now) g hdue hlt) hdue)

/-- An execution takes the same course with a log, which only grows. -/
theorem Reaches.timed (keys : Moment → κ) {s t : Moment × Execution ε α × Guard σ}
    (h : Reaches p call s t) (log : List κ) :
    ∃ log', TimedReaches p (fun now => call.noted (keys now))
      (s.1, s.2.1, s.2.2.withLog log) (t.1, t.2.1, t.2.2.withLog log') := by
  induction h using Relation.ReflTransGen.head_induction_on generalizing log with
  | refl => exact ⟨log, .refl⟩
  | head hmove _ ih =>
    cases hmove with
    | @step now e e' g g' h =>
      obtain ⟨log₁, -, hstep⟩ := step_withLog (p := p) (keys now) call now e g log
      obtain ⟨log₂, hlater⟩ := ih log₁
      rw [h, Option.map_some] at hstep
      exact ⟨log₂, .head (.step hstep) hlater⟩
    | @wait now due e g h hdue =>
      obtain ⟨log₁, -, hstep⟩ := step_withLog (p := p) (keys now) call now e g log
      obtain ⟨log₂, hlater⟩ := ih log
      rw [h, Option.map_none] at hstep
      exact ⟨log₂, .head (.wait hstep hdue) hlater⟩

theorem TimedReaches.without {metric : Metric} (hmetric : metric.isOfPolicy = false)
    (h : TimedReaches p calls s t) :
    TimedReaches p calls (s.1, s.2.1, s.2.2.without metric) (t.1, t.2.1, t.2.2.without metric) := by
  induction h with
  | refl => exact .refl
  | tail _ hmove ih =>
    refine ih.tail ?_
    cases hmove with
    | step h => exact .step (by rw [step_without hmetric, h]; rfl)
    | wait h hdue => exact .wait (by rw [step_without hmetric, h]; rfl) hdue

theorem log_isPrefix_step {key : κ} {now : Moment} {e e' : Execution ε α}
    {g g' : Guard (σ × List κ)} (h : p.step (call.noted key) now e g = some (e', g')) :
    g.service.2 <+: g'.service.2 := by
  obtain ⟨log, hlog, hstep⟩ := step_withLog (p := p) key call now e
    ⟨g.breaker, g.registry, g.service.1⟩ g.service.2
  have hsame := h.symm.trans hstep
  obtain ⟨⟨e₁, g₁⟩, -, heq⟩ := Option.map_eq_some_iff.mp hsame.symm
  obtain ⟨-, rfl⟩ := Prod.mk.inj heq
  exact hlog

theorem TimedReaches.log_isPrefix {keys : Moment → κ}
    {s t : Moment × Execution ε α × Guard (σ × List κ)}
    (h : TimedReaches p (fun now => call.noted (keys now)) s t) :
    s.2.2.service.2 <+: t.2.2.service.2 := by
  induction h with
  | refl => exact List.prefix_rfl
  | tail _ hmove ih =>
    cases hmove with
    | step h => exact ih.trans (log_isPrefix_step h)
    | wait h hdue => exact ih

end Policy

end AggregateGateway.Resilience
