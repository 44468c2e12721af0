import AggregateGateway.Resilience.Policy

/-! What a step makes of an execution, case by case, and how the steps of one execution follow on
one another: each takes it nearer to its end, and between two steps it waits. -/

namespace AggregateGateway.Resilience.Policy

open Time (Moment)

variable {σ ε α : Type}

theorem lt_maxAttempts_of_again {p : Retry.Policy} {isRetryable : ε → Bool} {attempt : Nat}
    {answer : Except ε α} (h : p.after isRetryable attempt answer = .again) :
    attempt < p.maxAttempts := by
  cases answer with
  | ok a => simp [Retry.Policy.after] at h
  | error e =>
    simp only [Retry.Policy.after] at h
    split at h
    · cases h
    · split at h
      · cases h
      · omega

variable [Classified ε]

/-- What a step makes of an execution and of what executions share. -/
inductive Turn (p : Policy) (call : Call σ ε α) (now : Moment) (g : Guard σ) :
    Execution ε α → Execution ε α → Guard σ → Prop
  | rejected {b : Breaker} (hbegin : g.breaker.begin p.breaker now = (b, none)) :
    Turn p call now g .ready (.ended (.error (.circuitOpen p.name))) (g.setBreaker p.name b)
  | admitted {b : Breaker} {permit : Breaker.Permit}
    (hbegin : g.breaker.begin p.breaker now = (b, some permit)) :
    Turn p call now g .ready (p.attemptFrom call now permit 1 (g.setBreaker p.name b)).1
      (p.attemptFrom call now permit 1 (g.setBreaker p.name b)).2
  | paused {permit : Breaker.Permit} {attempt : Nat} {due : Moment} {answer : Except ε α}
    (registry : Metrics.Registry) (hlimit : attempt < p.retry.maxAttempts) :
    Turn p call now g (.attempting permit attempt due answer)
      (.pausing permit (attempt + 1) (now + p.retry.wait.nanos)) { g with registry }
  | resumed {permit : Breaker.Permit} {attempt : Nat} {due : Moment} :
    Turn p call now g (.pausing permit attempt due) (p.attemptFrom call now permit attempt g).1
      (p.attemptFrom call now permit attempt g).2
  | settled {permit : Breaker.Permit} {attempt : Nat} {due : Moment} {answer : Except ε α}
    (registry : Metrics.Registry) (r : Except (Retry.Failure ε) α) :
    Turn p call now g (.attempting permit attempt due answer) (.ended (r.mapError Refusal.ofFailure))
      ({ g with registry }.setBreaker p.name (g.breaker.finish p.breaker now permit (outcome r)))

theorem step_turn {p : Policy} {call : Call σ ε α} {now : Moment} {e e' : Execution ε α}
    {g g' : Guard σ} (h : p.step call now e g = some (e', g')) : Turn p call now g e e' g' := by
  cases e with
  | ready =>
    simp only [step] at h
    split at h
    next b hbegin =>
      cases h
      exact .rejected hbegin
    next b permit hbegin =>
      cases h
      exact .admitted hbegin
  | attempting permit attempt due answer =>
    simp only [step] at h
    split at h
    · cases h
    · split at h
      next hagain =>
        cases h
        exact .paused _ (lt_maxAttempts_of_again hagain)
      next r hsettled =>
        cases h
        exact .settled _ r
  | pausing permit attempt due =>
    simp only [step] at h
    split at h
    · cases h
    · cases h
      exact .resumed
  | ended r => cases h

theorem step_ready (p : Policy) (call : Call σ ε α) (now : Moment) (g : Guard σ) :
    p.step call now .ready g ≠ none := by
  simp only [step]
  split <;> exact Option.some_ne_none _

/-- An execution that is not ready waits for a moment and goes on then. -/
theorem step_eq_none {p : Policy} {call : Call σ ε α} {now : Moment} {e : Execution ε α}
    {g : Guard σ} (h : p.step call now e g = none) :
    (∃ r, e = .ended r) ∨
      ∃ due, e.due? = some due ∧ now < due ∧ ∀ g', p.step call due e g' ≠ none := by
  cases e with
  | ready => exact absurd h (step_ready p call now g)
  | attempting permit attempt due answer =>
    refine .inr ⟨due, rfl, ?_, fun g' => ?_⟩
    · refine Decidable.byContradiction fun hdue => ?_
      simp only [step, hdue, if_false] at h
      split at h <;> cases h
    · simp only [step, Nat.lt_irrefl, if_false]
      split <;> exact Option.some_ne_none _
  | pausing permit attempt due =>
    refine .inr ⟨due, rfl, ?_, fun g' => ?_⟩
    · refine Decidable.byContradiction fun hdue => ?_
      simp only [step, hdue, if_false] at h
      cases h
    · simp only [step, Nat.lt_irrefl, if_false]
      exact Option.some_ne_none _
  | ended r => exact .inl ⟨r, rfl⟩

/-! ### Polls -/

def stepsLeft (p : Policy) : Execution ε α → Nat
  | .ready => 2 * p.retry.maxAttempts + 2
  | .attempting _ attempt _ _ => 2 * (p.retry.maxAttempts - attempt) + 1
  | .pausing _ attempt _ => 2 * (p.retry.maxAttempts - attempt) + 2
  | .ended _ => 0

omit [Classified ε] in
theorem stepsLeft_le (p : Policy) (e : Execution ε α) : p.stepsLeft e ≤ p.stepLimit := by
  cases e <;> simp only [stepsLeft, stepLimit] <;> omega

theorem stepsLeft_lt {p : Policy} {call : Call σ ε α} {now : Moment} {e e' : Execution ε α}
    {g g' : Guard σ} (h : p.step call now e g = some (e', g')) : p.stepsLeft e' < p.stepsLeft e := by
  cases step_turn h with
  | rejected | settled => exact Nat.succ_pos _
  | admitted | resumed =>
    simp only [attemptFrom, stepsLeft]
    omega
  | paused registry hlimit =>
    simp only [stepsLeft]
    omega

theorem poll_none {p : Policy} {call : Call σ ε α} {now : Moment} {e : Execution ε α} {g : Guard σ}
    (h : p.step call now e g = none) (n : Nat) : p.poll call now n e g = (e, g) := by
  cases n with
  | zero => rfl
  | succ n => simp only [poll, h]

theorem poll_some {p : Policy} {call : Call σ ε α} {now : Moment} {e e' : Execution ε α}
    {g g' : Guard σ} (h : p.step call now e g = some (e', g')) (n : Nat) :
    p.poll call now (n + 1) e g = p.poll call now n e' g' := by
  simp only [poll, h]

theorem step_poll {p : Policy} {n : Nat} {e : Execution ε α} (call : Call σ ε α) (now : Moment)
    (g : Guard σ) (hn : p.stepsLeft e ≤ n) :
    p.step call now (p.poll call now n e g).1 (p.poll call now n e g).2 = none := by
  induction n generalizing e g with
  | zero =>
    cases e with
    | ended r => rfl
    | ready | attempting | pausing => simp only [stepsLeft] at hn; omega
  | succ n ih =>
    cases h : p.step call now e g with
    | none => rw [poll_none h, h]
    | some next =>
      obtain ⟨e', g'⟩ := next
      rw [poll_some h]
      exact ih g' (by have := stepsLeft_lt h; omega)

theorem stepsLeft_poll_le (p : Policy) (call : Call σ ε α) (now : Moment) (n : Nat)
    (e : Execution ε α) (g : Guard σ) : p.stepsLeft (p.poll call now n e g).1 ≤ p.stepsLeft e := by
  induction n generalizing e g with
  | zero => exact Nat.le_refl _
  | succ n ih =>
    cases h : p.step call now e g with
    | none => exact Nat.le_of_eq (congrArg (fun x => p.stepsLeft x.1) (poll_none h (n + 1)))
    | some next =>
      obtain ⟨e', g'⟩ := next
      rw [poll_some h]
      exact Nat.le_trans (ih e' g') (Nat.le_of_lt (stepsLeft_lt h))

theorem stepsLeft_poll_lt {p : Policy} {call : Call σ ε α} {now : Moment} {n : Nat}
    {e : Execution ε α} {g : Guard σ} (hn : 0 < n) (h : p.step call now e g ≠ none) :
    p.stepsLeft (p.poll call now n e g).1 < p.stepsLeft e := by
  obtain ⟨m, rfl⟩ := Nat.exists_eq_succ_of_ne_zero (Nat.ne_of_gt hn)
  obtain ⟨next, h⟩ := Option.ne_none_iff_exists'.mp h
  obtain ⟨e', g'⟩ := next
  rw [poll_some h]
  exact Nat.lt_of_le_of_lt (stepsLeft_poll_le p call now m e' g') (stepsLeft_lt h)

end AggregateGateway.Resilience.Policy
