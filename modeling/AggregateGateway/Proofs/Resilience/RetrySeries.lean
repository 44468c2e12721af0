import AggregateGateway.Catalog.Failure
import AggregateGateway.Proofs.Resilience.LoneExecution
import Mathlib.Algebra.BigOperators.Intervals
import Mathlib.Algebra.Group.Action.Defs
import Mathlib.Algebra.Order.BigOperators.Group.Finset

/-! A series of attempts in closed form. It goes on as long as errors may pass and attempts are
left, and the attempt with which it ends decides what it comes to. Under a policy the attempts are
cut off at their deadlines, and the series is all that an admitted execution does. -/

namespace AggregateGateway

theorem Catalog.Failure.exists_of_isTransient {e : Catalog.Failure} (h : e.isTransient = true) :
    ∃ m, e = .timeout m ∨ e = .transport m := by
  cases e with
  | timeout m => exact ⟨m, .inl rfl⟩
  | transport m => exact ⟨m, .inr rfl⟩
  | badRequest | invalidInput | notFound | circuitOpen | unexpectedStatus | eventSubmission =>
    cases h

namespace Resilience

variable {ε α : Type}

theorem Refusal.allowsFallback_iff {refusal : Refusal ε} :
    refusal.allowsFallback = true ↔
      (∃ breaker, refusal = .circuitOpen breaker) ∨
        ∃ attempts last, refusal = .exhausted attempts last := by
  cases refusal with
  | circuitOpen breaker => exact ⟨fun _ => .inl ⟨breaker, rfl⟩, fun _ => rfl⟩
  | exhausted attempts last => exact ⟨fun _ => .inr ⟨attempts, last, rfl⟩, fun _ => rfl⟩
  | failed e =>
    constructor
    · intro h
      cases h
    · rintro (⟨breaker, h⟩ | ⟨attempts, last, h⟩) <;> cases h

namespace Retry

/-- The number of attempts that are made at most. -/
def Policy.limit (p : Policy) : Nat :=
  max 1 p.maxAttempts

/-- The reply is an error that another attempt may not meet. -/
def Reply.IsPassing (isRetryable : ε → Bool) (r : Reply ε α) : Prop :=
  ∃ e, r.answer = .error e ∧ isRetryable e = true

/-- The answers with which a series can end, with what it then comes to. -/
inductive Decides (p : Policy) (isRetryable : ε → Bool) (attempt : Nat) :
    Except ε α → Except (Failure ε) α → Prop
  | value (a : α) : Decides p isRetryable attempt (.ok a) (.ok a)
  | aborted {e : ε} (he : isRetryable e = false) :
    Decides p isRetryable attempt (.error e) (.error (.aborted e))
  | exhausted {e : ε} (he : isRetryable e = true) (hlast : p.maxAttempts ≤ attempt) :
    Decides p isRetryable attempt (.error e) (.error (.exhausted attempt e))

variable {p : Policy} {isRetryable : ε → Bool} {attempt : Nat} {answer : Except ε α}
  {r : Except (Failure ε) α}

theorem Decides.of_settled (h : p.after isRetryable attempt answer = .settled r) :
    Decides p isRetryable attempt answer r := by
  cases answer with
  | ok a =>
    cases h
    exact .value a
  | error e =>
    cases he : isRetryable e with
    | false =>
      simp only [Policy.after, he, Bool.not_false, if_true] at h
      cases h
      exact .aborted he
    | true =>
      simp only [Policy.after, he, Bool.not_true, Bool.false_eq_true, if_false] at h
      split at h
      · cases h
        exact .exhausted he ‹_›
      · cases h

theorem Decides.of_aborted {e : ε}
    (h : Decides p isRetryable attempt answer (.error (.aborted e))) :
    answer = .error e ∧ isRetryable e = false := by
  cases h with
  | aborted he => exact ⟨rfl, he⟩

theorem Decides.of_exhausted {n : Nat} {e : ε}
    (h : Decides p isRetryable attempt answer (.error (.exhausted n e))) :
    n = attempt ∧ answer = .error e ∧ isRetryable e = true ∧ p.maxAttempts ≤ attempt := by
  cases h with
  | exhausted he hlast => exact ⟨rfl, rfl, he, hlast⟩

theorem Decides.settled_or_exhausted (h : Decides p isRetryable attempt answer r) :
    ((∀ e, answer = .error e → isRetryable e = false) ∧ r = answer.mapError .aborted) ∨
      ∃ e, answer = .error e ∧ isRetryable e = true ∧ p.maxAttempts ≤ attempt ∧
        r = .error (.exhausted attempt e) := by
  cases h with
  | value a =>
    refine .inl ⟨?_, rfl⟩
    intro e h
    cases h
  | aborted he =>
    refine .inl ⟨?_, rfl⟩
    intro e h
    cases h
    exact he
  | exhausted he hlast => exact .inr ⟨_, rfl, he, hlast, rfl⟩

theorem isPassing_of_again {reply : Reply ε α}
    (h : p.after isRetryable attempt reply.answer = .again) : reply.IsPassing isRetryable := by
  cases hanswer : reply.answer with
  | ok a =>
    rw [hanswer] at h
    cases h
  | error e =>
    rw [hanswer] at h
    cases he : isRetryable e with
    | true => exact ⟨e, hanswer, he⟩
    | false =>
      simp only [Policy.after, he, Bool.not_false, if_true] at h
      cases h

/-- What the attempts from number `first` on come to, when they end with `r`. -/
structure Series (p : Policy) (isRetryable : ε → Bool) (replies : Nat → Reply ε α) (first : Nat)
    (r : Run ε α) : Prop where
  first_le : first ≤ r.attempts
  le_limit : r.attempts ≤ max first p.maxAttempts
  passing : ∀ j, first ≤ j → j < r.attempts → (replies j).IsPassing isRetryable
  decided : Decides p isRetryable r.attempts (replies r.attempts).answer r.result
  elapsed : r.elapsed = ∑ j ∈ Finset.Ico first (r.attempts + 1), (replies j).latency +
    (r.attempts - first) * p.wait.nanos

theorem Series.of_settled {replies : Nat → Reply ε α} (left : Nat)
    (h : p.after isRetryable attempt (replies attempt).answer = .settled r) :
    Series p isRetryable replies attempt (runFrom p isRetryable replies attempt left) := by
  rw [runFrom_settled h]
  refine ⟨Nat.le_refl _, Nat.le_max_left _ _, ?_, .of_settled h, ?_⟩
  · intro j hfirst hlast
    exact absurd hlast (Nat.not_lt.mpr hfirst)
  · simp

theorem Series.of_again {replies : Nat → Reply ε α} {left : Nat}
    (h : p.after isRetryable attempt (replies attempt).answer = .again)
    (hrest : Series p isRetryable replies (attempt + 1)
      (runFrom p isRetryable replies (attempt + 1) left)) :
    Series p isRetryable replies attempt (runFrom p isRetryable replies attempt (left + 1)) := by
  have hlt := Resilience.Policy.lt_maxAttempts_of_again h
  have hfirst := hrest.first_le
  have hlimit := hrest.le_limit
  have helapsed := hrest.elapsed
  rw [runFrom_again h]
  refine ⟨by dsimp only; omega, by dsimp only; omega, ?_, hrest.decided, ?_⟩
  · intro j hj hlast
    rcases Nat.eq_or_lt_of_le hj with rfl | hj
    · exact isPassing_of_again h
    · exact hrest.passing j hj hlast
  · dsimp only
    have hpauses : (runFrom p isRetryable replies (attempt + 1) left).attempts - attempt =
        (runFrom p isRetryable replies (attempt + 1) left).attempts - (attempt + 1) + 1 := by
      omega
    rw [Finset.sum_eq_sum_Ico_succ_bot (by omega), hpauses, Nat.succ_mul, helapsed]
    omega

theorem runFrom_series (p : Policy) (isRetryable : ε → Bool) (replies : Nat → Reply ε α)
    {attempt left : Nat} (hleft : p.maxAttempts ≤ attempt + left) :
    Series p isRetryable replies attempt (runFrom p isRetryable replies attempt left) := by
  induction left generalizing attempt with
  | zero =>
    cases h : p.after isRetryable attempt (replies attempt).answer with
    | settled r => exact .of_settled 0 h
    | again =>
      -- the last attempt is never followed by another one
      have hlt := Resilience.Policy.lt_maxAttempts_of_again h
      omega
  | succ left ih =>
    cases h : p.after isRetryable attempt (replies attempt).answer with
    | settled r => exact .of_settled (left + 1) h
    | again => exact .of_again h (ih (by omega))

theorem run_series (p : Policy) (isRetryable : ε → Bool) (replies : Nat → Reply ε α) :
    Series p isRetryable replies 1 (run p isRetryable replies) :=
  runFrom_series p isRetryable replies (by omega)

end Retry

/-- The reply to attempt number `attempt`, however long it takes. -/
def Call.reply {σ : Type} (call : Call σ ε α) (s : σ) (attempt : Nat) : Retry.Reply ε α :=
  (call (call.repeated s (attempt - 1))).1

namespace Policy

open Time (Moment)

variable {σ : Type}

section Cut

variable [Classified ε] (p : Policy)

theorem cut_latency (r : Retry.Reply ε α) :
    (p.cut r).latency = min r.latency p.timeout.nanos := by
  by_cases h : r.latency ≤ p.timeout.nanos
  · simp only [cut, h, if_true, Nat.min_eq_left]
  · simp only [cut, h, if_false, Nat.min_eq_right (Nat.le_of_not_le h)]

theorem answer_of_cut {r : Retry.Reply ε α}
    (h : (p.cut r).answer ≠ .error (Classified.timedOut p.timeout)) :
    r.answer = (p.cut r).answer := by
  by_cases hlate : r.latency ≤ p.timeout.nanos
  · simp only [cut, hlate, if_true]
  · simp only [cut, hlate, if_false] at h
    exact absurd rfl h

theorem replies_eq (call : Call σ ε α) (s : σ) (attempt : Nat) :
    p.replies call s attempt = p.cut (call.reply s attempt) :=
  rfl

theorem elapsed_eq {call : Call σ ε α} {s : σ} {run : Retry.Run ε α}
    (h : Retry.Series p.retry Classified.isTransient (p.replies call s) 1 run) :
    run.elapsed =
      ∑ j ∈ Finset.Ico 1 (run.attempts + 1), min (call.reply s j).latency p.timeout.nanos +
        (run.attempts - 1) * p.retry.wait.nanos := by
  rw [h.elapsed]
  refine congrArg (· + _) (Finset.sum_congr rfl fun j _ => ?_)
  rw [replies_eq, cut_latency]

theorem elapsed_le {call : Call σ ε α} {s : σ} {run : Retry.Run ε α}
    (h : Retry.Series p.retry Classified.isTransient (p.replies call s) 1 run) :
    run.elapsed ≤ p.retry.limit * p.timeout.nanos + (p.retry.limit - 1) * p.retry.wait.nanos := by
  have hsum : ∑ j ∈ Finset.Ico 1 (run.attempts + 1),
      min (call.reply s j).latency p.timeout.nanos ≤ run.attempts * p.timeout.nanos := by
    refine Nat.le_trans (Finset.sum_le_card_nsmul _ _ p.timeout.nanos ?_) ?_
    · intro j _
      exact Nat.min_le_right _ _
    · rw [Nat.card_Ico, Nat.add_sub_cancel, smul_eq_mul]
  have hlimit : run.attempts ≤ p.retry.limit := h.le_limit
  calc run.elapsed
      = _ := elapsed_eq p h
    _ ≤ run.attempts * p.timeout.nanos + (run.attempts - 1) * p.retry.wait.nanos :=
        Nat.add_le_add_right hsum _
    _ ≤ p.retry.limit * p.timeout.nanos + (p.retry.limit - 1) * p.retry.wait.nanos :=
        Nat.add_le_add (Nat.mul_le_mul_right _ hlimit)
          (Nat.mul_le_mul_right _ (Nat.sub_le_sub_right hlimit 1))

end Cut

open Catalog (Failure)

/-- An execution that the breaker lets through is the series of its attempts, each of them cut off
when its time is up. -/
theorem admitted_execution_is_cut_series (p : Policy) (call : Call σ Failure α) (now : Moment)
    (g : Guard σ) {b : Breaker} {permit : Breaker.Permit}
    (h : g.breaker.begin p.breaker now = (b, some permit)) :
    let limit := max 1 p.retry.maxAttempts
    let reply (j : Nat) := (call (call.repeated g.service (j - 1))).1
    let script (j : Nat) : Retry.Reply Failure α :=
      if (reply j).latency ≤ p.timeout.nanos then reply j
      else ⟨p.timeout.nanos, .error (.timedOut p.timeout)⟩
    let run := Retry.run p.retry Failure.isTransient script
    (∃ result last,
      Schedule.together p now [call] g =
        (now + run.elapsed, [⟨call, .ended result, some (now + run.elapsed)⟩], last) ∧
      last.service = call.repeated g.service run.attempts ∧
      (∀ a, run.result = .ok a → result = .ok a) ∧
      (∀ e, run.result = .error (.aborted e) →
        result = .error (.failed e) ∧ e.isTransient = false) ∧
      ∀ n e, run.result = .error (.exhausted n e) →
        result = .error (.exhausted n e) ∧ n = run.attempts ∧ n = limit ∧
          ∃ m, e = .timeout m ∨ e = .transport m) ∧
    Retry.Series p.retry Failure.isTransient script 1 run ∧
    run.elapsed =
      ∑ j ∈ Finset.Ico 1 (run.attempts + 1), min (reply j).latency p.timeout.nanos +
        (run.attempts - 1) * p.retry.wait.nanos ∧
    run.elapsed ≤ limit * p.timeout.nanos + (limit - 1) * p.retry.wait.nanos ∧
    (∀ refusal : Refusal Failure, refusal.allowsFallback = true ↔
      (∃ breaker, refusal = .circuitOpen breaker) ∨ ∃ n e, refusal = .exhausted n e) ∧
    (∀ n e, Failure.ofRefusal (.exhausted n e) = e) ∧
    ∀ e, Failure.ofRefusal (.failed e) = e := by
  intro limit reply script run
  have hseries : Retry.Series p.retry Failure.isTransient script 1 run :=
    Retry.run_series p.retry Failure.isTransient script
  have htogether := together_lone p call now g
  rw [lone_admitted call h] at htogether
  have hdecided := hseries.decided
  have hlimit : run.attempts ≤ limit := hseries.le_limit
  have hfirst : 1 ≤ run.attempts := hseries.first_le
  refine ⟨⟨_, _, htogether, rfl, ?_, ?_, ?_⟩, hseries, p.elapsed_eq hseries, p.elapsed_le hseries,
    fun _ => Refusal.allowsFallback_iff, fun _ _ => rfl, fun _ => rfl⟩
  · intro a ha
    exact congrArg (Except.mapError Refusal.ofFailure) ha
  · intro e he
    refine ⟨congrArg (Except.mapError Refusal.ofFailure) he, ?_⟩
    rw [he] at hdecided
    exact hdecided.of_aborted.2
  · intro n e hn
    refine ⟨congrArg (Except.mapError Refusal.ofFailure) hn, ?_⟩
    rw [hn] at hdecided
    obtain ⟨hcount, -, he, hlast⟩ := hdecided.of_exhausted
    have hall : limit ≤ run.attempts := Nat.max_le.mpr ⟨hfirst, hlast⟩
    have hn : run.attempts = limit := Nat.le_antisymm hlimit hall
    exact ⟨hcount, hcount.trans hn, Failure.exists_of_isTransient he⟩

/-- The second attempt is just in time. Nothing could take longer. -/
theorem admitted_execution_at_deadline :
    let p : Policy := ⟨"item", .default, .build 2 (.millis 10), .millis 5⟩
    let call : Call Nat Failure Nat := fun n =>
      (⟨if n = 0 then 5000001 else 5000000, .ok n⟩, n + 1)
    let g : Guard Nat := .fresh "item" 0
    (∃ b permit, g.breaker.begin p.breaker 0 = (b, some permit)) ∧
      ∃ last, Schedule.together p 0 [call] g =
          (20000000, [⟨call, .ended (.ok 1), some 20000000⟩], last) ∧
        last.service = 2 := by
  intro p call g
  have hbegin : g.breaker.begin p.breaker 0 =
      ((g.breaker.begin p.breaker 0).1, some ⟨0, false⟩) := rfl
  let run := Retry.run p.retry Failure.isTransient (p.replies call 0)
  have hattempts : run.attempts = 2 := by decide +kernel
  have hresult : run.result = .ok 1 := by decide +kernel
  have helapsed : 0 + run.elapsed = 20000000 := by decide +kernel
  obtain ⟨⟨result, last, htogether, hservice, hvalue, -⟩, -⟩ :=
    admitted_execution_is_cut_series p call 0 g hbegin
  have hend : Schedule.together p 0 [call] g =
      (0 + run.elapsed, [⟨call, .ended result, some (0 + run.elapsed)⟩], last) := htogether
  have hlast : last.service = call.repeated 0 run.attempts := hservice
  rw [helapsed, hvalue 1 hresult] at hend
  rw [hattempts] at hlast
  exact ⟨⟨_, _, hbegin⟩, last, hend, hlast⟩

end Policy

end Resilience

end AggregateGateway
