import AggregateGateway.Proofs.Resilience.RetrySeries

/-! The retry loop by itself. The first answer that is not an error that may pass ends it, if there
are enough attempts to get there; what it has measured tells how many attempts it made and how it
ended. -/

namespace AggregateGateway.Resilience.Retry

open Metrics (Measurement Metric Registry)

variable {ε α : Type} {p : Policy} {isRetryable : ε → Bool} {replies : Nat → Reply ε α}

/-- The reply with number `k` is the first that is a value or an error that does not pass. -/
structure FirstEnding (isRetryable : ε → Bool) (replies : Nat → Reply ε α) (k : Nat) : Prop where
  first_le : 1 ≤ k
  passing : ∀ j, 1 ≤ j → j < k → (replies j).IsPassing isRetryable
  ending : ¬ (replies k).IsPassing isRetryable

theorem exists_firstEnding {j : Nat} (hj : 1 ≤ j) (h : ¬ (replies j).IsPassing isRetryable) :
    ∃ k ≤ j, FirstEnding isRetryable replies k := by
  induction j using Nat.strong_induction_on with
  | h j ih =>
    by_cases hearlier : ∃ i, 1 ≤ i ∧ i < j ∧ ¬ (replies i).IsPassing isRetryable
    · obtain ⟨i, hi, hlt, hending⟩ := hearlier
      obtain ⟨k, hk, hfirst⟩ := ih i hlt hi hending
      exact ⟨k, Nat.le_trans hk (Nat.le_of_lt hlt), hfirst⟩
    · refine ⟨j, Nat.le_refl j, hj, fun i hi hlt => ?_, h⟩
      by_contra hending
      exact hearlier ⟨i, hi, hlt, hending⟩

/-! ### Result -/

theorem Decides.isPassing {attempt : Nat} {reply : Reply ε α} {r : Except (Failure ε) α}
    (h : Decides p isRetryable attempt reply.answer r) :
    (¬ reply.IsPassing isRetryable ∧ r = reply.answer.mapError .aborted) ∨
      reply.IsPassing isRetryable ∧ p.maxAttempts ≤ attempt ∧
        ∃ e, reply.answer = .error e ∧ r = .error (.exhausted attempt e) := by
  rcases h.settled_or_exhausted with ⟨hfinal, hr⟩ | ⟨e, he, hpasses, hlast, hr⟩
  · refine .inl ⟨?_, hr⟩
    rintro ⟨e, he, hpasses⟩
    exact absurd (hpasses.symm.trans (hfinal e he)) Bool.false_ne_true.symm
  · exact .inr ⟨⟨e, he, hpasses⟩, hlast, e, he, hr⟩

variable {r : Run ε α}

theorem Series.of_firstEnding (h : Series p isRetryable replies 1 r) {k : Nat}
    (hk : FirstEnding isRetryable replies k) (hlimit : k ≤ p.limit) :
    r.attempts = k ∧ r.result = (replies k).answer.mapError .aborted := by
  have hle : r.attempts ≤ k := by
    by_contra hlt
    exact hk.ending (h.passing k hk.first_le (Nat.not_le.mp hlt))
  rcases h.decided.isPassing with ⟨hending, hresult⟩ | ⟨hpasses, hlast, -⟩
  · have hge : k ≤ r.attempts := by
      by_contra hlt
      exact hending (hk.passing r.attempts h.first_le (Nat.not_le.mp hlt))
    obtain rfl := Nat.le_antisymm hle hge
    exact ⟨rfl, hresult⟩
  · -- the attempts are used up here, so the ending reply is the last one and does not pass
    have hge : k ≤ r.attempts := Nat.le_trans hlimit (Nat.max_le.mpr ⟨h.first_le, hlast⟩)
    obtain rfl := Nat.le_antisymm hle hge
    exact absurd hpasses hk.ending

theorem Series.of_passing (h : Series p isRetryable replies 1 r)
    (hall : ∀ j, 1 ≤ j → j ≤ p.limit → (replies j).IsPassing isRetryable) :
    r.attempts = p.limit ∧ ∃ e, (replies p.limit).answer = .error e ∧
      r.result = .error (.exhausted p.limit e) := by
  have hle : r.attempts ≤ p.limit := h.le_limit
  rcases h.decided.isPassing with ⟨hending, -⟩ | ⟨-, hlast, hresult⟩
  · exact absurd (hall r.attempts h.first_le hle) hending
  · have heq : r.attempts = p.limit :=
      Nat.le_antisymm hle (Nat.max_le.mpr ⟨h.first_le, hlast⟩)
    exact ⟨heq, heq ▸ hresult⟩

/-! ### What is measured and what is looked at -/

theorem runFrom_measurements {attempt left : Nat} (hleft : p.maxAttempts ≤ attempt + left) :
    let run := runFrom p isRetryable replies attempt left
    run.measurements = List.replicate (run.attempts - attempt) (.count .retryAttempts "") ++
      (Verdict.settled run.result).measurements run.attempts := by
  induction left generalizing attempt with
  | zero =>
    cases h : p.after isRetryable attempt (replies attempt).answer with
    | settled r => simp [runFrom_settled h]
    | again =>
      have hlt := Resilience.Policy.lt_maxAttempts_of_again h
      omega
  | succ left ih =>
    cases h : p.after isRetryable attempt (replies attempt).answer with
    | settled r => simp [runFrom_settled h]
    | again =>
      have hrest := @ih (attempt + 1) (by omega)
      have hfirst := (runFrom_attempts p isRetryable replies (attempt + 1) left).1
      obtain ⟨more, hmore⟩ := Nat.exists_eq_add_of_le hfirst
      have hcount : attempt + 1 + more - attempt = more + 1 := by omega
      rw [runFrom_again h]
      dsimp only at hrest ⊢
      rw [hrest, hmore, Nat.add_sub_cancel_left, hcount, List.replicate_succ, List.cons_append]
      rfl

/-- No reply behind the last attempt makes a difference. -/
theorem runFrom_congr {replies' : Nat → Reply ε α} {attempt left : Nat}
    (h : ∀ j, attempt ≤ j → j ≤ (runFrom p isRetryable replies attempt left).attempts →
      replies' j = replies j) :
    runFrom p isRetryable replies' attempt left = runFrom p isRetryable replies attempt left := by
  induction left generalizing attempt with
  | zero =>
    have hnow : replies' attempt = replies attempt := h attempt (Nat.le_refl _) (Nat.le_refl _)
    simp only [runFrom, hnow]
  | succ left ih =>
    have hnow : replies' attempt = replies attempt :=
      h attempt (Nat.le_refl _) (runFrom_attempts p isRetryable replies attempt (left + 1)).1
    cases hafter : p.after isRetryable attempt (replies attempt).answer with
    | settled r => rw [runFrom_settled hafter, runFrom_settled (by rw [hnow, hafter]), hnow]
    | again =>
      have hlater := @ih (attempt + 1) fun j hj hlast => by
        rw [runFrom_again hafter] at h
        exact h j (by omega) hlast
      rw [runFrom_again hafter, runFrom_again (by rw [hnow, hafter]), hnow, hlater]

def Failure.isExhausted : Failure ε → Bool
  | .exhausted .. => true
  | .aborted _ => false

def Run.isExhausted (run : Run ε α) : Bool :=
  match run.result with
  | .ok _ => false
  | .error f => f.isExhausted

theorem count_settled (r : Run ε α) (metric : Metric) :
    ((Verdict.settled r.result).measurements r.attempts).count (.count metric "") =
      (if metric = .retrySuccesses ∧ r.result.isOk = true ∧ 1 < r.attempts then 1 else 0) +
        if metric = .retryExhausted ∧ r.isExhausted = true then 1 else 0 := by
  obtain ⟨result, attempts, elapsed, measurements⟩ := r
  rcases result with (_ | _) | _
  · simp [Verdict.measurements, Registry.count_singleton, Run.isExhausted, Failure.isExhausted,
      Except.isOk, Except.toBool]
  · simp [Verdict.measurements, Run.isExhausted, Failure.isExhausted, Except.isOk, Except.toBool]
  · by_cases hmany : 1 < attempts
    · simp [Verdict.measurements, Registry.count_singleton, Run.isExhausted, Except.isOk,
        Except.toBool, hmany]
    · simp [Verdict.measurements, Run.isExhausted, hmany]

theorem count_run (p : Policy) (isRetryable : ε → Bool) (replies : Nat → Reply ε α)
    (registry : Registry) (metric : Metric) :
    let r := run p isRetryable replies
    (registry.recordAll r.measurements).count metric "" = registry.count metric "" +
      ((if metric = .retryAttempts then r.attempts - 1 else 0) +
        ((if metric = .retrySuccesses ∧ r.result.isOk = true ∧ 1 < r.attempts then 1 else 0) +
          if metric = .retryExhausted ∧ r.isExhausted = true then 1 else 0)) := by
  intro r
  have hmeasured : r.measurements = List.replicate (r.attempts - 1) (.count .retryAttempts "") ++
      (Verdict.settled r.result).measurements r.attempts := runFrom_measurements (by omega)
  rw [Registry.count_recordAll, hmeasured, List.count_append, count_settled, List.count_replicate]
  congr 2
  by_cases h : metric = .retryAttempts
  · simp [h]
  · simp [h, Ne.symm h]

/-- The loop in closed form, for any policy and any answers: the first answer that is a value or an
error that does not pass ends it if the attempts reach that far, and else they are used up. No later
reply is looked at. The time and what is counted follow from the number of attempts and the
result. -/
theorem retry_closed_form (p : Policy) (isRetryable : ε → Bool) (replies : Nat → Reply ε α) :
    let limit := max p.maxAttempts 1
    let r := run p isRetryable replies
    (∀ k, FirstEnding isRetryable replies k → k ≤ limit →
      r.attempts = k ∧ r.result = (replies k).answer.mapError .aborted) ∧
    ((∀ k, FirstEnding isRetryable replies k → limit < k) →
      r.attempts = limit ∧ ∃ e, (replies limit).answer = .error e ∧
        r.result = .error (.exhausted limit e)) ∧
    (∀ replies', (∀ j, 1 ≤ j → j ≤ r.attempts → replies' j = replies j) →
      run p isRetryable replies' = r) ∧
    r.elapsed = ∑ j ∈ Finset.Icc 1 r.attempts, (replies j).latency +
      (r.attempts - 1) * p.wait.nanos ∧
    ∀ registry : Registry,
      let later := registry.recordAll r.measurements
      later.count .retryAttempts "" = registry.count .retryAttempts "" + (r.attempts - 1) ∧
      later.count .retrySuccesses "" = registry.count .retrySuccesses "" +
        (if r.result.isOk = true ∧ 1 < r.attempts then 1 else 0) ∧
      later.count .retryExhausted "" = registry.count .retryExhausted "" +
        if r.isExhausted = true then 1 else 0 := by
  intro limit r
  have hlimit : p.limit = limit := Nat.max_comm 1 p.maxAttempts
  have hseries : Series p isRetryable replies 1 r := run_series p isRetryable replies
  refine ⟨fun k hk hle => hseries.of_firstEnding hk (hlimit ▸ hle), fun hnone => ?_,
    fun replies' h => runFrom_congr h, ?_, fun registry => ⟨?_, ?_, ?_⟩⟩
  · rw [← hlimit] at hnone ⊢
    refine hseries.of_passing fun j hj hle => ?_
    by_contra hending
    obtain ⟨k, hk, hfirst⟩ := exists_firstEnding hj hending
    have hlater := hnone k hfirst
    omega
  · exact hseries.elapsed
  · rw [count_run]
    simp [r]
  · rw [count_run]
    simp [r]
  · rw [count_run]
    simp [r]

/-- An error that does not pass is given back also on the last attempt, and a policy of no attempts
makes one. -/
theorem retry_closed_form_on_last_attempt :
    let isRetryable : String → Bool := (· == "transient")
    let fatal : Nat → Reply String Nat := fun j =>
      ⟨j, .error (if j = 1 then "transient" else "fatal")⟩
    let transient : Nat → Reply String Nat := fun j => ⟨j, .error "transient"⟩
    let aborted := run ⟨2, Time.Span.millis 10⟩ isRetryable fatal
    let exhausted := run ⟨0, Time.Span.millis 10⟩ isRetryable transient
    (FirstEnding isRetryable fatal 2 ∧ aborted.attempts = 2 ∧
      aborted.result = .error (.aborted "fatal") ∧ aborted.elapsed = 10000003) ∧
    (∀ k, FirstEnding isRetryable transient k → 1 < k) ∧ exhausted.attempts = 1 ∧
      ∃ e, exhausted.result = .error (.exhausted 1 e) := by
  intro isRetryable fatal transient aborted exhausted
  have hfirst : FirstEnding isRetryable fatal 2 := by
    refine ⟨by decide, fun j hj hlt => ?_, ?_⟩
    · obtain rfl : j = 1 := by omega
      exact ⟨"transient", rfl, rfl⟩
    · rintro ⟨e, he, hpasses⟩
      cases he
      cases hpasses
  have hnone : ∀ k, FirstEnding isRetryable transient k → 1 < k := by
    intro k hk
    exact absurd ⟨"transient", rfl, rfl⟩ hk.ending
  obtain ⟨hends, -⟩ := retry_closed_form ⟨2, Time.Span.millis 10⟩ isRetryable fatal
  obtain ⟨-, hexhausts, -⟩ := retry_closed_form ⟨0, Time.Span.millis 10⟩ isRetryable transient
  obtain ⟨hattempts, hresult⟩ := hends 2 hfirst (by decide)
  obtain ⟨hone, e, -, hgiven⟩ := hexhausts hnone
  exact ⟨⟨hfirst, hattempts, hresult, by decide +kernel⟩, hnone, hone, e, hgiven⟩

end AggregateGateway.Resilience.Retry
