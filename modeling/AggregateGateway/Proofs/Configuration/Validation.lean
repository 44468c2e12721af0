import AggregateGateway.Gateway.Deployment
import Mathlib.Order.Basic

/-! Which configurations are admitted, and which of their settings the parts then run with. The
parts mend settings that make no sense, so a setting is in force as it stands exactly if there is
nothing to mend about it. -/

namespace AggregateGateway.Config

open Publish (Pool)

theorem validate_eq_ok_iff (c : Config) :
    c.validate = .ok () ↔ (∀ p ∈ c.counts, p.2 ≠ 0) ∧ c.resilience.breakerFailureRate ≤ 100 := by
  constructor
  · intro h
    simp only [validate] at h
    split at h
    · cases h
    · next hnone =>
      split at h
      · cases h
      · next hrate =>
        refine ⟨fun p hp hzero => ?_, UInt8.not_lt.mp hrate⟩
        exact List.find?_eq_none.mp hnone p hp (by simp [hzero])
  · rintro ⟨hcounts, hrate⟩
    simp only [validate]
    split
    · next name n hsome =>
      have hzero := List.find?_some hsome
      exact absurd (by simpa using hzero) (hcounts (name, n) (List.mem_of_find?_eq_some hsome))
    · rw [if_neg (UInt8.not_lt.mpr hrate)]

/-- What the minimum of a window comes to is the number of calls that was set, brought between one
call and a full window. -/
theorem breaker_minimum (c : Config) :
    c.breaker.minimum = min (max c.resilience.breakerMinimumCalls.toNat 1) c.breaker.window := rfl

theorem length_workers (c : Config) :
    (Pool.ofSizing c.pool).workers.length = max c.publisher.workers.toNat 1 :=
  List.length_replicate

theorem max_one_eq_iff {n : UInt64} : max n.toNat 1 = n.toNat ↔ n ≠ 0 := by
  have hzero : n ≠ 0 ↔ n.toNat ≠ 0 := not_congr UInt64.toNat_inj.symm
  rw [hzero]
  omega

theorem min_hundred_eq_iff {n : UInt8} : min n.toNat 100 = n.toNat ↔ n ≤ 100 := by
  have hle : n ≤ 100 ↔ n.toNat ≤ 100 := UInt8.le_iff_toNat_le
  rw [hle]
  omega

/-- A configuration is admitted exactly if the queues have a capacity and every setting that the
parts could mend is in force as it stands, but for the minimum of the window. That is brought
between one call and a full window also for a configuration that is admitted. All this is about the
settings that the parts are built with, not about the memory that a window or a queue takes. -/
theorem settings_in_force (c : Config) :
    let r := c.resilience
    let breaker := c.settings.policy.breaker
    let retry := c.settings.policy.retry
    let pool := Pool.ofSizing c.settings.pool
    (c.validate = .ok () ↔
      c.publisher.queueCapacity ≠ 0 ∧ pool.workers.length = c.publisher.workers.toNat ∧
        retry.maxAttempts = r.retryMaxAttempts.toNat ∧
        breaker.window = r.breakerWindowSize.toNat ∧
        breaker.permits = r.breakerHalfOpenCalls.toNat ∧
        breaker.threshold = r.breakerFailureRate.toNat) ∧
    (retry.wait = r.retryWait ∧ breaker.openWait = r.breakerOpenWait) ∧
    (c.validate = .ok () →
      breaker.minimum = min (max r.breakerMinimumCalls.toNat 1) r.breakerWindowSize.toNat ∧
        (breaker.minimum = r.breakerMinimumCalls.toNat ↔
          r.breakerMinimumCalls ≠ 0 ∧ r.breakerMinimumCalls ≤ r.breakerWindowSize)) := by
  intro r breaker retry pool
  have hcounts : (∀ p ∈ c.counts, p.2 ≠ 0) ↔ c.publisher.workers ≠ 0 ∧
      c.publisher.queueCapacity ≠ 0 ∧ r.retryMaxAttempts ≠ 0 ∧ r.breakerWindowSize ≠ 0 ∧
        r.breakerHalfOpenCalls ≠ 0 := by
    simp [counts, r]
  have hworkers : pool.workers.length = c.publisher.workers.toNat ↔ c.publisher.workers ≠ 0 := by
    rw [show pool.workers.length = _ from c.length_workers, max_one_eq_iff]
  have hattempts : retry.maxAttempts = r.retryMaxAttempts.toNat ↔ r.retryMaxAttempts ≠ 0 :=
    max_one_eq_iff
  have hwindow : breaker.window = r.breakerWindowSize.toNat ↔ r.breakerWindowSize ≠ 0 :=
    max_one_eq_iff
  have hpermits : breaker.permits = r.breakerHalfOpenCalls.toNat ↔ r.breakerHalfOpenCalls ≠ 0 :=
    max_one_eq_iff
  have hthreshold : breaker.threshold = r.breakerFailureRate.toNat ↔ r.breakerFailureRate ≤ 100 :=
    min_hundred_eq_iff
  refine ⟨?_, ⟨rfl, rfl⟩, ?_⟩
  · rw [validate_eq_ok_iff, hcounts, hworkers, hattempts, hwindow, hpermits, hthreshold]
    constructor
    · rintro ⟨⟨hw, hq, ha, hs, hp⟩, ht⟩
      exact ⟨hq, hw, ha, hs, hp, ht⟩
    · rintro ⟨hq, hw, ha, hs, hp, ht⟩
      exact ⟨⟨hw, hq, ha, hs, hp⟩, ht⟩
  · intro hvalid
    obtain ⟨-, -, -, hsize, -⟩ := hcounts.mp (c.validate_eq_ok_iff.mp hvalid).1
    have hminimum : breaker.minimum =
        min (max r.breakerMinimumCalls.toNat 1) r.breakerWindowSize.toNat := by
      rw [← hwindow.mpr hsize]
      exact c.breaker_minimum
    refine ⟨hminimum, ?_⟩
    rw [hminimum, ← max_one_eq_iff, UInt64.le_iff_toNat_le]
    have hpos := max_one_eq_iff.mpr hsize
    omega

/-- A configuration in which only the minimum of the window is set. -/
def ofMinimum (calls : String) : Config :=
  .ofVariables fun name => if name = "BREAKER_MINIMUM_CALLS" then some calls else none

/-- A minimum of no calls, and one that a window of five calls cannot reach, are admitted and
replaced. -/
theorem minimum_replaced_unnoticed :
    let zero := ofMinimum "0"
    let tooMany := ofMinimum "10"
    (zero.validate = .ok () ∧ zero.resilience.breakerMinimumCalls = 0 ∧
      zero.settings.policy.breaker.minimum = 1) ∧
    tooMany.validate = .ok () ∧ tooMany.resilience.breakerMinimumCalls = 10 ∧
      tooMany.settings.policy.breaker.window = 5 ∧ tooMany.settings.policy.breaker.minimum = 5 := by
  decide +kernel

end AggregateGateway.Config
