import AggregateGateway.Gateway.Api
import AggregateGateway.Proofs.Gateway.AggregateRead
import AggregateGateway.Proofs.Gateway.Documents

/-! Asking after the services behind the gateway. While the probes are out, exactly those services
are known whose probes are over, and what is known of a service depends on its own probe alone. The
gateway itself is not involved. -/

namespace AggregateGateway

open Catalog
open Http
open Time (Instant Span)

namespace Catalog

namespace Probe

/-- The probe succeeds before its time is over. -/
def IsInTime (timeout : Span) (p : Probe) : Prop :=
  ∃ t, p.latency = some t ∧ t ≤ timeout.nanos ∧ p.answer = .ok ()

/-- What the probe tells in the end. -/
def liveness (timeout : Span) (p : Probe) : Liveness :=
  if p.latency.any (· ≤ timeout.nanos) then p.verdict else .down

variable {timeout : Span} {p : Probe}

theorem verdict_eq_up_iff : p.verdict = .up ↔ p.answer = .ok () := by
  unfold verdict
  cases p.answer with
  | ok => simp
  | error e => simp

theorem liveness_eq_up_iff : p.liveness timeout = .up ↔ p.IsInTime timeout := by
  cases h : p.latency with
  | none => simp [liveness, IsInTime, h]
  | some t =>
    by_cases ht : t ≤ timeout.nanos
    · simp [liveness, IsInTime, h, ht, verdict_eq_up_iff]
    · simp [liveness, IsInTime, h, ht]

theorem wait_le (timeout : Span) (p : Probe) : p.wait timeout ≤ timeout.nanos := by
  unfold wait
  cases p.latency with
  | none => exact Nat.le_refl _
  | some t => exact Nat.min_le_right _ _

theorem poll_early {elapsed : Nat} (h : elapsed < p.wait timeout) :
    p.poll timeout elapsed = none := by
  have hout : ¬ timeout.nanos ≤ elapsed :=
    Nat.not_le.mpr (Nat.lt_of_lt_of_le h (p.wait_le timeout))
  cases hp : p.latency with
  | none => simp [poll, hp, hout]
  | some t =>
    have ht : ¬ t ≤ elapsed := by
      simp only [wait, hp, Option.elim_some] at h
      omega
    simp [poll, hp, ht, hout]

/-- When the answer comes at the end of the timeout, it is the answer that counts. -/
theorem poll_wait : p.poll timeout (p.wait timeout) = some (p.liveness timeout) := by
  cases hp : p.latency with
  | none => simp [poll, wait, liveness, hp]
  | some t =>
    by_cases ht : t ≤ timeout.nanos
    · simp [poll, wait, liveness, hp, ht]
    · simp [poll, wait, liveness, hp, ht, Nat.min_eq_right (Nat.le_of_not_le ht)]

end Probe

namespace Inquiry

variable {timeout : Span} {probe : Service → Probe} {now later : Nat} {q : Inquiry}

/-- Exactly those services are known whose probes were over before `now`. -/
def KnowsUntil (timeout : Span) (probe : Service → Probe) (now : Nat) (q : Inquiry) : Prop :=
  ∀ s, q s = if (probe s).wait timeout < now then some ((probe s).liveness timeout) else none

theorem KnowsUntil.start : KnowsUntil timeout probe 0 start :=
  fun _ => rfl

theorem KnowsUntil.poll (h : KnowsUntil timeout probe now q) :
    KnowsUntil timeout probe (now + 1) (q.poll timeout probe now) := by
  intro s
  rcases Nat.lt_trichotomy ((probe s).wait timeout) now with hs | hs | hs
  · simp [Inquiry.poll, h s, hs, Nat.lt_succ_of_lt hs]
  · have hpoll : (probe s).poll timeout ((probe s).wait timeout) = _ := (probe s).poll_wait
    rw [hs] at hpoll
    simp [Inquiry.poll, h s, hs, hpoll]
  · have hlate : ¬ (probe s).wait timeout < now + 1 := by omega
    simp [Inquiry.poll, h s, Nat.lt_asymm hs, hlate, Probe.poll_early hs]

/-- No probe is over between two looks. -/
theorem KnowsUntil.next (h : KnowsUntil timeout probe now q)
    (hnext : q.next? timeout probe = some later) : KnowsUntil timeout probe later q := by
  have hsoonest (s : Service) (hs : s ∈ q.waiting) : later ≤ (probe s).wait timeout :=
    (List.min?_eq_some_iff.mp hnext).2 _ (List.mem_map_of_mem hs)
  have hlater : now ≤ later := by
    obtain ⟨s, hs, rfl⟩ := exists_of_next? hnext
    by_contra hlt
    have hknown := h s
    rw [if_pos (Nat.lt_of_not_le hlt), mem_waiting.mp hs] at hknown
    cases hknown
  intro s
  by_cases hs : (probe s).wait timeout < now
  · rw [h s, if_pos hs, if_pos (Nat.lt_of_lt_of_le hs hlater)]
  · have hwaiting : q s = none := by rw [h s, if_neg hs]
    rw [hwaiting, if_neg (Nat.not_lt.mpr (hsoonest s (mem_waiting.mpr hwaiting)))]

/-- All services are known, each from its own probe, and the last probe has just been over. -/
structure Complete (timeout : Span) (probe : Service → Probe) (r : Nat × Inquiry) : Prop where
  known : ∀ s, r.2 s = some ((probe s).liveness timeout)
  wait_le : ∀ s, (probe s).wait timeout ≤ r.1
  last : r.1 = 0 ∨ ∃ s, (probe s).wait timeout = r.1

theorem KnowsUntil.complete (h : KnowsUntil timeout probe later q) (hq : q.isKnown = true)
    (hlater : later ≤ now + 1) (hnow : now = 0 ∨ ∃ s, (probe s).wait timeout = now) :
    Complete timeout probe (now, q) := by
  have hover (s : Service) : (probe s).wait timeout < later := by
    have hs := isSome_of_isKnown hq s
    rw [h s] at hs
    by_contra hlate
    simp [hlate] at hs
  have hwait (s : Service) : (probe s).wait timeout ≤ now :=
    Nat.le_of_lt_succ (Nat.lt_of_lt_of_le (hover s) hlater)
  exact ⟨fun s => (h s).trans (if_pos (hover s)), hwait, hnow⟩

theorem KnowsUntil.run {n : Nat} (h : KnowsUntil timeout probe now q)
    (hnow : now = 0 ∨ ∃ s, (probe s).wait timeout = now)
    (hknown : (Inquiry.run timeout probe n now q).2.isKnown = true) :
    Complete timeout probe (Inquiry.run timeout probe n now q) := by
  induction n generalizing now q with
  | zero => exact h.complete hknown (Nat.le_succ now) hnow
  | succ n ih =>
    simp only [Inquiry.run] at hknown ⊢
    split at hknown
    · exact h.poll.complete hknown (Nat.le_refl _) hnow
    · next later hnext =>
      obtain ⟨s, -, hs⟩ := exists_of_next? hnext
      exact ih (h.poll.next hnext) (.inr ⟨s, hs⟩) hknown

theorem outcome_complete (timeout : Span) (probe : Service → Probe) :
    Complete timeout probe (outcome timeout probe) :=
  KnowsUntil.start.run (.inl rfl) (isKnown_outcome timeout probe)

end Inquiry

namespace Health

def entry (h : Health) : Service → Liveness
  | .item => h.item
  | .ratings => h.ratings
  | .commentary => h.commentary

theorem allUp_iff (h : Health) : h.allUp = true ↔ ∀ s, h.entry s = .up := by
  simp only [allUp, List.all_cons, List.all_nil, Bool.and_true, Bool.and_eq_true, beq_iff_eq]
  constructor
  · rintro ⟨hitem, hratings, hcommentary⟩ s
    cases s with
    | item => exact hitem
    | ratings => exact hratings
    | commentary => exact hcommentary
  · intro hall
    exact ⟨hall .item, hall .ratings, hall .commentary⟩

variable (timeout : Span) (probe : Service → Probe)

theorem entry_ofProbes (s : Service) :
    (ofProbes timeout probe).entry s = (probe s).liveness timeout := by
  have hknown := (Inquiry.outcome_complete timeout probe).known s
  cases s <;> exact Option.get_of_eq_some _ hknown

theorem elapsed_eq : elapsed timeout probe =
    max ((probe .item).wait timeout)
      (max ((probe .ratings).wait timeout) ((probe .commentary).wait timeout)) := by
  have h := Inquiry.outcome_complete timeout probe
  have hitem := h.wait_le .item
  have hratings := h.wait_le .ratings
  have hcommentary := h.wait_le .commentary
  unfold elapsed
  rcases h.last with hzero | ⟨s, hs⟩
  · omega
  · cases s <;> omega

end Health

end Catalog

variable {ι ρ κ β : Type}

theorem respond_dependencies (d : Deployment ι ρ κ β) (m : Api.Moments) (fresh : Uuid)
    (query : Option String) (headers : List (String × Bytes)) (body : Bytes)
    (g : Gateway ι ρ κ β) :
    let r : Request := ⟨"GET", ⟨"/health/dependencies", query⟩, headers, body⟩
    Api.respond d m fresh r g =
      (some ((Response.json .ok Health.codec (g.health d).1).correlated (correlationId fresh r)),
        (g.health d).2) := by
  intro r
  have hroute : route Api.routes "GET" "/health/dependencies" = .found .dependencies [] := rfl
  simp only [Api.respond, r, hroute, Api.serve, Api.dependencies]
  rfl

/-- The health of the services. There is always a document; a service is up in it exactly if its own
probe succeeds in time, whatever becomes of the other probes. The document is there when the last
probe is over, and nothing of the gateway changes but the time: no service is read, and neither the
breaker nor the pool takes part. -/
theorem health_is_folded (d : Deployment ι ρ κ β) (g : Gateway ι ρ κ β) :
    let timeout := d.settings.healthTimeout
    let h := (g.health d).1
    let after := (g.health d).2
    let wait := fun s => (d.probe s).latency.elim timeout.nanos (min · timeout.nanos)
    (∀ s, h.entry s = .up ↔
      ∃ t, (d.probe s).latency = some t ∧ t ≤ timeout.nanos ∧ (d.probe s).answer = .ok ()) ∧
    (h.allUp = true ↔ ∀ s, (d.probe s).IsInTime timeout) ∧
    after = { g with
      now := g.now + max (wait .item) (max (wait .ratings) (wait .commentary)) } ∧
    after.now ≤ g.now + timeout.nanos ∧
    (g.noting.health d.noting).2 = { g.noting with now := after.now } ∧
    (∀ (ι' ρ' κ' β' : Type) (d' : Deployment ι' ρ' κ' β') (g' : Gateway ι' ρ' κ' β') (s : Service),
      d'.settings.healthTimeout = timeout → d'.probe s = d.probe s →
        (g'.health d').1.entry s = h.entry s) ∧
    ∀ (m : Api.Moments) (fresh : Uuid) (query : Option String) (headers : List (String × Bytes))
      (body : Bytes), ∃ a,
        Api.respond d m fresh ⟨"GET", ⟨"/health/dependencies", query⟩, headers, body⟩ g =
          (some a, after) ∧
        a.status.code = 200 ∧ a.header? "content-type" = some "application/json" ∧
        Health.codec.decode a.body = .ok h := by
  intro timeout h after wait
  have hentry (s : Service) : h.entry s = (d.probe s).liveness timeout :=
    Health.entry_ofProbes timeout d.probe s
  have helapsed : Health.elapsed timeout d.probe =
      max (wait .item) (max (wait .ratings) (wait .commentary)) :=
    Health.elapsed_eq timeout d.probe
  have hwait (s : Service) : wait s ≤ timeout.nanos := (d.probe s).wait_le timeout
  refine ⟨?_, ?_, ?_, ?_, rfl, ?_, ?_⟩
  · intro s
    rw [hentry]
    exact Probe.liveness_eq_up_iff
  · simp only [Health.allUp_iff, hentry, Probe.liveness_eq_up_iff]
  · rw [← helapsed]
    rfl
  · have hnow : after.now = g.now + Health.elapsed timeout d.probe := rfl
    rw [hnow, helapsed]
    exact Nat.add_le_add_left
      (Nat.max_le.mpr ⟨hwait .item, Nat.max_le.mpr ⟨hwait .ratings, hwait .commentary⟩⟩) g.now
  · intro ι' ρ' κ' β' d' g' s htimeout hprobe
    rw [hentry, ← hprobe, ← htimeout]
    exact Health.entry_ofProbes d'.settings.healthTimeout d'.probe s
  · intro m fresh query headers body
    refine ⟨_, respond_dependencies d m fresh query headers body g, rfl, ?_,
      (health_readsBack h).decode⟩
    rw [Response.contentType_correlated]
    exact Response.contentType_json .ok Health.codec h

end AggregateGateway
