import AggregateGateway.Proofs.Resilience.BreakerTraffic

/-! The permits of a half-open period are conserved: each of those admitted has succeeded or still
runs. Therefore no period has more trials in flight than are permitted, and one without trials in
flight admits the next call. -/

namespace AggregateGateway.Resilience.Breaker

open Time (Moment Span)

def inFlight (generation : Nat) (running : List Permit) : Nat :=
  running.countP fun p => p.generation == generation

/-- The running calls that were admitted in a generation as trials. -/
def trials (generation : Nat) (running : List Permit) : Nat :=
  running.countP fun p => p.isTrial && p.generation == generation

structure Balanced (s : Settings) (b : Breaker) (running : List Permit) : Prop where
  generation_le : ∀ p ∈ running, p.generation ≤ b.generation
  isTrial : ∀ admitted succeeded, b.phase = .halfOpen admitted succeeded →
    ∀ p ∈ running, p.generation = b.generation → p.isTrial = true
  counters : ∀ admitted succeeded, b.phase = .halfOpen admitted succeeded →
    admitted = succeeded + trials b.generation running ∧ succeeded < s.permits ∧
      admitted ≤ s.permits
  trials_le : ∀ generation, trials generation running ≤ s.permits

theorem trials_append_one (generation : Nat) (running : List Permit) (p : Permit) :
    trials generation (running ++ [p]) =
      trials generation running + if p.isTrial && p.generation == generation then 1 else 0 := by
  simp only [trials, List.countP_append, List.countP_singleton]

theorem trials_erase {running : List Permit} {p : Permit} (generation : Nat)
    (hm : p ∈ running) :
    trials generation running = trials generation (running.erase p) +
      if p.isTrial && p.generation == generation then 1 else 0 := by
  simp only [trials, (List.perm_cons_erase hm).countP_eq, List.countP_cons]

theorem trials_eq_zero {running : List Permit} {generation : Nat}
    (h : ∀ p ∈ running, p.generation < generation) : trials generation running = 0 := by
  apply List.countP_eq_zero.mpr
  intro p hp
  have hlt := h p hp
  have hne : p.generation ≠ generation := by omega
  simp [hne]

namespace Balanced

variable {s : Settings} {b b' : Breaker} {running running' : List Permit}

theorem trials_eq_inFlight {admitted succeeded : Nat} (h : Balanced s b running)
    (hb : b.phase = .halfOpen admitted succeeded) :
    trials b.generation running = inFlight b.generation running := by
  apply List.countP_congr
  intro p hp
  simp only [Bool.and_eq_true, beq_iff_eq, and_iff_right_iff_imp]
  exact h.isTrial _ _ hb p hp

theorem fresh (s : Settings) : Balanced s .fresh [] :=
  ⟨by simp, by simp, by simp [Breaker.fresh], by simp [trials]⟩

theorem congr (h : Balanced s b running) (hp : b'.phase = b.phase)
    (hg : b'.generation = b.generation) : Balanced s b' running := by
  obtain ⟨hle, hi, hc, ht⟩ := h
  exact ⟨by rwa [hg], by rwa [hp, hg], by rwa [hp, hg], ht⟩

theorem of_not_halfOpen (h : Balanced s b running) (hsub : running'.Sublist running)
    (hg : b.generation ≤ b'.generation)
    (hb : ∀ admitted succeeded, b'.phase ≠ .halfOpen admitted succeeded) :
    Balanced s b' running' where
  generation_le p hp := Nat.le_trans (h.generation_le p (hsub.subset hp)) hg
  isTrial admitted succeeded hh := absurd hh (hb admitted succeeded)
  counters admitted succeeded hh := absurd hh (hb admitted succeeded)
  trials_le generation := Nat.le_trans hsub.countP_le (h.trials_le generation)

theorem erase_stale {p : Permit} (h : Balanced s b running) (hm : p ∈ running)
    (hg : p.generation ≠ b.generation) : Balanced s b (running.erase p) := by
  have he := trials_erase b.generation hm
  simp only [beq_eq_false_iff_ne.mpr hg, Bool.and_false, Bool.false_eq_true, if_false,
    Nat.add_zero] at he
  have hsub : (running.erase p).Sublist running := List.erase_sublist
  exact ⟨fun q hq => h.generation_le q (hsub.subset hq),
    fun a n hb q hq => h.isTrial a n hb q (hsub.subset hq),
    fun a n hb => he ▸ h.counters a n hb,
    fun generation => Nat.le_trans hsub.countP_le (h.trials_le generation)⟩

/-- A trial that runs is one of those admitted. -/
theorem admitted_pos {p : Permit} {admitted succeeded : Nat} (h : Balanced s b running)
    (hb : b.phase = .halfOpen admitted succeeded) (hm : p ∈ running)
    (hg : p.generation = b.generation) : 0 < admitted := by
  have he := trials_erase b.generation hm
  have ht := h.isTrial _ _ hb p hm hg
  have hc := (h.counters _ _ hb).1
  simp only [ht, hg, beq_self_eq_true, Bool.and_self, if_true] at he
  omega

/-- A trial of the present period stops running: either it has succeeded, or it leaves its permit
to another. -/
theorem erase_trial {p : Permit} {admitted succeeded admitted' succeeded' : Nat}
    (h : Balanced s b running) (hb : b.phase = .halfOpen admitted succeeded) (hm : p ∈ running)
    (hg : p.generation = b.generation) (hb' : b'.phase = .halfOpen admitted' succeeded')
    (hg' : b'.generation = b.generation) (hle : admitted' ≤ admitted)
    (hlt : succeeded' < s.permits) (hsum : admitted' + succeeded + 1 = admitted + succeeded') :
    Balanced s b' (running.erase p) := by
  have he := trials_erase b.generation hm
  have ht := h.isTrial _ _ hb p hm hg
  have hc := h.counters _ _ hb
  simp only [ht, hg, beq_self_eq_true, Bool.and_self, if_true] at he
  have hsub : (running.erase p).Sublist running := List.erase_sublist
  refine ⟨?_, ?_, ?_, fun generation => Nat.le_trans hsub.countP_le (h.trials_le generation)⟩
  · intro q hq
    rw [hg']
    exact h.generation_le q (hsub.subset hq)
  · intro _ _ _ q hq hgq
    exact h.isTrial _ _ hb q (hsub.subset hq) (hgq.trans hg')
  · intro a n hh
    obtain ⟨rfl, rfl⟩ := Phase.halfOpen.inj (hb'.symm.trans hh)
    rw [hg']
    omega

/-- A call is admitted to the present period, which may have begun with it. -/
theorem admit_call {p : Permit} (h : Balanced s b running) (hle : b.generation ≤ b'.generation)
    (hp : p.generation = b'.generation)
    (hroom : p.isTrial = true → trials b'.generation running < s.permits)
    (hhalf : ∀ admitted succeeded, b'.phase = .halfOpen admitted succeeded →
      p.isTrial = true ∧ (∀ q ∈ running, q.generation = b'.generation → q.isTrial = true) ∧
        admitted = succeeded + trials b'.generation running + 1 ∧ succeeded < s.permits ∧
        admitted ≤ s.permits) :
    Balanced s b' (running ++ [p]) := by
  refine ⟨?_, ?_, ?_, ?_⟩
  · intro q hq
    simp only [List.mem_append, List.mem_singleton] at hq
    rcases hq with hq | rfl
    · exact Nat.le_trans (h.generation_le q hq) hle
    · exact Nat.le_of_eq hp
  · intro admitted succeeded hb q hq hg
    obtain ⟨ht, hrest, -⟩ := hhalf admitted succeeded hb
    simp only [List.mem_append, List.mem_singleton] at hq
    rcases hq with hq | rfl
    · exact hrest q hq hg
    · exact ht
  · intro admitted succeeded hb
    obtain ⟨ht, -, hsum, hlt, hall⟩ := hhalf admitted succeeded hb
    rw [trials_append_one, ht, hp, beq_self_eq_true, Bool.and_self, if_pos rfl]
    exact ⟨hsum, hlt, hall⟩
  · intro generation
    rw [trials_append_one]
    split
    · rename_i hmine
      simp only [Bool.and_eq_true, beq_iff_eq] at hmine
      have hlt := hroom hmine.1
      rw [← hp, hmine.2] at hlt
      exact hlt
    · exact h.trials_le generation

theorem admit_closed {window : List Bool} (h : Balanced s b running)
    (hb : b.phase = .closed window) : Balanced s b (running ++ [⟨b.generation, false⟩]) :=
  h.admit_call (Nat.le_refl _) rfl (by simp) (by simp [hb])

theorem admit_first (h : Balanced s b running) (hs : s.Sound)
    (hb' : b'.phase = .halfOpen 1 0) (hg' : b'.generation = b.generation + 1) :
    Balanced s b' (running ++ [⟨b.generation + 1, true⟩]) := by
  have hpos := hs.permits_pos
  have hlt : ∀ q ∈ running, q.generation < b'.generation := by
    intro q hq
    have hle := h.generation_le q hq
    omega
  have hz : trials b'.generation running = 0 := trials_eq_zero hlt
  refine h.admit_call (by omega) hg'.symm (by omega) ?_
  intro admitted succeeded hb
  obtain ⟨rfl, rfl⟩ := Phase.halfOpen.inj (hb'.symm.trans hb)
  refine ⟨rfl, ?_, by omega, hpos, hpos⟩
  intro q hq hg
  exact absurd hg (Nat.ne_of_lt (hlt q hq))

theorem admit_trial {admitted succeeded : Nat} (h : Balanced s b running)
    (hb : b.phase = .halfOpen admitted succeeded) (hlt : admitted < s.permits)
    (hb' : b'.phase = .halfOpen (admitted + 1) succeeded) (hg' : b'.generation = b.generation) :
    Balanced s b' (running ++ [⟨b.generation, true⟩]) := by
  have hc := h.counters _ _ hb
  refine h.admit_call (Nat.le_of_eq hg'.symm) hg'.symm ?_ ?_
  · rw [hg']
    omega
  · intro a n hh
    obtain ⟨rfl, rfl⟩ := Phase.halfOpen.inj (hb'.symm.trans hh)
    rw [hg']
    exact ⟨rfl, h.isTrial _ _ hb, by omega, hc.2.1, hlt⟩

theorem begin_call (h : Balanced s b running) (hs : s.Sound) (now : Moment) :
    Balanced s (b.begin s now).1 (running ++ (b.begin s now).2.toList) := by
  obtain ⟨hp, hg, hadm⟩ := begin_eq_acquire s now b
  rw [hadm]
  cases hb : b.phase with
  | closed window =>
    rw [acquire_closed s now hb] at hp hg ⊢
    exact (h.admit_closed hb).congr hp hg
  | «open» since =>
    rcases Nat.lt_or_ge now (since + s.openWait.nanos) with ht | ht
    · rw [acquire_early hb ht] at hp hg ⊢
      simpa using h.congr hp hg
    · rw [acquire_late hs hb ht] at hp hg ⊢
      exact h.admit_first hs hp hg
  | halfOpen admitted succeeded =>
    rcases Nat.lt_or_ge admitted s.permits with hlt | hle
    · rw [acquire_trial now hb hlt] at hp hg ⊢
      exact h.admit_trial hb hlt hp hg
    · rw [acquire_full now hb hle] at hp hg ⊢
      simpa using h.congr hp hg

theorem record_call {p : Permit} (h : Balanced s b running) (hm : p ∈ running) (now : Moment)
    (o : Outcome) : Balanced s (b.record s now p o) (running.erase p) := by
  have hsub : (running.erase p).Sublist running := List.erase_sublist
  cases hb : b.phase with
  | closed window =>
    by_cases ho : o = .ignored
    · rw [ho, record_closed_ignored s now p hb]
      exact h.of_not_halfOpen hsub (Nat.le_refl _) (by simp [hb])
    · rw [record_closed s now p hb ho]
      split
      · exact h.of_not_halfOpen hsub (Nat.le_succ _) (by simp)
      · exact h.of_not_halfOpen hsub (Nat.le_refl _) (by simp)
  | «open» since =>
    rw [record_open s now p o hb]
    exact h.of_not_halfOpen hsub (Nat.le_refl _) (by simp [hb])
  | halfOpen admitted succeeded =>
    by_cases hg : p.generation = b.generation
    · have hc := h.counters _ _ hb
      have hpos := h.admitted_pos hb hm hg
      cases o with
      | success =>
        rw [record_success s now hb hg]
        split
        · exact h.of_not_halfOpen hsub (Nat.le_succ _) (by simp)
        · exact h.erase_trial hb hm hg rfl rfl (Nat.le_refl _) (by omega) (by omega)
      | failure =>
        rw [record_failure s now hb hg]
        exact h.of_not_halfOpen hsub (Nat.le_succ _) (by simp)
      | ignored =>
        rw [record_ignored s now hb hg]
        exact h.erase_trial hb hm hg rfl rfl (Nat.sub_le _ _) hc.2.1 (by omega)
    · rw [record_stale s now o hb hg]
      exact h.erase_stale hm hg

theorem abandon_call {p : Permit} (h : Balanced s b running) (hm : p ∈ running) :
    Balanced s (b.abandon p) (running.erase p) := by
  have hsub : (running.erase p).Sublist running := List.erase_sublist
  by_cases hg : p.generation = b.generation
  · cases hb : b.phase with
    | halfOpen admitted succeeded =>
      have hc := h.counters _ _ hb
      have hpos := h.admitted_pos hb hm hg
      rw [abandon_trial hb (h.isTrial _ _ hb p hm hg) hg]
      exact h.erase_trial hb hm hg rfl rfl (Nat.sub_le _ _) hc.2.1 (by omega)
    | closed | «open» =>
      rw [abandon_of_not_halfOpen p (by simp [hb])]
      exact h.of_not_halfOpen hsub (Nat.le_refl _) (by simp [hb])
  · rw [abandon_stale hg]
    exact h.erase_stale hm hg

theorem step {t : Traffic} (h : Balanced s t.breaker t.running) (hs : s.Sound) (a : Action) :
    Balanced s (t.step s a).breaker (t.step s a).running := by
  cases a with
  | start => exact h.begin_call hs t.now
  | finish p o =>
    by_cases hm : p ∈ t.running
    · rw [Traffic.step_finish s o hm]
      exact (h.record_call hm t.now o).congr (finish_phase ..) (finish_generation ..)
    · rw [Traffic.step_finish_idle s o hm]
      exact h
  | cancel p =>
    by_cases hm : p ∈ t.running
    · rw [Traffic.step_cancel s hm]
      exact h.abandon_call hm
    · rw [Traffic.step_cancel_idle s hm]
      exact h
  | trip =>
    exact h.of_not_halfOpen (List.Sublist.refl _) (Nat.le_succ _) (by simp [Traffic.step])
  | reset =>
    exact h.of_not_halfOpen (List.Sublist.refl _) (Nat.le_succ _) (by simp [Traffic.step])
  | advance nanos => exact h

theorem run (hs : s.Sound) (actions : List Action) :
    Balanced s (Traffic.idle.run s actions).breaker (Traffic.idle.run s actions).running :=
  Traffic.run_induction (P := fun t => Balanced s t.breaker t.running) (fresh s)
    (fun _ a h => h.step hs a) actions

end Balanced

/-- In a half-open period every permit belongs to a success or to a running trial, and there is one
left whenever no trial runs. No period ever has more trials in flight than are permitted. -/
theorem permits_conserved (window minimum threshold permits : Nat) (openWait : Span)
    (actions : List Action) :
    let s := Settings.build window minimum threshold openWait permits
    let t := Traffic.idle.run s actions
    let present := inFlight t.breaker.generation t.running
    (∀ generation, trials generation t.running ≤ s.permits) ∧
      ∀ admitted succeeded, t.breaker.phase = .halfOpen admitted succeeded →
        admitted = succeeded + present ∧ succeeded < s.permits ∧ admitted ≤ s.permits ∧
        (∀ p ∈ t.running, p.generation = t.breaker.generation → p.isTrial = true ∧ 0 < admitted) ∧
        (present = 0 → ∀ now, (t.breaker.begin s now).2 = some ⟨t.breaker.generation, true⟩) := by
  intro s t present
  have hs : s.Sound := Settings.build_sound ..
  have h : Balanced s t.breaker t.running := Balanced.run hs actions
  refine ⟨h.trials_le, ?_⟩
  intro admitted succeeded hb
  obtain ⟨hsum, hlt, hle⟩ := h.counters admitted succeeded hb
  have heq : trials t.breaker.generation t.running = present := h.trials_eq_inFlight hb
  rw [heq] at hsum
  refine ⟨hsum, hlt, hle, ?_, ?_⟩
  · intro p hp hg
    exact ⟨h.isTrial _ _ hb p hp hg, h.admitted_pos hb hp hg⟩
  · intro hz now
    have hroom : admitted < s.permits := by omega
    rw [(begin_eq_acquire s now t.breaker).2.2, acquire_trial now hb hroom]

/-- A trial of an earlier period still runs when one of the present period has succeeded and
another was given up. -/
theorem permits_conserved_after_success :
    let s := Settings.build 4 4 50 Span.zero 2
    let actions : List Action :=
      [.trip, .start, .trip, .start, .start, .finish ⟨4, true⟩ .success, .cancel ⟨4, true⟩]
    let t := Traffic.idle.run s actions
    t.running = [⟨2, true⟩] ∧ t.breaker.phase = .halfOpen 1 1 ∧
      1 = 1 + inFlight t.breaker.generation t.running ∧
      (t.breaker.begin s t.now).2 = some ⟨t.breaker.generation, true⟩ := by
  intro s actions t
  have hr : t.running = [⟨2, true⟩] := by decide
  have hg : t.breaker.generation = 4 := by decide
  have hb : t.breaker.phase = .halfOpen 1 1 := by decide
  have hz : inFlight t.breaker.generation t.running = 0 := by rw [hr, hg]; rfl
  obtain ⟨-, hhalf⟩ := permits_conserved 4 4 50 2 Span.zero actions
  obtain ⟨hsum, -, -, -, hnext⟩ := hhalf 1 1 hb
  exact ⟨hr, hb, hsum, hnext hz t.now⟩

end AggregateGateway.Resilience.Breaker
