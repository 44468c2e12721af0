import AggregateGateway.Proofs.Resilience.TrialPermits

/-! How a half-open period ends. The outcomes of its own trials close or reopen the breaker, by
their number; besides them only force ends the period. -/

namespace AggregateGateway.Resilience.Breaker

open Time (Moment Span)

/-- How many calls admitted in a generation have ended with an outcome. -/
def endings (generation : Nat) (o : Outcome) (history : List Occurrence) : Nat :=
  history.countP fun
    | .ended p o' => p.generation == generation && o' == o
    | .entered _ => false

theorem endings_ended (generation : Nat) (o : Outcome) (history : List Occurrence) (p : Permit)
    (o' : Outcome) : endings generation o (history ++ [.ended p o']) =
      endings generation o history + if p.generation == generation && o' == o then 1 else 0 := by
  simp only [endings, List.countP_append, List.countP_singleton]

theorem endings_entered (generation : Nat) (o : Outcome) (history : List Occurrence) (g : Nat) :
    endings generation o (history ++ [.entered g]) = endings generation o history := by
  simp [endings]

theorem endings_eq_zero {generation : Nat} {history : List Occurrence}
    (h : ∀ p o, .ended p o ∈ history → p.generation < generation) (o : Outcome) :
    endings generation o history = 0 := by
  apply List.countP_eq_zero.mpr
  intro x hx
  cases x with
  | ended p o' =>
    have hne : p.generation ≠ generation := Nat.ne_of_lt (h p o' hx)
    simp [hne]
  | entered g => simp

/-! ### The steps of a half-open period -/

namespace Traffic

variable {s : Settings} {t : Traffic} {admitted succeeded : Nat}

theorem endings_turn (generation : Nat) (o : Outcome) (t : Traffic) (b : Breaker) :
    endings generation o (t.turn b).history = endings generation o t.history := by
  by_cases hg : b.generation = t.breaker.generation
  · rw [turn_history_same hg]
  · rw [turn_history_entered hg, endings_entered]

/-- What closes a half-open breaker: force or the last of the successes it waits for. -/
def Closing (s : Settings) (t : Traffic) (succeeded : Nat) (a : Action) : Prop :=
  a = .reset ∨ ∃ p ∈ t.running, p.generation = t.breaker.generation ∧
    a = .finish p .success ∧ succeeded + 1 = s.permits

/-- What opens a half-open breaker: force or a failure of one of its trials. -/
def Opening (t : Traffic) (a : Action) : Prop :=
  a = .trip ∨ ∃ p ∈ t.running, p.generation = t.breaker.generation ∧ a = .finish p .failure

theorem step_closing {a : Action} (h : t.breaker.phase = .halfOpen admitted succeeded)
    (ha : t.Closing s succeeded a) :
    (t.step s a).breaker.phase = .closed [] ∧
      (t.step s a).breaker.generation = t.breaker.generation + 1 := by
  rcases ha with rfl | ⟨p, hm, hg, rfl, hlast⟩
  · exact ⟨rfl, rfl⟩
  · rw [step_finish s .success hm, turn_breaker, finish_phase, finish_generation,
      record_success s t.now h hg, if_pos (Nat.le_of_eq hlast.symm)]
    exact ⟨rfl, rfl⟩

theorem step_opening {a : Action} (h : t.breaker.phase = .halfOpen admitted succeeded)
    (ha : t.Opening a) :
    (t.step s a).breaker.phase = .open t.now ∧
      (t.step s a).breaker.generation = t.breaker.generation + 1 := by
  rcases ha with rfl | ⟨p, hm, hg, rfl⟩
  · exact ⟨rfl, rfl⟩
  · rw [step_finish s .failure hm, turn_breaker, finish_phase, finish_generation,
      record_failure s t.now h hg]
    exact ⟨rfl, rfl⟩

theorem start_halfOpen (h : t.breaker.phase = .halfOpen admitted succeeded) :
    (∃ left, (t.step s .start).breaker.phase = .halfOpen left succeeded) ∧
      (t.step s .start).breaker.generation = t.breaker.generation := by
  obtain ⟨hp, hg, -⟩ := begin_eq_acquire s t.now t.breaker
  rcases Nat.lt_or_ge admitted s.permits with hlt | hle
  · rw [acquire_trial t.now h hlt] at hp hg
    exact ⟨⟨admitted + 1, hp⟩, hg⟩
  · rw [acquire_full t.now h hle] at hp hg
    exact ⟨⟨admitted, hp.trans h⟩, hg⟩

/-- A success that is not the last one waited for is counted, and no other outcome is. -/
theorem finish_halfOpen (h : t.breaker.phase = .halfOpen admitted succeeded)
    (hlt : succeeded < s.permits) {p : Permit} {o : Outcome} (hm : p ∈ t.running)
    (hc : ¬ t.Closing s succeeded (.finish p o)) (ho : ¬ t.Opening (.finish p o)) :
    (∃ left, (t.step s (.finish p o)).breaker.phase = .halfOpen left
      (succeeded + if p.generation == t.breaker.generation && o == .success then 1 else 0)) ∧
      (t.step s (.finish p o)).breaker.generation = t.breaker.generation := by
  rw [step_finish s o hm, turn_breaker, finish_phase, finish_generation]
  by_cases hg : p.generation = t.breaker.generation
  · cases o with
    | success =>
      have hmore : ¬ s.permits ≤ succeeded + 1 := by
        intro hle
        exact hc (.inr ⟨p, hm, hg, rfl, by omega⟩)
      rw [record_success s t.now h hg, if_neg hmore]
      exact ⟨⟨admitted, by simp [hg]⟩, rfl⟩
    | failure => exact absurd (.inr ⟨p, hm, hg, rfl⟩) ho
    | ignored =>
      rw [record_ignored s t.now h hg]
      exact ⟨⟨admitted - 1, by simp⟩, rfl⟩
  · rw [record_stale s t.now o h hg]
    exact ⟨⟨admitted, by simp [hg, h]⟩, rfl⟩

theorem cancel_halfOpen (h : t.breaker.phase = .halfOpen admitted succeeded) (p : Permit) :
    (∃ left, (t.step s (.cancel p)).breaker.phase = .halfOpen left succeeded) ∧
      (t.step s (.cancel p)).breaker.generation = t.breaker.generation := by
  by_cases hm : p ∈ t.running
  · rw [step_cancel s hm, turn_breaker]
    exact ⟨abandon_halfOpen p h, abandon_generation p t.breaker⟩
  · rw [step_cancel_idle s hm]
    exact ⟨⟨admitted, h⟩, rfl⟩

theorem step_continuing {a : Action} (h : t.breaker.phase = .halfOpen admitted succeeded)
    (hlt : succeeded < s.permits) (hc : ¬ t.Closing s succeeded a) (ho : ¬ t.Opening a) :
    (∃ left done, (t.step s a).breaker.phase = .halfOpen left done) ∧
      (t.step s a).breaker.generation = t.breaker.generation := by
  cases a with
  | start =>
    obtain ⟨⟨left, hp⟩, hg⟩ := start_halfOpen (s := s) h
    exact ⟨⟨left, succeeded, hp⟩, hg⟩
  | finish p o =>
    by_cases hm : p ∈ t.running
    · obtain ⟨⟨left, hp⟩, hg⟩ := finish_halfOpen h hlt hm hc ho
      exact ⟨⟨left, _, hp⟩, hg⟩
    · rw [step_finish_idle s o hm]
      exact ⟨⟨admitted, succeeded, h⟩, rfl⟩
  | cancel p =>
    obtain ⟨⟨left, hp⟩, hg⟩ := cancel_halfOpen (s := s) h p
    exact ⟨⟨left, succeeded, hp⟩, hg⟩
  | trip => exact absurd (.inl rfl) ho
  | reset => exact absurd (.inl rfl) hc
  | advance nanos => exact ⟨⟨admitted, succeeded, h⟩, rfl⟩

theorem closes_iff (h : t.breaker.phase = .halfOpen admitted succeeded)
    (hlt : succeeded < s.permits) (a : Action) :
    (∃ kept, (t.step s a).breaker.phase = .closed kept) ↔ t.Closing s succeeded a := by
  constructor
  · rintro ⟨kept, hk⟩
    by_cases hc : t.Closing s succeeded a
    · exact hc
    by_cases ho : t.Opening a
    · simp [(step_opening (s := s) h ho).1] at hk
    · obtain ⟨⟨left, done, hp⟩, -⟩ := step_continuing h hlt hc ho
      simp [hp] at hk
  · intro hc
    exact ⟨[], (step_closing h hc).1⟩

theorem opens_iff_opening (h : t.breaker.phase = .halfOpen admitted succeeded)
    (hlt : succeeded < s.permits) (a : Action) :
    (∃ since, (t.step s a).breaker.phase = .open since) ↔ t.Opening a := by
  constructor
  · rintro ⟨since, hk⟩
    by_cases ho : t.Opening a
    · exact ho
    by_cases hc : t.Closing s succeeded a
    · simp [(step_closing h hc).1] at hk
    · obtain ⟨⟨left, done, hp⟩, -⟩ := step_continuing h hlt hc ho
      simp [hp] at hk
  · intro ho
    exact ⟨t.now, (step_opening h ho).1⟩

/-- A half-open breaker begins a new generation exactly if it closes or opens. -/
theorem generation_changed_iff (h : t.breaker.phase = .halfOpen admitted succeeded)
    (hlt : succeeded < s.permits) (a : Action) :
    (t.step s a).breaker.generation ≠ t.breaker.generation ↔
      t.Closing s succeeded a ∨ t.Opening a := by
  constructor
  · intro hne
    by_cases hc : t.Closing s succeeded a
    · exact .inl hc
    by_cases ho : t.Opening a
    · exact .inr ho
    exact absurd (step_continuing h hlt hc ho).2 hne
  · rintro (hc | ho) hg
    · exact Nat.succ_ne_self _ ((step_closing h hc).2.symm.trans hg)
    · exact Nat.succ_ne_self _ ((step_opening (s := s) h ho).2.symm.trans hg)

end Traffic

/-! ### The counter of successes against the history -/

/-- The history of a half-open period has the successes that the breaker has counted, and no
failure. -/
structure Tallied (t : Traffic) : Prop where
  ended_le : ∀ p o, .ended p o ∈ t.history → p.generation ≤ t.breaker.generation
  counts : ∀ admitted succeeded, t.breaker.phase = .halfOpen admitted succeeded →
    endings t.breaker.generation .success t.history = succeeded ∧
      endings t.breaker.generation .failure t.history = 0

theorem record_not_halfOpen {b : Breaker} (s : Settings) (now : Moment) (p : Permit) (o : Outcome)
    (h : ∀ admitted succeeded, b.phase ≠ .halfOpen admitted succeeded) :
    ∀ admitted succeeded, (b.record s now p o).phase ≠ .halfOpen admitted succeeded := by
  intro admitted succeeded
  cases hb : b.phase with
  | closed window =>
    by_cases ho : o = .ignored
    · simp [ho, record_closed_ignored s now p hb, hb]
    · rw [record_closed s now p hb ho]
      split <;> simp
  | «open» since => simp [record_open s now p o hb, hb]
  | halfOpen a n => exact absurd hb (h a n)

namespace Tallied

variable {s : Settings} {t : Traffic}

theorem idle : Tallied .idle :=
  ⟨by simp [Traffic.idle], by simp [Traffic.idle, Breaker.fresh]⟩

theorem turn {b : Breaker} (hle : ∀ p o, .ended p o ∈ t.history → p.generation ≤ b.generation)
    (hc : ∀ admitted succeeded, b.phase = .halfOpen admitted succeeded →
      endings b.generation .success t.history = succeeded ∧
        endings b.generation .failure t.history = 0) : Tallied (t.turn b) := by
  constructor
  · intro p o hm
    simp only [Traffic.turn, List.mem_append] at hm
    rcases hm with hm | hm
    · exact hle p o hm
    · split at hm <;> simp at hm
  · intro admitted succeeded hb
    rw [Traffic.endings_turn, Traffic.endings_turn]
    exact hc admitted succeeded hb

theorem start (h : Tallied t) (hs : s.Sound) : Tallied (t.step s .start) := by
  obtain ⟨hp, hg, -⟩ := begin_eq_acquire s t.now t.breaker
  have hturn : Tallied (t.turn (t.breaker.begin s t.now).1) := by
    cases hb : t.breaker.phase with
    | closed window =>
      rw [acquire_closed s t.now hb] at hp hg
      exact turn (fun p o hm => hg ▸ h.ended_le p o hm) (by simp [hp, hb])
    | «open» since =>
      rcases Nat.lt_or_ge t.now (since + s.openWait.nanos) with ht | ht
      · rw [acquire_early hb ht] at hp hg
        exact turn (fun p o hm => hg ▸ h.ended_le p o hm) (by simp [hp, hb])
      · rw [acquire_late hs hb ht] at hp hg
        have hlt : ∀ p o, .ended p o ∈ t.history → p.generation < t.breaker.generation + 1 :=
          fun p o hm => Nat.lt_succ_of_le (h.ended_le p o hm)
        refine turn (fun p o hm => Nat.le_of_lt (hg ▸ hlt p o hm)) ?_
        intro admitted succeeded hh
        obtain ⟨-, rfl⟩ := Phase.halfOpen.inj (hp.symm.trans hh)
        rw [hg]
        exact ⟨endings_eq_zero hlt _, endings_eq_zero hlt _⟩
    | halfOpen admitted succeeded =>
      obtain ⟨⟨left, hp'⟩, hg'⟩ := Traffic.start_halfOpen (s := s) hb
      have hpb : (t.breaker.begin s t.now).1.phase = .halfOpen left succeeded := hp'
      have hgb : (t.breaker.begin s t.now).1.generation = t.breaker.generation := hg'
      refine turn (fun p o hm => hgb ▸ h.ended_le p o hm) ?_
      intro a n hh
      obtain ⟨-, rfl⟩ := Phase.halfOpen.inj (hpb.symm.trans hh)
      rw [hgb]
      exact h.counts _ _ hb
  exact ⟨hturn.ended_le, hturn.counts⟩

theorem finish {p : Permit} (h : Tallied t) (hbal : Balanced s t.breaker t.running)
    (hm : p ∈ t.running) (o : Outcome) : Tallied (t.step s (.finish p o)) := by
  rw [Traffic.step_finish s o hm]
  have hle : t.breaker.generation ≤ (t.breaker.finish s t.now p o).generation := by
    rw [finish_generation]
    rcases record_entered s t.now p o t.breaker with hg | ⟨hg, -⟩ <;> omega
  have hended : ∀ q o', .ended q o' ∈ (t.ended p o).history →
      q.generation ≤ (t.breaker.finish s t.now p o).generation := by
    intro q o' hq
    simp only [Traffic.ended, List.mem_append, List.mem_singleton, Occurrence.ended.injEq] at hq
    rcases hq with hq | ⟨rfl, rfl⟩
    · exact Nat.le_trans (h.ended_le q o' hq) hle
    · exact Nat.le_trans (hbal.generation_le q hm) hle
  by_cases hhalf : ∃ admitted succeeded, t.breaker.phase = .halfOpen admitted succeeded
  · obtain ⟨admitted, succeeded, hb⟩ := hhalf
    have hlt := (hbal.counters _ _ hb).2.1
    obtain ⟨hsucc, hfail⟩ := h.counts _ _ hb
    by_cases hc : t.Closing s succeeded (.finish p o)
    · have hclosed := (Traffic.step_closing hb hc).1
      rw [Traffic.step_finish s o hm, Traffic.turn_breaker] at hclosed
      exact turn hended (by simp [hclosed])
    by_cases ho : t.Opening (.finish p o)
    · have hopen := (Traffic.step_opening (s := s) hb ho).1
      rw [Traffic.step_finish s o hm, Traffic.turn_breaker] at hopen
      exact turn hended (by simp [hopen])
    obtain ⟨⟨left, hp'⟩, hg'⟩ := Traffic.finish_halfOpen hb hlt hm hc ho
    rw [Traffic.step_finish s o hm, Traffic.turn_breaker] at hp' hg'
    have hnofail : (p.generation == t.breaker.generation && o == .failure) = false := by
      rw [Bool.eq_false_iff]
      intro hown
      simp only [Bool.and_eq_true, beq_iff_eq] at hown
      obtain ⟨hg, rfl⟩ := hown
      exact ho (.inr ⟨p, hm, hg, rfl⟩)
    refine turn hended ?_
    intro a n hh
    obtain ⟨-, rfl⟩ := Phase.halfOpen.inj (hp'.symm.trans hh)
    rw [hg', Traffic.ended, endings_ended, endings_ended, hsucc, hfail, hnofail]
    exact ⟨rfl, rfl⟩
  · refine turn hended ?_
    intro a n hh
    rw [finish_phase] at hh
    exact absurd hh (record_not_halfOpen s t.now p o (by simpa using hhalf) a n)

theorem cancel (h : Tallied t) (p : Permit) : Tallied (t.step s (.cancel p)) := by
  by_cases hm : p ∈ t.running
  · have hg := abandon_generation p t.breaker
    rw [Traffic.step_cancel s hm]
    refine turn (t := { t with running := t.running.erase p })
      (fun q o hq => hg ▸ h.ended_le q o hq) ?_
    intro admitted succeeded hh
    rw [hg]
    by_cases hb : ∃ admitted succeeded, t.breaker.phase = .halfOpen admitted succeeded
    · obtain ⟨a, n, hb⟩ := hb
      obtain ⟨left, hp⟩ := abandon_halfOpen p hb
      obtain ⟨-, rfl⟩ := Phase.halfOpen.inj (hp.symm.trans hh)
      exact h.counts _ _ hb
    · rw [abandon_of_not_halfOpen p (by simpa using hb)] at hh
      exact h.counts _ _ hh
  · rw [Traffic.step_cancel_idle s hm]
    exact h

theorem step (h : Tallied t) (hbal : Balanced s t.breaker t.running) (hs : s.Sound)
    (a : Action) : Tallied (t.step s a) := by
  cases a with
  | start => exact h.start hs
  | finish p o =>
    by_cases hm : p ∈ t.running
    · exact h.finish hbal hm o
    · rw [Traffic.step_finish_idle s o hm]
      exact h
  | cancel p => exact h.cancel p
  | trip => exact turn (fun p o hm => Nat.le_succ_of_le (h.ended_le p o hm)) (by simp)
  | reset => exact turn (fun p o hm => Nat.le_succ_of_le (h.ended_le p o hm)) (by simp)
  | advance nanos => exact ⟨h.ended_le, h.counts⟩

theorem run (hs : s.Sound) (actions : List Action) :
    Balanced s (Traffic.idle.run s actions).breaker (Traffic.idle.run s actions).running ∧
      Tallied (Traffic.idle.run s actions) :=
  Traffic.run_induction (P := fun t => Balanced s t.breaker t.running ∧ Tallied t)
    ⟨Balanced.fresh s, idle⟩ (fun _ a h => ⟨h.1.step hs a, h.2.step h.1 hs a⟩) actions

end Tallied

/-! ### The end of the period -/

namespace Traffic

variable {s : Settings} {t : Traffic} {admitted succeeded : Nat}

theorem generation_le_step (hs : s.Sound) (t : Traffic) (a : Action) :
    t.breaker.generation ≤ (t.step s a).breaker.generation := by
  cases a with
  | start =>
    have h := begin_entered hs t.now t.breaker
    simp only [step, turn]
    omega
  | finish p o =>
    by_cases hm : p ∈ t.running
    · have h := record_entered s t.now p o t.breaker
      rw [step_finish s o hm, turn_breaker, finish_generation]
      omega
    · exact Nat.le_of_eq (by rw [step_finish_idle s o hm])
  | cancel p =>
    by_cases hm : p ∈ t.running
    · exact Nat.le_of_eq (by rw [step_cancel s hm, turn_breaker, abandon_generation])
    · exact Nat.le_of_eq (by rw [step_cancel_idle s hm])
  | trip | reset => exact Nat.le_succ _
  | advance nanos => exact Nat.le_refl _

theorem generation_le_run (hs : s.Sound) (t : Traffic) (later : List Action) :
    t.breaker.generation ≤ (t.run s later).breaker.generation :=
  run_induction (P := fun t' => t.breaker.generation ≤ t'.breaker.generation) (Nat.le_refl _)
    (fun t' a h => Nat.le_trans h (generation_le_step hs t' a)) later

theorem history_isPrefix_turn (t : Traffic) (b : Breaker) : t.history <+: (t.turn b).history :=
  List.prefix_append _ _

theorem history_isPrefix_step (s : Settings) (t : Traffic) (a : Action) :
    t.history <+: (t.step s a).history := by
  cases a with
  | start => exact history_isPrefix_turn t _
  | finish p o =>
    by_cases hm : p ∈ t.running
    · rw [step_finish s o hm]
      exact (List.prefix_append _ _).trans (history_isPrefix_turn (t.ended p o) _)
    · exact ⟨[], by rw [step_finish_idle s o hm, List.append_nil]⟩
  | cancel p =>
    by_cases hm : p ∈ t.running
    · rw [step_cancel s hm]
      exact history_isPrefix_turn { t with running := t.running.erase p } _
    · exact ⟨[], by rw [step_cancel_idle s hm, List.append_nil]⟩
  | trip | reset => exact history_isPrefix_turn t _
  | advance nanos => exact List.prefix_rfl

theorem endings_le_run (g : Nat) (o : Outcome) (s : Settings) (t : Traffic)
    (later : List Action) : endings g o t.history ≤ endings g o (t.run s later).history := by
  have h : t.history <+: (t.run s later).history :=
    run_induction (P := fun t' => t.history <+: t'.history) List.prefix_rfl
      (fun t' a h => h.trans (history_isPrefix_step s t' a)) later
  exact h.sublist.countP_le

theorem endings_finish {p : Permit} (hm : p ∈ t.running) (g : Nat) (o o' : Outcome) :
    endings g o (t.step s (.finish p o')).history =
      endings g o t.history + if p.generation == g && o' == o then 1 else 0 := by
  rw [step_finish s o' hm, endings_turn, ended, endings_ended]

/-- When the last success closes the breaker, no other trial of the period is left. -/
theorem inFlight_closed {p : Permit} (hbal : Balanced s t.breaker t.running)
    (h : t.breaker.phase = .halfOpen admitted succeeded) (hm : p ∈ t.running)
    (hg : p.generation = t.breaker.generation) (hlast : succeeded + 1 = s.permits) :
    inFlight t.breaker.generation (t.step s (.finish p .success)).running = 0 := by
  obtain ⟨hsum, -, hle⟩ := hbal.counters _ _ h
  have hr : (t.step s (.finish p .success)).running = t.running.erase p := by
    rw [step_finish s .success hm]
    rfl
  have he : inFlight t.breaker.generation t.running =
      inFlight t.breaker.generation (t.running.erase p) + 1 := by
    simp only [inFlight, (List.perm_cons_erase hm).countP_eq, List.countP_cons, hg,
      beq_self_eq_true, if_true]
  rw [hbal.trials_eq_inFlight h] at hsum
  rw [hr]
  omega

/-- What a half-open period survives. -/
theorem run_halfOpen_iff (hs : s.Sound) (hbal : Balanced s t.breaker t.running)
    (htal : Tallied t) (h : t.breaker.phase = .halfOpen admitted succeeded)
    (later : List Action) :
    (t.run s later).breaker.generation = t.breaker.generation ↔
      (∀ a ∈ later, a ≠ .trip ∧ a ≠ .reset) ∧
      endings t.breaker.generation .failure (t.run s later).history = 0 ∧
      endings t.breaker.generation .success (t.run s later).history < s.permits := by
  induction later generalizing t admitted succeeded with
  | nil =>
    obtain ⟨hsucc, hfail⟩ := htal.counts _ _ h
    have hlt := (hbal.counters _ _ h).2.1
    simp [run, hfail, hsucc, hlt]
  | cons a later ih =>
    obtain ⟨hsucc, -⟩ := htal.counts _ _ h
    have hlt := (hbal.counters _ _ h).2.1
    have hgen := generation_le_run hs (t.step s a) later
    have hended (o : Outcome) := endings_le_run t.breaker.generation o s (t.step s a) later
    rw [show t.run s (a :: later) = (t.step s a).run s later from rfl]
    by_cases hc : t.Closing s succeeded a
    · have hg := (step_closing h hc).2
      refine iff_of_false (by omega) ?_
      rintro ⟨hforce, -, hfew⟩
      rcases hc with rfl | ⟨p, hm, hpg, rfl, hlast⟩
      · exact (hforce _ List.mem_cons_self).2 rfl
      · have he := hended .success
        rw [endings_finish hm, hpg] at he
        simp only [beq_self_eq_true, Bool.and_self, if_true] at he
        omega
    by_cases ho : t.Opening a
    · have hg := (step_opening (s := s) h ho).2
      refine iff_of_false (by omega) ?_
      rintro ⟨hforce, hnone, -⟩
      rcases ho with rfl | ⟨p, hm, hpg, rfl⟩
      · exact (hforce _ List.mem_cons_self).1 rfl
      · have he := hended .failure
        rw [endings_finish hm, hpg] at he
        simp only [beq_self_eq_true, Bool.and_self, if_true] at he
        omega
    obtain ⟨⟨left, done, h'⟩, hg⟩ := step_continuing h hlt hc ho
    have hunforced : a ≠ .trip ∧ a ≠ .reset := ⟨fun ha => ho (.inl ha), fun ha => hc (.inl ha)⟩
    have hrest := ih (hbal.step hs a) (htal.step hbal hs a) h'
    rw [hg] at hrest
    rw [hrest, List.forall_mem_cons]
    simp only [hunforced, ne_eq, not_false_eq_true, and_self, true_and]

end Traffic

/-- A half-open period ends when the last of the successes that it waits for, at one of its own
trials, closes the breaker, when the first failure of one of its own trials opens it again, or by
force. When a success closes the breaker no trial of the period is left in flight; when the breaker
opens its wait begins anew. -/
theorem half_open_period_ends (window minimum threshold permits : Nat) (openWait : Span)
    (actions : List Action) :
    let s := Settings.build window minimum threshold openWait permits
    let t := Traffic.idle.run s actions
    let g := t.breaker.generation
    ∀ admitted succeeded, t.breaker.phase = .halfOpen admitted succeeded →
      (endings g .success t.history < s.permits ∧ endings g .failure t.history = 0) ∧
      (∀ a, let t' := t.step s a
        ((∃ kept, t'.breaker.phase = .closed kept) ↔ a = .reset ∨
          ∃ p ∈ t.running, p.generation = g ∧ a = .finish p .success ∧
            endings g .success t.history + 1 = s.permits) ∧
        ((∃ since, t'.breaker.phase = .open since) ↔ a = .trip ∨
          ∃ p ∈ t.running, p.generation = g ∧ a = .finish p .failure) ∧
        (t'.breaker.generation ≠ g ↔
          (∃ kept, t'.breaker.phase = .closed kept) ∨ ∃ since, t'.breaker.phase = .open since) ∧
        (∀ kept, t'.breaker.phase = .closed kept →
          kept = [] ∧ (a ≠ .reset → inFlight g t'.running = 0)) ∧
        ∀ since, t'.breaker.phase = .open since → since = t'.now) ∧
      ∀ later, (t.run s later).breaker.generation = g ↔
        (∀ a ∈ later, a ≠ .trip ∧ a ≠ .reset) ∧
        endings g .failure (t.run s later).history = 0 ∧
        endings g .success (t.run s later).history < s.permits := by
  intro s t g admitted succeeded h
  have hs : s.Sound := Settings.build_sound ..
  obtain ⟨hbal, htal⟩ : Balanced s t.breaker t.running ∧ Tallied t := Tallied.run hs actions
  obtain ⟨hsucc, hfail⟩ := htal.counts _ _ h
  have hlt := (hbal.counters _ _ h).2.1
  have hcount : endings g .success t.history = succeeded := hsucc
  rw [hcount]
  refine ⟨⟨hlt, hfail⟩, ?_, Traffic.run_halfOpen_iff hs hbal htal h⟩
  intro a t'
  have hcloses := Traffic.closes_iff h hlt a
  have hopens := Traffic.opens_iff_opening h hlt a
  refine ⟨hcloses, hopens, ?_, ?_, ?_⟩
  · rw [hcloses, hopens]
    exact Traffic.generation_changed_iff h hlt a
  · intro kept hk
    have hc := hcloses.mp ⟨kept, hk⟩
    refine ⟨Phase.closed.inj (hk.symm.trans (Traffic.step_closing h hc).1), ?_⟩
    intro hforce
    obtain ⟨p, hm, hg, rfl, hlast⟩ := hc.resolve_left hforce
    exact Traffic.inFlight_closed hbal h hm hg hlast
  · intro since hk
    have ho := hopens.mp ⟨since, hk⟩
    have hsince := Phase.open.inj (hk.symm.trans (Traffic.step_opening (s := s) h ho).1)
    rcases ho with rfl | ⟨p, hm, -, rfl⟩
    · exact hsince
    · rw [hsince]
      simp only [t', Traffic.step_finish s _ hm]
      rfl

/-- A trial was ignored, its permit went to another one and a call of the closed period has failed.
The second success closes the breaker. -/
theorem half_open_period_ends_after_second_success :
    let s := Settings.build 1 1 50 Span.zero 2
    let t := Traffic.idle.run s [.start, .trip, .start, .start, .finish ⟨2, true⟩ .ignored, .start,
      .finish ⟨2, true⟩ .success, .finish ⟨0, false⟩ .failure]
    let t' := t.step s (.finish ⟨2, true⟩ .success)
    t.breaker.phase = .halfOpen 2 1 ∧ endings t.breaker.generation .failure t.history = 0 ∧
      t'.breaker.phase = .closed [] ∧ inFlight t.breaker.generation t'.running = 0 := by
  have h := half_open_period_ends 1 1 50 2 Span.zero
    [.start, .trip, .start, .start, .finish ⟨2, true⟩ .ignored, .start,
      .finish ⟨2, true⟩ .success, .finish ⟨0, false⟩ .failure] 2 1 (by decide)
  dsimp only at h ⊢
  obtain ⟨⟨-, hfail⟩, hstep, -⟩ := h
  obtain ⟨-, -, -, hclosed, -⟩ := hstep (.finish ⟨2, true⟩ .success)
  refine ⟨by decide, hfail, by decide, (hclosed [] (by decide)).2 (by simp)⟩

end AggregateGateway.Resilience.Breaker
