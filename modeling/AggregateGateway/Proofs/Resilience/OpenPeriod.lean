import AggregateGateway.Proofs.Resilience.BreakerTraffic

/-! The time for which a breaker is open. Until the wait has passed no call gets through and it
does not matter how earlier calls end; the next call then begins a half-open period as its first
trial. -/

namespace AggregateGateway.Resilience.Breaker

open Time (Moment Span)

/-- A breaker opens at the moment of the step that opens it. -/
theorem Traffic.opened_now {s : Settings} {t : Traffic} {a : Action} {since : Moment}
    (hs : s.Sound) (hg : (t.step s a).breaker.generation ≠ t.breaker.generation)
    (hb : (t.step s a).breaker.phase = .open since) :
    since = t.now ∧ (t.step s a).now = t.now := by
  cases a with
  | start =>
    have hb' : (t.breaker.begin s t.now).1.phase = .open since := hb
    rcases begin_entered hs t.now t.breaker with hsame | ⟨-, hhalf⟩
    · exact absurd hsame hg
    · simp [hhalf] at hb'
  | finish p o =>
    by_cases hm : p ∈ t.running
    · rw [step_finish s o hm, turn_breaker] at hg hb
      rw [finish_generation] at hg
      rw [finish_phase] at hb
      rw [step_finish s o hm]
      rcases record_entered s t.now p o t.breaker with hsame | ⟨-, hopen | hclosed⟩
      · exact absurd hsame hg
      · exact ⟨(Phase.open.inj (hopen.symm.trans hb)).symm, rfl⟩
      · simp [hclosed] at hb
    · exact absurd (by rw [step_finish_idle s o hm]) hg
  | cancel p =>
    by_cases hm : p ∈ t.running
    · rw [step_cancel s hm, turn_breaker] at hg
      exact absurd (abandon_generation p t.breaker) hg
    · exact absurd (by rw [step_cancel_idle s hm]) hg
  | trip => exact ⟨(Phase.open.inj ((trip_phase t.now t.breaker).symm.trans hb)).symm, rfl⟩
  | reset => simp [step] at hb
  | advance nanos => exact absurd rfl hg

/-! ### While a breaker is open -/

/-- The wait has not passed: a call is counted and rejected, which is all that happens. -/
theorem begin_early {s : Settings} {now since : Moment} {b : Breaker}
    (h : b.phase = .open since) (ht : now < since + s.openWait.nanos) :
    b.begin s now =
      ({ b with
        totals := { b.totals with
          calls := b.totals.calls + 1, rejections := b.totals.rejections + 1 }
        reports := .rejection :: .call :: b.reports }, none) := by
  have ha : b.countCall.acquire s now = (b.countCall, none) := acquire_early (b := b.countCall) h ht
  simp only [begin, ha]
  rfl

/-- The wait has passed: a call is counted and is the first trial of a new period. -/
theorem begin_late {s : Settings} {now since : Moment} {b : Breaker} (hs : s.Sound)
    (h : b.phase = .open since) (ht : since + s.openWait.nanos ≤ now) :
    b.begin s now =
      (⟨.halfOpen 1 0, b.generation + 1, { b.totals with calls := b.totals.calls + 1 },
        .state 1 :: .call :: b.reports⟩, some ⟨b.generation + 1, true⟩) := by
  have ha : b.countCall.acquire s now =
      (b.countCall.enter (.halfOpen 1 0), some ⟨b.generation + 1, true⟩) :=
    acquire_late (b := b.countCall) hs h ht
  simp only [begin, ha]
  rfl

namespace Traffic

variable {s : Settings} {t : Traffic} {since : Moment}

theorem start_early (h : t.breaker.phase = .open since) (ht : t.now < since + s.openWait.nanos) :
    t.step s .start = { t with breaker := { t.breaker with
      totals := { t.breaker.totals with
        calls := t.breaker.totals.calls + 1
        rejections := t.breaker.totals.rejections + 1 }
      reports := .rejection :: .call :: t.breaker.reports } } := by
  simp only [step, begin_early h ht, turn, if_true, List.append_nil, Option.toList_none]

theorem start_late (hs : s.Sound) (h : t.breaker.phase = .open since)
    (ht : since + s.openWait.nanos ≤ t.now) :
    t.step s .start =
      ⟨⟨.halfOpen 1 0, t.breaker.generation + 1,
          { t.breaker.totals with calls := t.breaker.totals.calls + 1 },
          .state 1 :: .call :: t.breaker.reports⟩,
        t.now, t.running ++ [⟨t.breaker.generation + 1, true⟩],
        t.history ++ [.entered (t.breaker.generation + 1)]⟩ := by
  have hne : t.breaker.generation + 1 ≠ t.breaker.generation := Nat.succ_ne_self _
  simp only [step, begin_late hs h ht, turn, hne, if_false, Option.toList_some]

theorem finish_open (h : t.breaker.phase = .open since) (p : Permit) (o : Outcome) :
    (t.step s (.finish p o)).breaker.phase = .open since ∧
      (t.step s (.finish p o)).breaker.generation = t.breaker.generation := by
  by_cases hm : p ∈ t.running
  · rw [step_finish s o hm, turn_breaker, finish_phase, finish_generation,
      record_open s t.now p o h]
    exact ⟨h, rfl⟩
  · rw [step_finish_idle s o hm]
    exact ⟨h, rfl⟩

theorem cancel_open (h : t.breaker.phase = .open since) (p : Permit) :
    (t.step s (.cancel p)).breaker = t.breaker := by
  by_cases hm : p ∈ t.running
  · rw [step_cancel s hm, turn_breaker, abandon_of_not_halfOpen p (by simp [h])]
  · rw [step_cancel_idle s hm]

/-- Neither force nor, from the deadline on, a call. -/
def leavesOpen (deadline : Moment) (t : Traffic) : Action → Bool
  | .trip | .reset => false
  | .start => t.now < deadline
  | .finish .. | .cancel _ | .advance _ => true

def allLeaveOpen (s : Settings) (deadline : Moment) (t : Traffic) : List Action → Bool
  | [] => true
  | a :: later => t.leavesOpen deadline a && (t.step s a).allLeaveOpen s deadline later

theorem step_open {a : Action} (h : t.breaker.phase = .open since)
    (ha : t.leavesOpen (since + s.openWait.nanos) a = true) :
    (t.step s a).breaker.phase = .open since ∧
      (t.step s a).breaker.generation = t.breaker.generation := by
  cases a with
  | start =>
    rw [start_early h (of_decide_eq_true ha)]
    exact ⟨h, rfl⟩
  | finish p o => exact finish_open h p o
  | cancel p =>
    rw [cancel_open h p]
    exact ⟨h, rfl⟩
  | trip | reset => exact absurd ha Bool.false_ne_true
  | advance nanos => exact ⟨h, rfl⟩

theorem run_open {later : List Action} (h : t.breaker.phase = .open since)
    (hl : t.allLeaveOpen s (since + s.openWait.nanos) later = true) :
    (t.run s later).breaker.phase = .open since ∧
      (t.run s later).breaker.generation = t.breaker.generation := by
  induction later generalizing t with
  | nil => exact ⟨h, rfl⟩
  | cons a later ih =>
    simp only [allLeaveOpen, Bool.and_eq_true] at hl
    obtain ⟨hp, hg⟩ := step_open h hl.1
    obtain ⟨hp', hg'⟩ := ih hp hl.2
    exact ⟨hp', hg'.trans hg⟩

end Traffic

/-- From the moment at which a breaker opens until the wait has passed, unless force is used, every
call is rejected and only counted, and no earlier call changes the breaker by its end. The first
call after that is the first trial of a new half-open period. -/
theorem open_until_wait_elapses (window minimum threshold permits : Nat) (openWait : Span)
    (actions : List Action) (a : Action) (later : List Action) :
    let s := Settings.build window minimum threshold openWait permits
    let before := Traffic.idle.run s actions
    let opened := before.step s a
    let deadline := before.now + openWait.nanos
    let t := opened.run s later
    opened.breaker.generation ≠ before.breaker.generation →
    (∃ since, opened.breaker.phase = .open since) →
    opened.allLeaveOpen s deadline later = true →
      t.breaker.phase = .open before.now ∧ t.breaker.generation = opened.breaker.generation ∧
      (t.now < deadline →
        (t.breaker.begin s t.now).2 = none ∧
        t.step s .start = { t with breaker := { t.breaker with
          totals := { t.breaker.totals with
            calls := t.breaker.totals.calls + 1
            rejections := t.breaker.totals.rejections + 1 }
          reports := .rejection :: .call :: t.breaker.reports } }) ∧
      (∀ p o, (t.step s (.finish p o)).breaker.phase = t.breaker.phase ∧
        (t.step s (.finish p o)).breaker.generation = t.breaker.generation) ∧
      (∀ p, (t.step s (.cancel p)).breaker = t.breaker) ∧
      (deadline ≤ t.now →
        t.step s .start =
          ⟨⟨.halfOpen 1 0, t.breaker.generation + 1,
              { t.breaker.totals with calls := t.breaker.totals.calls + 1 },
              .state 1 :: .call :: t.breaker.reports⟩,
            t.now, t.running ++ [⟨t.breaker.generation + 1, true⟩],
            t.history ++ [.entered (t.breaker.generation + 1)]⟩) := by
  intro s before opened deadline t hg ⟨since, hb⟩ hq
  have hs : s.Sound := Settings.build_sound ..
  obtain ⟨rfl, -⟩ := Traffic.opened_now hs hg hb
  obtain ⟨hp, hsame⟩ := Traffic.run_open hb hq
  refine ⟨hp, hsame, ?_, ?_, fun p => Traffic.cancel_open hp p, Traffic.start_late hs hp⟩
  · intro ht
    exact ⟨by rw [begin_early hp ht], Traffic.start_early hp ht⟩
  · intro p o
    rw [hp]
    exact Traffic.finish_open hp p o

/-- A breaker that is tripped while it is open waits anew. A call of the closed period ends and
another one is rejected in the meantime; the next call comes just in time. -/
theorem open_until_wait_elapses_after_second_trip :
    let s := Settings.build 1 1 50 (Span.millis 2) 2
    let before := Traffic.idle.run s [.start, .trip, .advance 1000000]
    let opened := before.step s .trip
    let t := opened.run s [.finish ⟨0, false⟩ .failure, .advance 1999999, .start, .advance 1]
    before.breaker.phase = .open 0 ∧ opened.breaker.generation ≠ before.breaker.generation ∧
      t.breaker.phase = .open before.now ∧ t.breaker.totals = ⟨2, 0, 1, 1⟩ ∧
      (t.step s .start).breaker.phase = .halfOpen 1 0 := by
  have h := open_until_wait_elapses 1 1 50 2 (Span.millis 2) [.start, .trip, .advance 1000000] .trip
    [.finish ⟨0, false⟩ .failure, .advance 1999999, .start, .advance 1] (by decide)
    ⟨1000000, by decide⟩ (by decide)
  dsimp only at h ⊢
  obtain ⟨hp, -, -, -, -, hnext⟩ := h
  refine ⟨by decide, by decide, hp, by decide, ?_⟩
  rw [hnext (by decide)]

end AggregateGateway.Resilience.Breaker
