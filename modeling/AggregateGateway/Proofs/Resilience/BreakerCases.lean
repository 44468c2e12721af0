import AggregateGateway.Resilience.Breaker

/-! What a breaker does, case by case. What becomes of the phase and the generation of a breaker
follows from these two alone, whatever it has counted and reported. -/

namespace AggregateGateway.Resilience.Breaker

open Time (Moment Span)

structure Settings.Sound (s : Settings) : Prop where
  window_pos : 0 < s.window
  minimum_pos : 0 < s.minimum
  minimum_le : s.minimum ≤ s.window
  threshold_le : s.threshold ≤ 100
  permits_pos : 0 < s.permits

theorem Settings.build_sound (window minimum threshold : Nat) (openWait : Span) (permits : Nat) :
    (Settings.build window minimum threshold openWait permits).Sound := by
  constructor <;> simp only [Settings.build] <;> omega

@[simp] theorem enter_phase (b : Breaker) (phase : Phase) : (b.enter phase).phase = phase := rfl

@[simp] theorem enter_generation (b : Breaker) (phase : Phase) :
    (b.enter phase).generation = b.generation + 1 := rfl

@[simp] theorem trip_phase (now : Moment) (b : Breaker) : (b.trip now).phase = .open now := rfl

@[simp] theorem reset_phase (b : Breaker) : b.reset.phase = .closed [] := rfl

/-! ### A call begins -/

theorem acquire_closed {b : Breaker} {window : List Bool} (s : Settings) (now : Moment)
    (h : b.phase = .closed window) : b.acquire s now = (b, some ⟨b.generation, false⟩) := by
  simp only [acquire, wake, h]

theorem acquire_early {s : Settings} {now since : Moment} {b : Breaker}
    (h : b.phase = .open since) (ht : now < since + s.openWait.nanos) :
    b.acquire s now = (b, none) := by
  have hn : ¬ since + s.openWait.nanos ≤ now := Nat.not_le.mpr ht
  simp only [acquire, wake, h, hn, if_false]

theorem acquire_late {s : Settings} {now since : Moment} {b : Breaker} (hs : s.Sound)
    (h : b.phase = .open since) (ht : since + s.openWait.nanos ≤ now) :
    b.acquire s now = (b.enter (.halfOpen 1 0), some ⟨b.generation + 1, true⟩) := by
  have hp := hs.permits_pos
  have hn : ¬ s.permits ≤ 0 := by omega
  simp only [acquire, wake, h, ht, if_true, enter, report, hn, if_false, Nat.zero_add,
    Phase.gauge]

theorem acquire_full {s : Settings} {b : Breaker} {admitted succeeded : Nat} (now : Moment)
    (h : b.phase = .halfOpen admitted succeeded) (hf : s.permits ≤ admitted) :
    b.acquire s now = (b, none) := by
  simp only [acquire, wake, h, hf, if_true]

theorem acquire_trial {s : Settings} {b : Breaker} {admitted succeeded : Nat} (now : Moment)
    (h : b.phase = .halfOpen admitted succeeded) (hf : admitted < s.permits) :
    b.acquire s now =
      ({ b with phase := .halfOpen (admitted + 1) succeeded }, some ⟨b.generation, true⟩) := by
  have hn : ¬ s.permits ≤ admitted := by omega
  simp only [acquire, wake, h, hn, if_false]

/-- Whether or not there is a permit for a call, it changes the phase at most, or begins a half-open
period. -/
theorem acquire_cases (s : Settings) (now : Moment) (b : Breaker) :
    (∃ phase, phase.gauge = b.phase.gauge ∧ (b.acquire s now).1 = { b with phase }) ∨
      ∃ admitted, (b.acquire s now).1 = b.enter (.halfOpen admitted 0) := by
  cases h : b.phase with
  | closed window =>
    rw [acquire_closed s now h]
    exact .inl ⟨b.phase, congrArg Phase.gauge h, rfl⟩
  | «open» since =>
    by_cases ht : since + s.openWait.nanos ≤ now
    · have hwake : b.wake s now = b.enter (.halfOpen 0 0) := by
        simp only [wake, h, ht, if_true]
      refine .inr ?_
      by_cases hp : s.permits ≤ 0
      · exact ⟨0, by simp only [acquire, hwake, enter_phase, hp, if_true]⟩
      · exact ⟨1, by simp only [acquire, hwake, enter_phase, hp, if_false]; rfl⟩
    · rw [acquire_early h (Nat.lt_of_not_le ht)]
      exact .inl ⟨b.phase, congrArg Phase.gauge h, rfl⟩
  | halfOpen admitted succeeded =>
    rcases Nat.lt_or_ge admitted s.permits with hlt | hle
    · rw [acquire_trial now h hlt]
      exact .inl ⟨.halfOpen (admitted + 1) succeeded, rfl, rfl⟩
    · rw [acquire_full now h hle]
      exact .inl ⟨b.phase, congrArg Phase.gauge h, rfl⟩

/-- What a call is told, and what the breaker becomes, depends on its phase and generation only. -/
theorem acquire_congr {b c : Breaker} (s : Settings) (now : Moment) (hp : c.phase = b.phase)
    (hg : c.generation = b.generation) :
    (c.acquire s now).1.phase = (b.acquire s now).1.phase ∧
      (c.acquire s now).1.generation = (b.acquire s now).1.generation ∧
      (c.acquire s now).2 = (b.acquire s now).2 := by
  cases h : b.phase with
  | closed window =>
    rw [acquire_closed s now h, acquire_closed s now (hp.trans h)]
    exact ⟨hp, hg, by rw [hg]⟩
  | «open» since =>
    by_cases ht : since + s.openWait.nanos ≤ now
    · by_cases hz : s.permits ≤ 0 <;>
        simp [acquire, wake, hp.trans h, h, ht, enter, report, hz, hg]
    · have ht' := Nat.lt_of_not_le ht
      rw [acquire_early h ht', acquire_early (hp.trans h) ht']
      exact ⟨hp, hg, rfl⟩
  | halfOpen admitted succeeded =>
    rcases Nat.lt_or_ge admitted s.permits with hlt | hle
    · rw [acquire_trial now h hlt, acquire_trial now (hp.trans h) hlt]
      exact ⟨rfl, hg, by rw [hg]⟩
    · rw [acquire_full now h hle, acquire_full now (hp.trans h) hle]
      exact ⟨hp, hg, rfl⟩

theorem begin_cases (s : Settings) (now : Moment) (b : Breaker) :
    (∃ after p, b.countCall.acquire s now = (after, some p) ∧ b.begin s now = (after, some p)) ∨
      ∃ after, b.countCall.acquire s now = (after, none) ∧
        b.begin s now = (after.countRejection, none) := by
  simp only [begin]
  rcases b.countCall.acquire s now with ⟨after, _ | p⟩
  · exact .inr ⟨after, rfl, rfl⟩
  · exact .inl ⟨after, p, rfl, rfl⟩

/-- A call begins as the breaker admits it, whatever has been counted. -/
theorem begin_eq_acquire (s : Settings) (now : Moment) (b : Breaker) :
    (b.begin s now).1.phase = (b.acquire s now).1.phase ∧
      (b.begin s now).1.generation = (b.acquire s now).1.generation ∧
      (b.begin s now).2 = (b.acquire s now).2 := by
  obtain ⟨hp, hg, ho⟩ := acquire_congr (b := b) (c := b.countCall) s now rfl rfl
  rw [← hp, ← hg, ← ho]
  rcases begin_cases s now b with ⟨after, p, ha, hb⟩ | ⟨after, ha, hb⟩ <;>
    rw [ha, hb] <;> exact ⟨rfl, rfl, rfl⟩

/-! ### A call ends -/

theorem record_closed_ignored {b : Breaker} {window : List Bool} (s : Settings) (now : Moment)
    (p : Permit) (h : b.phase = .closed window) : b.record s now p .ignored = b := by
  simp only [record, h]

theorem record_closed {b : Breaker} {window : List Bool} {o : Outcome} (s : Settings)
    (now : Moment) (p : Permit) (h : b.phase = .closed window) (ho : o ≠ .ignored) :
    b.record s now p o =
      if isTripping s (slide s.window window (o == .failure)) then b.enter (.open now)
      else { b with phase := .closed (slide s.window window (o == .failure)) } := by
  cases o with
  | ignored => exact absurd rfl ho
  | success | failure => simp only [record, h]

theorem record_open {b : Breaker} {since : Moment} (s : Settings) (now : Moment) (p : Permit)
    (o : Outcome) (h : b.phase = .open since) : b.record s now p o = b := by
  simp only [record, h]

theorem record_stale {b : Breaker} {p : Permit} {admitted succeeded : Nat} (s : Settings)
    (now : Moment) (o : Outcome) (h : b.phase = .halfOpen admitted succeeded)
    (hg : p.generation ≠ b.generation) : b.record s now p o = b := by
  simp only [record, h, ne_eq, hg.symm, not_false_eq_true, if_true]

theorem record_success {b : Breaker} {p : Permit} {admitted succeeded : Nat} (s : Settings)
    (now : Moment) (h : b.phase = .halfOpen admitted succeeded)
    (hg : p.generation = b.generation) :
    b.record s now p .success =
      if s.permits ≤ succeeded + 1 then b.enter (.closed [])
      else { b with phase := .halfOpen admitted (succeeded + 1) } := by
  simp only [record, h, hg, ne_eq, not_true_eq_false, if_false]

theorem record_failure {b : Breaker} {p : Permit} {admitted succeeded : Nat} (s : Settings)
    (now : Moment) (h : b.phase = .halfOpen admitted succeeded)
    (hg : p.generation = b.generation) : b.record s now p .failure = b.enter (.open now) := by
  simp only [record, h, hg, ne_eq, not_true_eq_false, if_false]

theorem record_ignored {b : Breaker} {p : Permit} {admitted succeeded : Nat} (s : Settings)
    (now : Moment) (h : b.phase = .halfOpen admitted succeeded)
    (hg : p.generation = b.generation) :
    b.record s now p .ignored = { b with phase := .halfOpen (admitted - 1) succeeded } := by
  simp only [record, h, hg, ne_eq, not_true_eq_false, if_false]

/-- An outcome changes the phase at most, or opens the breaker, or closes it. -/
theorem record_cases (s : Settings) (now : Moment) (p : Permit) (o : Outcome) (b : Breaker) :
    (∃ phase, phase.gauge = b.phase.gauge ∧ b.record s now p o = { b with phase }) ∨
      b.record s now p o = b.enter (.open now) ∨ b.record s now p o = b.enter (.closed []) := by
  cases hb : b.phase with
  | closed window =>
    by_cases ho : o = .ignored
    · rw [ho, record_closed_ignored s now p hb]
      exact .inl ⟨b.phase, congrArg Phase.gauge hb, rfl⟩
    · rw [record_closed s now p hb ho]
      split
      · exact .inr (.inl rfl)
      · exact .inl ⟨.closed (slide s.window window (o == .failure)), rfl, rfl⟩
  | «open» since =>
    rw [record_open s now p o hb]
    exact .inl ⟨b.phase, congrArg Phase.gauge hb, rfl⟩
  | halfOpen admitted succeeded =>
    by_cases hg : p.generation = b.generation
    · cases o with
      | success =>
        rw [record_success s now hb hg]
        split
        · exact .inr (.inr rfl)
        · exact .inl ⟨.halfOpen admitted (succeeded + 1), rfl, rfl⟩
      | failure =>
        rw [record_failure s now hb hg]
        exact .inr (.inl rfl)
      | ignored =>
        rw [record_ignored s now hb hg]
        exact .inl ⟨.halfOpen (admitted - 1) succeeded, rfl, rfl⟩
    · rw [record_stale s now o hb hg]
      exact .inl ⟨b.phase, congrArg Phase.gauge hb, rfl⟩

theorem finish_phase (s : Settings) (now : Moment) (p : Permit) (o : Outcome) (b : Breaker) :
    (b.finish s now p o).phase = (b.record s now p o).phase := by
  cases o <;> rfl

theorem finish_generation (s : Settings) (now : Moment) (p : Permit) (o : Outcome) (b : Breaker) :
    (b.finish s now p o).generation = (b.record s now p o).generation := by
  cases o <;> rfl

/-! ### A call is given up -/

theorem abandon_trial {b : Breaker} {p : Permit} {admitted succeeded : Nat}
    (h : b.phase = .halfOpen admitted succeeded) (ht : p.isTrial = true)
    (hg : p.generation = b.generation) :
    b.abandon p = { b with phase := .halfOpen (admitted - 1) succeeded } := by
  simp only [abandon, h, ht, hg, beq_self_eq_true, Bool.and_self, if_true]

theorem abandon_stale {b : Breaker} {p : Permit} (hg : p.generation ≠ b.generation) :
    b.abandon p = b := by
  have hn : (b.generation == p.generation) = false := by simpa using hg.symm
  cases h : b.phase <;> simp only [abandon, h, hn, Bool.and_false, Bool.false_eq_true, if_false]

theorem abandon_halfOpen {b : Breaker} {admitted succeeded : Nat} (p : Permit)
    (h : b.phase = .halfOpen admitted succeeded) :
    ∃ left, (b.abandon p).phase = .halfOpen left succeeded := by
  simp only [abandon, h]
  split
  · exact ⟨admitted - 1, rfl⟩
  · exact ⟨admitted, h⟩

theorem abandon_of_not_halfOpen {b : Breaker} (p : Permit)
    (h : ∀ admitted succeeded, b.phase ≠ .halfOpen admitted succeeded) : b.abandon p = b := by
  cases hb : b.phase with
  | halfOpen admitted succeeded => exact absurd hb (h admitted succeeded)
  | closed | «open» => simp only [abandon, hb]

/-! ### How a generation begins -/

theorem begin_entered {s : Settings} (hs : s.Sound) (now : Moment) (b : Breaker) :
    (b.begin s now).1.generation = b.generation ∨
      (b.begin s now).1.generation = b.generation + 1 ∧
        (b.begin s now).1.phase = .halfOpen 1 0 := by
  obtain ⟨hp, hg, -⟩ := begin_eq_acquire s now b
  rw [hp, hg]
  cases hb : b.phase with
  | closed window =>
    rw [acquire_closed s now hb]
    exact .inl rfl
  | «open» since =>
    rcases Nat.lt_or_ge now (since + s.openWait.nanos) with ht | ht
    · rw [acquire_early hb ht]
      exact .inl rfl
    · rw [acquire_late hs hb ht]
      exact .inr ⟨rfl, rfl⟩
  | halfOpen admitted succeeded =>
    rcases Nat.lt_or_ge admitted s.permits with hlt | hle
    · rw [acquire_trial now hb hlt]
      exact .inl rfl
    · rw [acquire_full now hb hle]
      exact .inl rfl

theorem record_entered (s : Settings) (now : Moment) (p : Permit) (o : Outcome) (b : Breaker) :
    (b.record s now p o).generation = b.generation ∨
      (b.record s now p o).generation = b.generation + 1 ∧
        ((b.record s now p o).phase = .open now ∨ (b.record s now p o).phase = .closed []) := by
  rcases record_cases s now p o b with ⟨phase, -, h⟩ | h | h <;> rw [h]
  · exact .inl rfl
  · exact .inr ⟨rfl, .inl rfl⟩
  · exact .inr ⟨rfl, .inr rfl⟩

theorem abandon_generation (p : Permit) (b : Breaker) :
    (b.abandon p).generation = b.generation := by
  unfold abandon
  split
  · split <;> rfl
  · rfl

end AggregateGateway.Resilience.Breaker
