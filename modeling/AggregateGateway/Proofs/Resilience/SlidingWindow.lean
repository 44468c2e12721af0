import AggregateGateway.Proofs.Resilience.BreakerTraffic
import Mathlib.Data.List.DropRight

/-! The window of a closed breaker is the end of the list of all outcomes that it has met since it
was closed, and the breaker opens by the judgement of that window or by force. -/

namespace AggregateGateway.Resilience.Breaker

open Time (Moment Span)

/-- How calls have ended since the present generation began, oldest first. -/
def sinceEntry (history : List Occurrence) : List Outcome :=
  history.foldl note []
where
  note (outcomes : List Outcome) : Occurrence → List Outcome
    | .ended _ o => outcomes ++ [o]
    | .entered _ => []

/-- Successes and failures, which are marked by true; ignored outcomes do not count. -/
def counted (outcomes : List Outcome) : List Bool :=
  (outcomes.filter (· != .ignored)).map (· == .failure)

theorem sinceEntry_ended (history : List Occurrence) (p : Permit) (o : Outcome) :
    sinceEntry (history ++ [.ended p o]) = sinceEntry history ++ [o] := by
  simp only [sinceEntry, List.foldl_append, List.foldl_cons, List.foldl_nil, sinceEntry.note]

theorem sinceEntry_entered (history : List Occurrence) (generation : Nat) :
    sinceEntry (history ++ [.entered generation]) = [] := by
  simp only [sinceEntry, List.foldl_append, List.foldl_cons, List.foldl_nil, sinceEntry.note]

@[simp] theorem counted_nil : counted [] = [] := rfl

theorem counted_ignored (outcomes : List Outcome) :
    counted (outcomes ++ [.ignored]) = counted outcomes := by
  simp [counted]

theorem counted_append_one (outcomes : List Outcome) {o : Outcome} (ho : o ≠ .ignored) :
    counted (outcomes ++ [o]) = counted outcomes ++ [o == .failure] := by
  simp [counted, ho]

/-- Sliding on keeps a window the end of the list. -/
theorem slide_rtake {size : Nat} (hs : 0 < size) (outcomes : List Bool) (failed : Bool) :
    slide size (outcomes.rtake size) failed = (outcomes ++ [failed]).rtake size := by
  obtain ⟨n, rfl⟩ : ∃ n, size = n + 1 := ⟨size - 1, by omega⟩
  rw [List.rtake_concat_succ]
  unfold slide
  split
  · rename_i hlen
    have hle : n + 1 ≤ outcomes.length := by
      simp only [List.rtake, List.length_drop] at hlen
      omega
    have hd : outcomes.length - (n + 1) + 1 = outcomes.length - n := by omega
    simp only [List.rtake, List.tail_drop, hd]
  · rename_i hlen
    have hlt : outcomes.length < n + 1 := by
      simp only [List.rtake, List.length_drop] at hlen
      omega
    have hz : outcomes.length - (n + 1) = 0 := by omega
    have hz' : outcomes.length - n = 0 := by omega
    simp only [List.rtake, hz, hz']

theorem isTripping_iff (s : Settings) (window : List Bool) :
    isTripping s window = true ↔
      s.minimum ≤ window.length ∧ s.threshold * window.length ≤ failures window * 100 := by
  simp only [isTripping, Bool.and_eq_true, decide_eq_true_eq]

theorem not_isTripping_nil {s : Settings} (hs : s.Sound) : isTripping s [] = false := by
  have hm := hs.minimum_pos
  have hn : ¬ s.minimum ≤ 0 := by omega
  simp only [isTripping, List.length_nil, hn, decide_false, Bool.false_and]

/-- What a closed breaker remembers of the outcomes. -/
def Windowed (s : Settings) (t : Traffic) : Prop :=
  ∀ window, t.breaker.phase = .closed window →
    window = (counted (sinceEntry t.history)).rtake s.window ∧ isTripping s window = false

namespace Windowed

variable {s : Settings} {t : Traffic}

theorem idle (hs : s.Sound) : Windowed s .idle := by
  intro window hw
  obtain rfl := Phase.closed.inj hw
  exact ⟨by simp [Traffic.idle, sinceEntry], not_isTripping_nil hs⟩

theorem turn_entered {b : Breaker} (hs : s.Sound) (hg : b.generation = t.breaker.generation + 1)
    (hb : b.phase = .closed []) : Windowed s (t.turn b) := by
  intro window hw
  obtain rfl := Phase.closed.inj (hb.symm.trans hw)
  have hn : b.generation ≠ t.breaker.generation := by omega
  rw [Traffic.turn_history_entered hn, sinceEntry_entered, counted_nil, List.rtake_nil]
  exact ⟨rfl, not_isTripping_nil hs⟩

theorem turn_same {b : Breaker} (h : Windowed s t) (hg : b.generation = t.breaker.generation)
    (hb : b.phase = t.breaker.phase) : Windowed s (t.turn b) := by
  intro window hw
  rw [Traffic.turn_history_same hg]
  exact h window (hb.symm.trans hw)

theorem turn_not_closed {b : Breaker} {phase : Phase} (hb : b.phase = phase)
    (hn : ∀ window, phase ≠ .closed window) : Windowed s (t.turn b) :=
  fun window hw => absurd (hb.symm.trans hw) (hn window)

theorem ended_ignored {p : Permit} (h : Windowed s t) : Windowed s (t.ended p .ignored) := by
  intro window hw
  obtain ⟨heq, hnt⟩ := h window hw
  refine ⟨?_, hnt⟩
  rw [Traffic.ended, sinceEntry_ended, counted_ignored]
  exact heq

theorem start (h : Windowed s t) (hs : s.Sound) : Windowed s (t.step s .start) := by
  obtain ⟨hp, hg, -⟩ := begin_eq_acquire s t.now t.breaker
  cases hb : t.breaker.phase with
  | closed window =>
    rw [acquire_closed s t.now hb] at hp hg
    exact h.turn_same hg hp
  | «open» since =>
    rcases Nat.lt_or_ge t.now (since + s.openWait.nanos) with ht | ht
    · rw [acquire_early hb ht] at hp
      exact turn_not_closed (hp.trans hb) (by simp)
    · rw [acquire_late hs hb ht] at hp
      exact turn_not_closed hp (by simp)
  | halfOpen admitted succeeded =>
    rcases Nat.lt_or_ge admitted s.permits with hlt | hle
    · rw [acquire_trial t.now hb hlt] at hp
      exact turn_not_closed hp (by simp)
    · rw [acquire_full t.now hb hle] at hp
      exact turn_not_closed (hp.trans hb) (by simp)

/-- An outcome that counts and does not open the breaker is the newest of the window. -/
theorem finish_counted {p : Permit} {window : List Bool} {o : Outcome} (h : Windowed s t)
    (hs : s.Sound) (hb : t.breaker.phase = .closed window) (ho : o ≠ .ignored)
    (hnt : isTripping s (slide s.window window (o == .failure)) = false) :
    Windowed s ((t.ended p o).turn (t.breaker.finish s t.now p o)) := by
  have hp := finish_phase s t.now p o t.breaker
  have hg := finish_generation s t.now p o t.breaker
  rw [record_closed s t.now p hb ho, hnt, if_neg Bool.false_ne_true] at hp hg
  intro window' hw
  obtain rfl := Phase.closed.inj (hp.symm.trans hw)
  refine ⟨?_, hnt⟩
  rw [Traffic.turn_history_same (t := t.ended p o) hg, Traffic.ended, sinceEntry_ended,
    counted_append_one _ ho, ← slide_rtake hs.window_pos, ← (h window hb).1]

theorem finish {p : Permit} (h : Windowed s t) (hs : s.Sound) (o : Outcome) :
    Windowed s ((t.ended p o).turn (t.breaker.finish s t.now p o)) := by
  have hp := finish_phase s t.now p o t.breaker
  have hg := finish_generation s t.now p o t.breaker
  cases hb : t.breaker.phase with
  | closed window =>
    by_cases ho : o = .ignored
    · subst ho
      rw [record_closed_ignored s t.now p hb] at hp hg
      exact h.ended_ignored.turn_same hg hp
    · cases hnt : isTripping s (slide s.window window (o == .failure)) with
      | true =>
        rw [record_closed s t.now p hb ho, hnt, if_pos rfl] at hp
        exact turn_not_closed hp (by simp)
      | false => exact h.finish_counted hs hb ho hnt
  | «open» since =>
    rw [record_open s t.now p o hb] at hp
    exact turn_not_closed (hp.trans hb) (by simp)
  | halfOpen admitted succeeded =>
    by_cases hpg : p.generation = t.breaker.generation
    · cases o with
      | success =>
        rw [record_success s t.now hb hpg] at hp hg
        by_cases hlast : s.permits ≤ succeeded + 1
        · rw [if_pos hlast] at hp hg
          exact turn_entered hs hg hp
        · rw [if_neg hlast] at hp
          exact turn_not_closed hp (by simp)
      | failure =>
        rw [record_failure s t.now hb hpg] at hp
        exact turn_not_closed hp (by simp)
      | ignored =>
        rw [record_ignored s t.now hb hpg] at hp
        exact turn_not_closed hp (by simp)
    · rw [record_stale s t.now o hb hpg] at hp
      exact turn_not_closed (hp.trans hb) (by simp)

theorem cancel {p : Permit} (h : Windowed s t) :
    Windowed s ({ t with running := t.running.erase p }.turn (t.breaker.abandon p)) := by
  by_cases hb : ∃ admitted succeeded, t.breaker.phase = .halfOpen admitted succeeded
  · obtain ⟨admitted, succeeded, hb⟩ := hb
    obtain ⟨left, hp⟩ := abandon_halfOpen p hb
    exact turn_not_closed hp (by simp)
  · rw [abandon_of_not_halfOpen p (by simpa using hb)]
    exact turn_same (t := { t with running := t.running.erase p }) h rfl rfl

theorem step (h : Windowed s t) (hs : s.Sound) (a : Action) : Windowed s (t.step s a) := by
  cases a with
  | start => exact h.start hs
  | finish p o =>
    by_cases hm : p ∈ t.running
    · rw [Traffic.step_finish s o hm]
      exact h.finish hs o
    · rw [Traffic.step_finish_idle s o hm]
      exact h
  | cancel p =>
    by_cases hm : p ∈ t.running
    · rw [Traffic.step_cancel s hm]
      exact h.cancel
    · rw [Traffic.step_cancel_idle s hm]
      exact h
  | trip => exact turn_not_closed (trip_phase ..) (by simp)
  | reset => exact turn_entered hs rfl rfl
  | advance nanos => exact h

theorem run (hs : s.Sound) (actions : List Action) : Windowed s (Traffic.idle.run s actions) :=
  Traffic.run_induction (idle hs) (fun _ a h => h.step hs a) actions

end Windowed

/-- A closed breaker opens by force or because of an outcome that counts. -/
theorem opens_iff {s : Settings} {t : Traffic} {window : List Bool}
    (h : t.breaker.phase = .closed window) (a : Action) :
    (∃ since, (t.step s a).breaker.phase = .open since) ↔
      a = .trip ∨ ∃ p o, a = .finish p o ∧ p ∈ t.running ∧ o ≠ .ignored ∧
        isTripping s (slide s.window window (o == .failure)) = true := by
  cases a with
  | start =>
    have hp := (begin_eq_acquire s t.now t.breaker).1
    rw [acquire_closed s t.now h] at hp
    simp [Traffic.step, hp, h]
  | finish p o =>
    by_cases hm : p ∈ t.running
    · have hp := finish_phase s t.now p o t.breaker
      rw [Traffic.step_finish s o hm, Traffic.turn_breaker, hp]
      by_cases ho : o = .ignored
      · rw [ho, record_closed_ignored s t.now p h]
        simp [h]
      · rw [record_closed s t.now p h ho]
        cases htrip : isTripping s (slide s.window window (o == .failure)) <;>
          simp [hm, ho, htrip]
    · rw [Traffic.step_finish_idle s o hm]
      simp [h, hm]
  | cancel p =>
    by_cases hm : p ∈ t.running
    · rw [Traffic.step_cancel s hm, Traffic.turn_breaker, abandon_of_not_halfOpen p (by simp [h])]
      simp [h]
    · rw [Traffic.step_cancel_idle s hm]
      simp [h]
  | trip => simp [Traffic.step]
  | reset => simp [Traffic.step]
  | advance nanos => simp [Traffic.step, h]

/-- While a breaker is closed its window is the last of the outcomes since it was closed and is
below the minimum or below the threshold. Besides by force it opens exactly on an outcome after
which this is no longer so. -/
theorem window_refines_last_outcomes (window minimum threshold permits : Nat) (openWait : Span)
    (actions : List Action) :
    let s := Settings.build window minimum threshold openWait permits
    let t := Traffic.idle.run s actions
    ∀ kept, t.breaker.phase = .closed kept →
      kept = (counted (sinceEntry t.history)).rtake s.window ∧
      (kept.length < s.minimum ∨ failures kept * 100 < s.threshold * kept.length) ∧
      ∀ a, (∃ since, (t.step s a).breaker.phase = .open since) ↔
        a = .trip ∨ ∃ p o, a = .finish p o ∧ p ∈ t.running ∧ o ≠ .ignored ∧
          let after := (counted (sinceEntry t.history ++ [o])).rtake s.window
          s.minimum ≤ after.length ∧ s.threshold * after.length ≤ failures after * 100 := by
  intro s t kept hk
  have hs : s.Sound := Settings.build_sound ..
  obtain ⟨heq, hnt⟩ := Windowed.run hs actions kept hk
  refine ⟨heq, ?_, ?_⟩
  · have hn := (isTripping_iff s kept).not.mp (by simp [hnt])
    omega
  · intro a
    rw [opens_iff hk a]
    have hafter : ∀ o, o ≠ .ignored → (counted (sinceEntry t.history ++ [o])).rtake s.window =
        slide s.window kept (o == .failure) := by
      intro o ho
      rw [counted_append_one _ ho, ← slide_rtake hs.window_pos, ← heq]
    constructor
    · rintro (ha | ⟨p, o, ha, hm, ho, htrip⟩)
      · exact .inl ha
      · refine .inr ⟨p, o, ha, hm, ho, ?_⟩
        rw [hafter o ho]
        exact (isTripping_iff s _).mp htrip
    · rintro (ha | ⟨p, o, ha, hm, ho, hjudged⟩)
      · exact .inl ha
      · refine .inr ⟨p, o, ha, hm, ho, (isTripping_iff s _).mpr ?_⟩
        rw [← hafter o ho]
        exact hjudged

/-- The oldest outcome has left the window, and a second failure in a row opens the breaker. -/
theorem window_slides_then_opens :
    let s := Settings.build 2 2 60 Span.zero 1
    let p : Permit := ⟨0, false⟩
    let actions : List Action := [.start, .start, .start, .start, .finish p .failure,
      .finish p .success, .finish p .failure]
    let t := Traffic.idle.run s actions
    t.breaker.phase = .closed [false, true] ∧
      [false, true] = (counted (sinceEntry t.history)).rtake s.window ∧
      ∃ since, (t.step s (.finish p .failure)).breaker.phase = .open since := by
  have h := window_refines_last_outcomes 2 2 60 1 Span.zero [.start, .start, .start, .start,
    .finish ⟨0, false⟩ .failure, .finish ⟨0, false⟩ .success, .finish ⟨0, false⟩ .failure]
    [false, true] (by decide)
  dsimp only at h ⊢
  obtain ⟨heq, -, hopens⟩ := h
  refine ⟨by decide, heq, (hopens _).mpr (.inr ⟨_, _, rfl, by decide, by decide, ?_⟩)⟩
  decide

end AggregateGateway.Resilience.Breaker
