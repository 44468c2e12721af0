import AggregateGateway.Proofs.Resilience.SlidingWindow

/-! Calls that outlive the period in which they were admitted. An open or half-open breaker takes no
notice of how they end, but a closed one counts them among the calls of its own period. -/

namespace AggregateGateway.Resilience.Breaker

open Time (Moment Span)

theorem append_one_eq_cons {window : List Bool} {failed first : Bool}
    (h : window ++ [failed] = first :: window) :
    first = failed ∧ window = List.replicate window.length failed := by
  induction window generalizing first with
  | nil =>
    simp only [List.nil_append, List.cons.injEq, and_true] at h
    exact ⟨h.symm, rfl⟩
  | cons second rest ih =>
    simp only [List.cons_append, List.cons.injEq] at h
    obtain ⟨rfl, hrest⟩ := ih h.2
    refine ⟨h.1.symm, ?_⟩
    simp only [List.length_cons, List.replicate_succ, ← hrest]

/-- Only a full window of equal outcomes stays the same when another of them comes in. -/
theorem slide_eq_self_iff {size : Nat} (hs : 0 < size) (window : List Bool) (failed : Bool) :
    slide size window failed = window ↔ window = List.replicate size failed := by
  constructor
  · intro h
    have hfull : window.length = size := by
      by_contra hne
      rw [slide, if_neg hne] at h
      simpa using congrArg List.length h
    rw [slide, if_pos hfull] at h
    cases window with
    | nil => simp at h
    | cons first rest =>
      obtain ⟨rfl, hrest⟩ := append_one_eq_cons h
      rw [← hfull, List.length_cons, List.replicate_succ]
      exact congrArg (first :: ·) hrest
  · rintro rfl
    obtain ⟨n, rfl⟩ : ∃ n, size = n + 1 := ⟨size - 1, by omega⟩
    rw [slide, if_pos List.length_replicate, List.tail_replicate, Nat.add_sub_cancel,
      ← List.replicate_succ']

theorem record_stale_of_not_closed {b : Breaker} {p : Permit} (s : Settings) (now : Moment)
    (o : Outcome) (hg : p.generation ≠ b.generation) (hb : ∀ window, b.phase ≠ .closed window) :
    b.record s now p o = b := by
  cases h : b.phase with
  | closed window => exact absurd h (hb window)
  | «open» since => exact record_open s now p o h
  | halfOpen admitted succeeded => exact record_stale s now o h hg

theorem record_closed_any {b : Breaker} {window : List Bool} (s : Settings) (now : Moment)
    (p q : Permit) (o : Outcome) (h : b.phase = .closed window) :
    b.record s now p o = b.record s now q o := by
  by_cases ho : o = .ignored
  · rw [ho, record_closed_ignored s now p h, record_closed_ignored s now q h]
  · rw [record_closed s now p h ho, record_closed s now q h ho]

theorem record_closed_same_iff {s : Settings} {b : Breaker} {window : List Bool}
    (hs : s.Sound) (h : b.phase = .closed window) (hnt : isTripping s window = false)
    (now : Moment) (p : Permit) (o : Outcome) :
    (b.record s now p o).phase = b.phase ∧ (b.record s now p o).generation = b.generation ↔
      o = .ignored ∨ window = List.replicate s.window (o == .failure) := by
  by_cases ho : o = .ignored
  · simp [ho, record_closed_ignored s now p h]
  rw [record_closed s now p h ho, ← slide_eq_self_iff hs.window_pos, h]
  cases htrip : isTripping s (slide s.window window (o == .failure)) with
  | true =>
    have hne : slide s.window window (o == .failure) ≠ window := by
      intro heq
      rw [heq, hnt] at htrip
      exact Bool.false_ne_true htrip
    simp [ho, hne]
  | false => simp [ho]

/-- Giving up a call of an earlier generation changes nothing. Its end changes the phase or the
generation exactly if the breaker is closed, the outcome is not ignored and the window is not
already full of such outcomes; whenever the breaker is closed, it counts like that of any other
call. -/
theorem stale_outcome_counts_iff_closed (window minimum threshold permits : Nat)
    (openWait : Span) (actions : List Action) :
    let s := Settings.build window minimum threshold openWait permits
    let t := Traffic.idle.run s actions
    ∀ p ∈ t.running, p.generation ≠ t.breaker.generation →
      (t.step s (.cancel p)).breaker = t.breaker ∧
      ∀ o, let b := (t.step s (.finish p o)).breaker
        (b.phase = t.breaker.phase ∧ b.generation = t.breaker.generation ↔
          ∀ kept, t.breaker.phase = .closed kept →
            o = .ignored ∨ kept = List.replicate s.window (o == .failure)) ∧
        ∀ kept, t.breaker.phase = .closed kept → ∀ q, b = t.breaker.finish s t.now q o := by
  intro s t p hm hg
  have hs : s.Sound := Settings.build_sound ..
  have hwin : Windowed s t := Windowed.run hs actions
  refine ⟨?_, ?_⟩
  · rw [Traffic.step_cancel s hm, Traffic.turn_breaker]
    exact abandon_stale hg
  · intro o b
    have hb : b = t.breaker.finish s t.now p o := by
      rw [show b = (t.step s (.finish p o)).breaker from rfl, Traffic.step_finish s o hm,
        Traffic.turn_breaker]
    rw [hb, finish_phase, finish_generation]
    by_cases hc : ∃ kept, t.breaker.phase = .closed kept
    · obtain ⟨kept, hk⟩ := hc
      rw [record_closed_same_iff hs hk (hwin kept hk).2]
      simp only [hk, Phase.closed.injEq, forall_eq', true_and]
      intro q
      cases o <;> simp only [finish, record_closed_any s t.now p q _ hk]
    · have hn : ∀ kept, t.breaker.phase ≠ .closed kept := by simpa using hc
      rw [record_stale_of_not_closed s t.now o hg hn]
      simp only [hn, false_imp_iff, implies_true, and_self]

/-- A call from before the breaker was tripped fails when the breaker has recovered. It is the only
call that has failed, and it opens the breaker again. -/
theorem late_failure_opens_again :
    let s := Settings.build 1 1 50 (Span.millis 1000) 1
    let t := Traffic.idle.run s [.start, .trip, .advance 1000000000, .start,
      .finish ⟨2, true⟩ .success]
    let p : Permit := ⟨0, false⟩
    p ∈ t.running ∧ p.generation ≠ t.breaker.generation ∧ t.breaker.phase = .closed [] ∧
      (t.step s (.finish p .failure)).breaker.phase = .open 1000000000 := by
  decide

theorem late_success_counts :
    let s := Settings.build 2 1 50 (Span.millis 1000) 1
    let t := Traffic.idle.run s [.start, .start, .reset]
    let p : Permit := ⟨0, false⟩
    p ∈ t.running ∧ p.generation ≠ t.breaker.generation ∧
      (t.step s (.cancel p)).breaker = t.breaker ∧
      ¬ ((t.step s (.finish p .success)).breaker.phase = t.breaker.phase ∧
        (t.step s (.finish p .success)).breaker.generation = t.breaker.generation) := by
  intro s t p
  have hm : p ∈ t.running := by decide
  have hg : p.generation ≠ t.breaker.generation := by decide
  obtain ⟨hcancel, hfinish⟩ := stale_outcome_counts_iff_closed 2 1 50 1 (Span.millis 1000)
    [.start, .start, .reset] p hm hg
  refine ⟨hm, hg, hcancel, ?_⟩
  intro hsame
  rcases (hfinish .success).1.mp hsame [] (by decide) with ho | hw
  · exact absurd ho (by decide)
  · exact absurd hw (by decide)

end AggregateGateway.Resilience.Breaker
