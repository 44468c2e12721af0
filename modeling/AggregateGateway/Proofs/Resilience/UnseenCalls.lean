import AggregateGateway.Proofs.Resilience.CallAccounting
import AggregateGateway.Proofs.Resilience.TrialPermits

/-! Calls one after the other. Those that were rejected, ignored or given up leave nothing behind:
without them the other calls are answered alike and the breaker ends in the same state, except that
it may still have to notice that its wait is over. -/

namespace AggregateGateway.Resilience.Breaker

open Time (Moment Span)

/-- What happens to a breaker besides calls. -/
inductive Change where
  | trip
  | reset
  | advance (nanos : Nat)

def Change.action : Change → Action
  | .trip => .trip
  | .reset => .reset
  | .advance nanos => .advance nanos

/-- How a call ends that was admitted. -/
inductive Ending where
  | finished (o : Outcome)
  | cancelled
  deriving DecidableEq

def Ending.action (p : Permit) : Ending → Action
  | .finished o => .finish p o
  | .cancelled => .cancel p

inductive Answer where
  | rejected
  | ended (e : Ending)
  deriving DecidableEq

/-- The breaker takes notice of successes and failures. -/
def Answer.isSeen : Answer → Bool
  | .ended (.finished .success) | .ended (.finished .failure) => true
  | _ => false

/-- What happens to a breaker in turn. No call begins before the one before it has ended; the last
one may still be running. -/
inductive Course where
  | done
  | change (c : Change) (rest : Course)
  | call (meanwhile : List Change) (ending : Ending) (rest : Course)
  | running (meanwhile : List Change)

namespace Traffic

def changed (s : Settings) (t : Traffic) (changes : List Change) : Traffic :=
  t.run s (changes.map Change.action)

/-- A call from its beginning to its end. One that is rejected ends at once. -/
def called (s : Settings) (t : Traffic) (meanwhile : List Change) (ending : Ending) :
    Traffic × Answer :=
  let later := (t.step s .start).changed s meanwhile
  match (t.breaker.begin s t.now).2 with
  | none => (later, .rejected)
  | some p => (later.step s (ending.action p), .ended ending)

end Traffic

namespace Course

/-- The traffic at the end of a course and the answers to its calls. -/
def play (s : Settings) : Course → Traffic → Traffic × List Answer
  | .done, t => (t, [])
  | .change c rest, t => rest.play s (t.step s c.action)
  | .call meanwhile ending rest, t =>
    let (t, answer) := t.called s meanwhile ending
    let (t, answers) := rest.play s t
    (t, answer :: answers)
  | .running meanwhile, t =>
    ((t.step s .start).changed s meanwhile,
      if (t.breaker.begin s t.now).2.isNone then [.rejected] else [])

/-- A course after some changes. -/
def after (changes : List Change) (rest : Course) : Course :=
  changes.foldr .change rest

/-- The course without its calls that were rejected, ignored or given up. What happened while they
ran stays. -/
def seen (s : Settings) : Course → Traffic → Course
  | .done, _ => .done
  | .change c rest, t => .change c (rest.seen s (t.step s c.action))
  | .call meanwhile ending rest, t =>
    let (t, answer) := t.called s meanwhile ending
    if answer.isSeen then .call meanwhile ending (rest.seen s t) else after meanwhile (rest.seen s t)
  | .running meanwhile, t =>
    if (t.breaker.begin s t.now).2.isNone then after meanwhile .done else .running meanwhile

theorem play_after (s : Settings) (changes : List Change) (rest : Course) (t : Traffic) :
    (after changes rest).play s t = rest.play s (t.changed s changes) := by
  induction changes generalizing t with
  | nil => rfl
  | cons c changes ih => exact ih (t.step s c.action)

end Course

/-- The same phase, except that the first breaker may have noticed the end of a wait that the second
has yet to notice. -/
inductive Alike (s : Settings) (now : Moment) : Phase → Phase → Prop
  | same (phase : Phase) : Alike s now phase phase
  | woken {since : Moment} (h : since + s.openWait.nanos ≤ now) :
    Alike s now (.halfOpen 0 0) (.open since)

theorem Alike.later {s : Settings} {now later : Moment} {phase phase' : Phase}
    (h : Alike s now phase phase') (hl : now ≤ later) : Alike s later phase phase' := by
  cases h with
  | same => exact .same _
  | woken h => exact .woken (Nat.le_trans h hl)

/-! ### One call -/

section Call

variable {s : Settings} {b b' : Breaker} {p p' : Permit} {now : Moment}

/-- How a call begins. -/
inductive Begun (s : Settings) (now : Moment) (b after : Breaker) : Option Permit → Prop
  | rejected (hafter : after.phase = b.phase) : Begun s now b after none
  | closed {window : List Bool} (hb : b.phase = .closed window)
    (hafter : after.phase = .closed window) : Begun s now b after (some ⟨b.generation, false⟩)
  | woken {since : Moment} (hb : b.phase = .open since) (ht : since + s.openWait.nanos ≤ now)
    (hafter : after.phase = .halfOpen 1 0) (hg : after.generation = b.generation + 1) :
    Begun s now b after (some ⟨b.generation + 1, true⟩)
  | trial {admitted succeeded : Nat} (hb : b.phase = .halfOpen admitted succeeded)
    (hafter : after.phase = .halfOpen (admitted + 1) succeeded)
    (hg : after.generation = b.generation) : Begun s now b after (some ⟨b.generation, true⟩)

theorem begin_begun (hs : s.Sound) (now : Moment) (b : Breaker) :
    Begun s now b (b.begin s now).1 (b.begin s now).2 := by
  obtain ⟨hp, hg, hadm⟩ := begin_eq_acquire s now b
  rw [hadm]
  cases hb : b.phase with
  | closed window =>
    rw [acquire_closed s now hb] at hp ⊢
    exact .closed hb (hp.trans hb)
  | «open» since =>
    rcases Nat.lt_or_ge now (since + s.openWait.nanos) with ht | ht
    · rw [acquire_early hb ht] at hp ⊢
      exact .rejected hp
    · rw [acquire_late hs hb ht] at hp hg ⊢
      exact .woken hb ht hp hg
  | halfOpen admitted succeeded =>
    rcases Nat.lt_or_ge admitted s.permits with hlt | hle
    · rw [acquire_trial now hb hlt] at hp hg ⊢
      exact .trial hb hp hg
    · rw [acquire_full now hb hle] at hp ⊢
      exact .rejected hp

theorem begin_rejected_phase (hs : s.Sound) (h : (b.begin s now).2 = none) :
    (b.begin s now).1.phase = b.phase := by
  have hbegun := begin_begun hs now b
  rw [h] at hbegun
  cases hbegun with
  | rejected hafter => exact hafter

/-- A breaker that takes its permit back is as it was, except that it may have noticed the end of
its wait. -/
theorem abandon_begin (hs : s.Sound) (h : (b.begin s now).2 = some p) {phase : Phase}
    (halike : Alike s now b.phase phase) :
    Alike s now ((b.begin s now).1.abandon p).phase phase := by
  have hbegun := begin_begun hs now b
  rw [h] at hbegun
  cases hbegun with
  | closed hb hafter =>
    rw [abandon_of_not_halfOpen _ (by simp [hafter]), hafter, ← hb]
    exact halike
  | woken hb ht hafter hg =>
    rw [abandon_trial hafter rfl hg.symm]
    rw [hb] at halike
    cases halike with
    | same => exact .woken ht
  | trial hb hafter hg =>
    rw [abandon_trial hafter rfl hg.symm]
    rw [hb] at halike
    exact halike

/-- While no call runs, breakers that are alike admit the next call alike and become the same. -/
theorem begin_alike (hs : s.Sound) (halike : Alike s now b.phase b'.phase)
    (hidle : Balanced s b []) (h : (b.begin s now).2 = some p) :
    (b.begin s now).1.phase = (b'.begin s now).1.phase ∧ ∃ q, (b'.begin s now).2 = some q := by
  obtain ⟨hp', -, hadm'⟩ := begin_eq_acquire s now b'
  have hbegun := begin_begun hs now b
  rw [h] at hbegun
  rw [hp', hadm']
  generalize hphase' : b'.phase = phase' at halike
  cases hbegun with
  | closed hb hafter =>
    rw [hb] at halike
    cases halike with
    | same =>
      rw [acquire_closed s now hphase', hafter, hphase']
      exact ⟨rfl, _, rfl⟩
  | woken hb ht hafter hg =>
    rw [hb] at halike
    cases halike with
    | same =>
      rw [acquire_late hs hphase' ht, hafter]
      exact ⟨rfl, _, rfl⟩
  | @trial admitted succeeded hb hafter hg =>
    have hcounters := hidle.counters _ _ hb
    have hnone : trials b.generation [] = 0 := rfl
    have hroom : admitted < s.permits := by omega
    rw [hb] at halike
    cases halike with
    | same =>
      rw [acquire_trial now hphase' hroom, hafter]
      exact ⟨rfl, _, rfl⟩
    | woken ht =>
      rw [acquire_late hs hphase' ht, hafter]
      exact ⟨rfl, _, rfl⟩

/-- The end of a call that is ignored is as good as none. -/
theorem finish_ignored_phase (now : Moment) {running : List Permit} (hb : Balanced s b running)
    (hm : p ∈ running) : (b.finish s now p .ignored).phase = (b.abandon p).phase := by
  rw [finish_phase]
  cases hphase : b.phase with
  | closed window =>
    rw [record_closed_ignored s now p hphase, abandon_of_not_halfOpen p (by simp [hphase])]
  | «open» since =>
    rw [record_open s now p _ hphase, abandon_of_not_halfOpen p (by simp [hphase])]
  | halfOpen admitted succeeded =>
    by_cases hg : p.generation = b.generation
    · rw [record_ignored s now hphase hg, abandon_trial hphase (hb.isTrial _ _ hphase p hm hg) hg]
    · rw [record_stale s now _ hphase hg, abandon_stale hg]

/-- The counters of a half-open breaker tell whether the only call that runs is one of its
trials. -/
theorem isCurrent_iff {admitted succeeded : Nat} (hb : Balanced s b [p])
    (hphase : b.phase = .halfOpen admitted succeeded) :
    p.generation = b.generation ↔ admitted = succeeded + 1 := by
  have hcounters := (hb.counters _ _ hphase).1
  rw [hb.trials_eq_inFlight hphase, inFlight, List.countP_singleton] at hcounters
  by_cases hg : p.generation = b.generation
  · simpa [hg] using hcounters
  · have hg' : (p.generation == b.generation) = false := by simpa using hg
    simp only [hg', Bool.false_eq_true, if_false] at hcounters
    omega

theorem finish_same (hb : Balanced s b [p]) (hb' : Balanced s b' [p'])
    (hphase : b.phase = b'.phase) (o : Outcome) :
    (b.finish s now p o).phase = (b'.finish s now p' o).phase := by
  rw [finish_phase, finish_phase]
  cases h : b.phase with
  | closed window =>
    have h' := hphase.symm.trans h
    by_cases ho : o = .ignored
    · rw [ho, record_closed_ignored s now p h, record_closed_ignored s now p' h', hphase]
    · rw [record_closed s now p h ho, record_closed s now p' h' ho]
      split <;> rfl
  | «open» since =>
    rw [record_open s now p o h, record_open s now p' o (hphase.symm.trans h), hphase]
  | halfOpen admitted succeeded =>
    have h' := hphase.symm.trans h
    by_cases hg : p.generation = b.generation
    · have hg' := (isCurrent_iff hb' h').mpr ((isCurrent_iff hb h).mp hg)
      cases o with
      | success =>
        rw [record_success s now h hg, record_success s now h' hg']
        split <;> rfl
      | failure => rw [record_failure s now h hg, record_failure s now h' hg']; rfl
      | ignored => rw [record_ignored s now h hg, record_ignored s now h' hg']
    · have hg' := mt (isCurrent_iff hb' h').mp (mt (isCurrent_iff hb h).mpr hg)
      rw [record_stale s now o h hg, record_stale s now o h' hg', hphase]

end Call

/-! ### Two runs side by side -/

/-- A relation that outlasts time and holds whenever both breakers are opened or closed by force. -/
structure Lasting (R : Moment → Breaker → Breaker → Prop) : Prop where
  later : ∀ {now later : Moment} {b b' : Breaker}, R now b b' → now ≤ later → R later b b'
  entered : ∀ (now : Moment) (b b' : Breaker) {phase : Phase},
    (∀ admitted succeeded, phase ≠ .halfOpen admitted succeeded) →
      R now (b.enter phase) (b'.enter phase)

/-- How breakers compare while no call runs. -/
def AtRest (s : Settings) (now : Moment) (b b' : Breaker) : Prop :=
  Alike s now b.phase b'.phase

/-- How they compare while only the first has lent a permit. -/
def Lent (s : Settings) (p : Permit) (now : Moment) (b b' : Breaker) : Prop :=
  Alike s now (b.abandon p).phase b'.phase

/-- How they compare while both have lent one to the same call. -/
def InStep (_ : Moment) (b b' : Breaker) : Prop :=
  b.phase = b'.phase

theorem InStep.atRest {now : Moment} {b b' : Breaker} (h : InStep now b b') (s : Settings) :
    AtRest s now b b' := by
  rw [AtRest, h]
  exact .same _

theorem lasting_atRest (s : Settings) : Lasting (AtRest s) :=
  ⟨Alike.later, fun _ _ _ phase _ => .same phase⟩

theorem lasting_lent (s : Settings) (p : Permit) : Lasting (Lent s p) := by
  refine ⟨Alike.later, fun now b b' phase hphase => ?_⟩
  rw [Lent, abandon_of_not_halfOpen p hphase]
  exact .same phase

theorem lasting_inStep : Lasting InStep :=
  ⟨fun h _ => h, fun _ _ _ _ _ => rfl⟩

/-- Two runs at the same moment, with the calls that are running in each. -/
structure Beside (s : Settings) (R : Moment → Breaker → Breaker → Prop) (t u : Traffic)
    (running running' : List Permit) : Prop where
  now_eq : t.now = u.now
  related : R t.now t.breaker u.breaker
  running_eq : t.running = running
  running_eq' : u.running = running'
  balanced : Balanced s t.breaker t.running
  balanced' : Balanced s u.breaker u.running
  successes : t.breaker.totals.successes = u.breaker.totals.successes
  failures : t.breaker.totals.failures = u.breaker.totals.failures

namespace Beside

variable {s : Settings} {R : Moment → Breaker → Breaker → Prop} {t u : Traffic}
  {running running' : List Permit}

theorem idle (s : Settings) :
    Beside s (AtRest s) .idle .idle [] [] :=
  ⟨rfl, .same _, rfl, rfl, .fresh s, .fresh s, rfl, rfl⟩

theorem change (h : Beside s R t u running running') (hs : s.Sound) (hR : Lasting R)
    (c : Change) :
    Beside s R (t.step s c.action) (u.step s c.action) running running' := by
  have hb := h.balanced.step hs c.action
  have hb' := h.balanced'.step hs c.action
  cases c with
  | trip =>
    refine ⟨h.now_eq, ?_, h.running_eq, h.running_eq', hb, hb', h.successes, h.failures⟩
    show R t.now (t.breaker.enter (.open t.now)) (u.breaker.enter (.open u.now))
    rw [← h.now_eq]
    exact hR.entered _ _ _ (by simp)
  | reset =>
    exact ⟨h.now_eq, hR.entered _ _ _ (by simp), h.running_eq, h.running_eq', hb, hb', h.successes,
      h.failures⟩
  | advance nanos =>
    exact ⟨congrArg (· + nanos) h.now_eq, hR.later h.related (Nat.le_add_right _ _), h.running_eq,
      h.running_eq', hb, hb', h.successes, h.failures⟩

theorem changed (h : Beside s R t u running running') (hs : s.Sound) (hR : Lasting R)
    (changes : List Change) :
    Beside s R (t.changed s changes) (u.changed s changes) running running' := by
  induction changes generalizing t u with
  | nil => exact h
  | cons c changes ih => exact ih (h.change hs hR c)

section Call

variable (h : Beside s (AtRest s) t u [] []) (hs : s.Sound)

include h hs

theorem start_rejected (hbegin : (t.breaker.begin s t.now).2 = none) :
    Beside s (AtRest s) (t.step s .start) u [] [] := by
  have htotals := begin_totals s t.now t.breaker
  refine ⟨h.now_eq, ?_, ?_, h.running_eq', h.balanced.step hs .start, h.balanced', ?_, ?_⟩
  · show Alike s t.now (t.breaker.begin s t.now).1.phase u.breaker.phase
    rw [begin_rejected_phase hs hbegin]
    exact h.related
  · show t.running ++ (t.breaker.begin s t.now).2.toList = []
    rw [hbegin, h.running_eq]
    rfl
  · exact (congrArg Totals.successes htotals).trans h.successes
  · exact (congrArg Totals.failures htotals).trans h.failures

theorem start_unseen {p : Permit} (hbegin : (t.breaker.begin s t.now).2 = some p) :
    Beside s (Lent s p) (t.step s .start) u [p] [] := by
  have htotals := begin_totals s t.now t.breaker
  refine ⟨h.now_eq, abandon_begin hs hbegin h.related, ?_, h.running_eq',
    h.balanced.step hs .start, h.balanced', ?_, ?_⟩
  · show t.running ++ (t.breaker.begin s t.now).2.toList = [p]
    rw [hbegin, h.running_eq]
    rfl
  · exact (congrArg Totals.successes htotals).trans h.successes
  · exact (congrArg Totals.failures htotals).trans h.failures

theorem start_both {p : Permit} (hbegin : (t.breaker.begin s t.now).2 = some p) :
    ∃ q, (u.breaker.begin s u.now).2 = some q ∧
      Beside s InStep (t.step s .start) (u.step s .start) [p] [q] := by
  have hb := h.balanced
  rw [h.running_eq] at hb
  obtain ⟨hphase, q, hbegin'⟩ := begin_alike hs h.related hb hbegin
  rw [h.now_eq] at hphase hbegin'
  have htotals := begin_totals s t.now t.breaker
  have htotals' := begin_totals s u.now u.breaker
  refine ⟨q, hbegin', h.now_eq, ?_, ?_, ?_, h.balanced.step hs .start,
    h.balanced'.step hs .start, ?_, ?_⟩
  · show (t.breaker.begin s t.now).1.phase = (u.breaker.begin s u.now).1.phase
    rw [h.now_eq]
    exact hphase
  · show t.running ++ (t.breaker.begin s t.now).2.toList = [p]
    rw [hbegin, h.running_eq]
    rfl
  · show u.running ++ (u.breaker.begin s u.now).2.toList = [q]
    rw [hbegin', h.running_eq']
    rfl
  · exact (congrArg Totals.successes htotals).trans
      (h.successes.trans (congrArg Totals.successes htotals').symm)
  · exact (congrArg Totals.failures htotals).trans
      (h.failures.trans (congrArg Totals.failures htotals').symm)

end Call

theorem end_unseen {p : Permit} (h : Beside s (Lent s p) t u [p] []) (hs : s.Sound) {e : Ending}
    (he : (Answer.ended e).isSeen = false) :
    Beside s (AtRest s) (t.step s (e.action p)) u [] [] := by
  have hm : p ∈ t.running := by
    rw [h.running_eq]
    exact List.mem_singleton_self p
  have herase : t.running.erase p = [] := by
    rw [h.running_eq]
    exact List.erase_cons_head p []
  have hb := h.balanced.step hs (e.action p)
  cases e with
  | cancelled =>
    have htotals := abandon_keeps_totals p t.breaker
    rw [Ending.action, Traffic.step_cancel s hm] at hb ⊢
    exact ⟨h.now_eq, h.related, herase, h.running_eq', hb, h.balanced',
      (congrArg Totals.successes htotals).trans h.successes,
      (congrArg Totals.failures htotals).trans h.failures⟩
  | finished o =>
    cases o with
    | success | failure => cases he
    | ignored =>
      have htotals := finish_totals s t.now p .ignored t.breaker
      have hphase := finish_ignored_phase t.now h.balanced hm
      rw [Ending.action, Traffic.step_finish s .ignored hm] at hb ⊢
      refine ⟨h.now_eq, ?_, herase, h.running_eq', hb, h.balanced',
        (congrArg Totals.successes htotals).trans h.successes,
        (congrArg Totals.failures htotals).trans h.failures⟩
      show Alike s t.now (t.breaker.finish s t.now p .ignored).phase u.breaker.phase
      rw [hphase]
      exact h.related

theorem end_both {p q : Permit} (h : Beside s InStep t u [p] [q]) (hs : s.Sound) (o : Outcome) :
    Beside s (AtRest s) (t.step s (.finish p o)) (u.step s (.finish q o)) [] [] := by
  have hm : p ∈ t.running := by
    rw [h.running_eq]
    exact List.mem_singleton_self p
  have hm' : q ∈ u.running := by
    rw [h.running_eq']
    exact List.mem_singleton_self q
  have hb := h.balanced
  have hb' := h.balanced'
  rw [h.running_eq] at hb
  rw [h.running_eq'] at hb'
  have hphase : InStep t.now (t.breaker.finish s t.now p o) (u.breaker.finish s u.now q o) := by
    rw [h.now_eq]
    exact finish_same hb hb' h.related o
  have htotals := finish_totals s t.now p o t.breaker
  have htotals' := finish_totals s u.now q o u.breaker
  have hsafe := h.balanced.step hs (.finish p o)
  have hsafe' := h.balanced'.step hs (.finish q o)
  rw [Traffic.step_finish s o hm] at hsafe ⊢
  rw [Traffic.step_finish s o hm'] at hsafe' ⊢
  refine ⟨h.now_eq, hphase.atRest s, ?_, ?_, hsafe, hsafe', ?_, ?_⟩
  · show t.running.erase p = []
    rw [h.running_eq]
    exact List.erase_cons_head _ _
  · show u.running.erase q = []
    rw [h.running_eq']
    exact List.erase_cons_head _ _
  · simp only [Traffic.turn_breaker, htotals, htotals', h.successes]
  · simp only [Traffic.turn_breaker, htotals, htotals', h.failures]

/-- A call that leaves nothing behind can be left out. -/
theorem called_unseen (h : Beside s (AtRest s) t u [] []) (hs : s.Sound)
    (meanwhile : List Change) {ending : Ending}
    (hunseen : (t.called s meanwhile ending).2.isSeen = false) :
    Beside s (AtRest s) (t.called s meanwhile ending).1 (u.changed s meanwhile) [] [] := by
  unfold Traffic.called at hunseen ⊢
  cases hbegin : (t.breaker.begin s t.now).2 with
  | none => exact (h.start_rejected hs hbegin).changed hs (lasting_atRest s) meanwhile
  | some p =>
    simp only [hbegin] at hunseen
    exact ((h.start_unseen hs hbegin).changed hs (lasting_lent s p) meanwhile).end_unseen hs
      hunseen

/-- Any other call is answered alike. -/
theorem called_both (h : Beside s (AtRest s) t u [] []) (hs : s.Sound)
    (meanwhile : List Change) {ending : Ending}
    (hseen : (t.called s meanwhile ending).2.isSeen = true) :
    (u.called s meanwhile ending).2 = (t.called s meanwhile ending).2 ∧
      Beside s (AtRest s) (t.called s meanwhile ending).1
        (u.called s meanwhile ending).1 [] [] := by
  unfold Traffic.called at hseen ⊢
  cases hbegin : (t.breaker.begin s t.now).2 with
  | none =>
    simp only [hbegin] at hseen
    cases hseen
  | some p =>
    obtain ⟨q, hbegin', hboth⟩ := h.start_both hs hbegin
    simp only [hbegin] at hseen
    simp only [hbegin']
    cases ending with
    | cancelled => cases hseen
    | finished o => exact ⟨trivial, (hboth.changed hs lasting_inStep meanwhile).end_both hs o⟩

theorem play (c : Course) (h : Beside s (AtRest s) t u [] []) (hs : s.Sound) :
    let whole := c.play s t
    let rest := (c.seen s t).play s u
    rest.2 = whole.2.filter Answer.isSeen ∧
      ∃ running running', Beside s (AtRest s) whole.1 rest.1 running running' := by
  induction c generalizing t u with
  | done => exact ⟨rfl, [], [], h⟩
  | change c rest ih => exact ih (h.change hs (lasting_atRest s) c)
  | call meanwhile ending rest ih =>
    cases hseen : (t.called s meanwhile ending).2.isSeen with
    | true =>
      obtain ⟨hanswer, hnext⟩ := h.called_both hs meanwhile hseen
      obtain ⟨hanswers, hend⟩ := ih hnext
      simp only [Course.seen, hseen, if_true, Course.play, hanswer, hanswers, List.filter_cons]
      exact ⟨trivial, hend⟩
    | false =>
      obtain ⟨hanswers, hend⟩ := ih (h.called_unseen hs meanwhile hseen)
      simp only [Course.seen, hseen, Bool.false_eq_true, if_false, Course.play_after, Course.play,
        List.filter_cons]
      exact ⟨hanswers, hend⟩
  | running meanwhile =>
    cases hbegin : (t.breaker.begin s t.now).2 with
    | none =>
      have hend := (h.start_rejected hs hbegin).changed hs (lasting_atRest s) meanwhile
      simp only [Course.seen, hbegin, Option.isNone_none, if_true, Course.play_after, Course.play]
      exact ⟨rfl, [], [], hend⟩
    | some p =>
      obtain ⟨q, hbegin', hboth⟩ := h.start_both hs hbegin
      have hend := hboth.changed hs lasting_inStep meanwhile
      simp only [Course.seen, hbegin, hbegin', Option.isNone_some, Bool.false_eq_true, if_false,
        Course.play]
      exact ⟨rfl, [p], [q], { hend with related := hend.related.atRest s }⟩

end Beside

/-- A course of calls one after the other and the same course without the calls that were rejected,
ignored or given up: the calls that are left are answered alike, and the breaker ends in the same
phase at the same moment, with the same successes and failures. It is only that a breaker whose wait
is over may not have noticed it yet. -/
theorem unseen_calls_leave_nothing (window minimum threshold permits : Nat) (openWait : Span)
    (c : Course) :
    let s := Settings.build window minimum threshold openWait permits
    let whole := c.play s .idle
    let rest := (c.seen s .idle).play s .idle
    rest.2 = whole.2.filter Answer.isSeen ∧ rest.1.now = whole.1.now ∧
      (rest.1.breaker.phase = whole.1.breaker.phase ∨
        whole.1.breaker.phase = .halfOpen 0 0 ∧
          ∃ since, rest.1.breaker.phase = .open since ∧
            since + s.openWait.nanos ≤ whole.1.now) ∧
      rest.1.breaker.totals.successes = whole.1.breaker.totals.successes ∧
      rest.1.breaker.totals.failures = whole.1.breaker.totals.failures := by
  intro s whole rest
  have hs : s.Sound := Settings.build_sound ..
  obtain ⟨hanswers, running, running', h⟩ := (Beside.idle s).play c hs
  refine ⟨hanswers, h.now_eq.symm, ?_, h.successes.symm, h.failures.symm⟩
  have halike : Alike s whole.1.now whole.1.breaker.phase rest.1.breaker.phase := h.related
  generalize hw : whole.1.breaker.phase = phase at halike ⊢
  generalize hr : rest.1.breaker.phase = phase' at halike ⊢
  cases halike with
  | same => exact .inl rfl
  | woken ht => exact .inr ⟨rfl, _, rfl, ht⟩

/-- The wait has been noticed by a call that leaves nothing else behind. -/
example :
    let s := Settings.build 5 5 50 (Span.millis 1000) 3
    let c : Course := .change .trip (.call [] (.finished .success) (.change (.advance 1000000000)
      (.call [.advance 1] .cancelled .done)))
    (c.play s .idle).2 = [.rejected, .ended .cancelled] ∧
      (c.play s .idle).1.breaker.phase = .halfOpen 0 0 ∧
      ((c.seen s .idle).play s .idle).1.breaker.phase = .open 0 := by
  decide

end AggregateGateway.Resilience.Breaker
