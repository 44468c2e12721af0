import AggregateGateway.Proofs.Resilience.ScheduledTraffic

/-! However executions overlap, and wherever they are given up, the breaker of a policy goes
through the states of a bare breaker that is shown one call for each execution; and an execution
that is not given up returns. -/

namespace AggregateGateway.Resilience.Policy

open Catalog (Failure)
open Time (Moment)

variable {σ ε α : Type}

/-! ### The breaker -/

/-- A bare breaker stands where the breaker of a policy stands, and the calls that are running
have the permits of the executions that are running. -/
structure Mirrored (w : Traffic σ ε α) (c : Breaker.Calls) : Prop where
  breaker : c.breaker = w.guard.breaker
  now : c.now = w.now
  permit : ∀ n, c.permit n = (w.execution n).bind Execution.permit?

theorem settlement_mapError (r : Except (Retry.Failure Failure) α) :
    settlement (r.mapError Refusal.ofFailure) = some (outcome r) := by
  cases r with
  | ok a => rfl
  | error f =>
    cases f with
    | exhausted attempts e => cases e <;> rfl
    | aborted e => cases e <;> rfl

namespace Mirrored

variable {p : Policy} {calls : Nat → Call σ Failure α} {w : Traffic σ Failure α}
  {c : Breaker.Calls}

theorem permit_update (h : Mirrored w c) (n : Nat) (e : Option (Execution Failure α)) (m : Nat) :
    Function.update c.permit n (e.bind Execution.permit?) m =
      (Function.update w.execution n e m).bind Execution.permit? := by
  by_cases hm : m = n
  · rw [hm, Function.update_self, Function.update_self]
  · rw [Function.update_of_ne hm, Function.update_of_ne hm, h.permit]

theorem permit_unseen (h : Mirrored w c) {n : Nat} {e : Option (Execution Failure α)}
    (he : e.bind Execution.permit? = c.permit n) (m : Nat) :
    c.permit m = (Function.update w.execution n e m).bind Execution.permit? := by
  rw [← h.permit_update, he, Function.update_eq_self]

theorem permit_of (h : Mirrored w c) {n : Nat} {e : Execution Failure α}
    (hn : w.execution n = some e) : c.permit n = e.permit? := by
  rw [h.permit, hn]
  rfl

theorem moved (h : Mirrored w c) {b : Breaker} {g : Guard σ} (hb : b = g.breaker) (n : Nat)
    (e : Option (Execution Failure α)) (history : List (Occurrence Failure α)) :
    Mirrored ⟨g, w.now, Function.update w.execution n e, history⟩
      ⟨b, c.now, Function.update c.permit n (e.bind Execution.permit?)⟩ :=
  ⟨hb, h.now, h.permit_update n e⟩

theorem started (h : Mirrored w c) {s : Breaker.Settings} {permit : Option Breaker.Permit}
    {e : Execution Failure α} {g : Guard σ}
    (hbegin : w.guard.breaker.begin s w.now = (g.breaker, permit)) (he : e.permit? = permit)
    (n : Nat) (history : List (Occurrence Failure α)) :
    Mirrored ⟨g, w.now, Function.update w.execution n (some e), history⟩
      (c.step s (.start n)) := by
  have hstart : c.step s (.start n) = ⟨g.breaker, c.now, Function.update c.permit n permit⟩ :=
    Breaker.Calls.step_start (by rw [h.breaker, h.now, hbegin]) n
  rw [hstart, ← he]
  exact h.moved rfl n (some e) history

theorem turn (h : Mirrored w c) {n : Nat} {e e' : Execution Failure α} {g : Guard σ}
    (hn : w.execution n = some e) (ht : Turn p (calls n) w.now w.guard e e' g) :
    Mirrored ⟨g, w.now, Function.update w.execution n (some e'), w.history ++ seen n e e'⟩
      (c.run p.breaker ((seen n e e').filterMap Occurrence.use?)) := by
  have hpermit := h.permit_of hn
  cases ht with
  | rejected hbegin => exact h.started hbegin rfl n _
  | admitted hbegin => exact h.started hbegin rfl n _
  -- an attempt and a pause are not shown to the breaker, and the permit is kept over them
  | paused registry hlimit => exact ⟨h.breaker, h.now, h.permit_unseen hpermit.symm⟩
  | resumed => exact ⟨h.breaker, h.now, h.permit_unseen hpermit.symm⟩
  | @settled permit attempt due answer registry r =>
    have huse : (Occurrence.returned n (r.mapError Refusal.ofFailure)).use? =
        some (.settle n (outcome r)) := by
      simp only [Occurrence.use?, settlement_mapError, Option.map_some]
    have huses : (seen n (.attempting permit attempt due answer)
        (.ended (r.mapError Refusal.ofFailure))).filterMap Occurrence.use? =
          [.settle n (outcome r)] :=
      List.filterMap_cons_some huse
    have hsettle : c.step p.breaker (.settle n (outcome r)) =
        ⟨c.breaker.finish p.breaker c.now permit (outcome r), c.now,
          Function.update c.permit n none⟩ :=
      Breaker.Calls.step_settle p.breaker (outcome r) hpermit
    rw [huses]
    show Mirrored _ (c.step p.breaker (.settle n (outcome r)))
    rw [hsettle]
    exact h.moved (by rw [h.breaker, h.now]; rfl) n (some _) _

theorem cancel (h : Mirrored w c) {n : Nat} {e : Execution Failure α}
    (hn : w.execution n = some e) :
    Mirrored ⟨p.cancel e w.guard, w.now, Function.update w.execution n none,
      w.history ++ [.cancelled n]⟩ (c.run p.breaker [.drop n]) := by
  have hpermit := h.permit_of hn
  show Mirrored _ (c.step p.breaker (.drop n))
  cases e with
  | ready | ended r =>
    rw [Breaker.Calls.step_drop_idle p.breaker hpermit]
    exact ⟨h.breaker, h.now, h.permit_unseen hpermit.symm⟩
  | attempting permit attempt due answer | pausing permit attempt due =>
    rw [Breaker.Calls.step_drop p.breaker hpermit, h.breaker]
    exact h.moved rfl n none _

theorem step (p : Policy) (calls : Nat → Call σ Failure α) (h : Mirrored w c) (a : Action) :
    ∃ happened, (w.step p calls a).history = w.history ++ happened ∧
      Mirrored (w.step p calls a) (c.run p.breaker (happened.filterMap Occurrence.use?)) := by
  cases a with
  | poll n =>
    simp only [Traffic.step]
    split
    · exact ⟨[], (List.append_nil _).symm, h⟩
    next e hn =>
      split
      · exact ⟨[], (List.append_nil _).symm, h⟩
      next e' g hstep => exact ⟨seen n e e', rfl, h.turn hn (step_turn hstep)⟩
  | cancel n =>
    simp only [Traffic.step]
    split
    · exact ⟨[], (List.append_nil _).symm, h⟩
    · exact ⟨[], (List.append_nil _).symm, h⟩
    next e hn => exact ⟨[.cancelled n], rfl, h.cancel hn⟩
  | trip =>
    exact ⟨[.tripped], rfl, congrArg₂ Breaker.trip h.now h.breaker, h.now, h.permit⟩
  | reset => exact ⟨[.reset], rfl, congrArg Breaker.reset h.breaker, h.now, h.permit⟩
  | advance nanos =>
    exact ⟨[.advanced nanos], rfl, h.breaker, congrArg (· + nanos) h.now, h.permit⟩

theorem run (p : Policy) (calls : Nat → Call σ Failure α) (h : Mirrored w c)
    (actions : List Action) :
    ∃ happened, (w.run p calls actions).history = w.history ++ happened ∧
      Mirrored (w.run p calls actions) (c.run p.breaker (happened.filterMap Occurrence.use?)) := by
  induction actions generalizing w c with
  | nil => exact ⟨[], (List.append_nil _).symm, h⟩
  | cons a actions ih =>
    obtain ⟨first, hfirst, hw⟩ := h.step p calls a
    obtain ⟨later, hlater, hrun⟩ := ih hw
    refine ⟨first ++ later, ?_, ?_⟩
    · rw [← List.append_assoc, ← hfirst]
      exact hlater
    · rw [List.filterMap_append, Breaker.Calls.run_append]
      exact hrun

end Mirrored

/-! ### The operation -/

/-- What has been said of execution number `n`, and how often its operation was invoked. -/
def Told (limit n : Nat) (story : List (Occurrence ε α)) (invocations : Nat) :
    Option (Execution ε α) → Prop
  | some .ready => story = [] ∧ invocations = 0
  | some (.attempting _ attempt _ _) =>
    story = [.started n] ∧ invocations = attempt ∧ 1 ≤ invocations ∧ invocations ≤ limit
  | some (.pausing _ attempt _) =>
    story = [.started n] ∧ invocations + 1 = attempt ∧ 1 ≤ invocations ∧ invocations < limit
  | some (.ended (.error (.circuitOpen name))) =>
    story = [.started n, .returned n (.error (.circuitOpen name))] ∧ invocations = 0
  | some (.ended r) =>
    story = [.started n, .returned n r] ∧ 1 ≤ invocations ∧ invocations ≤ limit
  | none =>
    story = [.cancelled n] ∧ invocations = 0 ∨
      story = [.started n, .cancelled n] ∧ 1 ≤ invocations ∧ invocations ≤ limit

theorem Told.ended {limit n invocations : Nat} {story : List (Occurrence ε α)}
    (r : Except (Retry.Failure ε) α)
    (hstory : story = [.started n, .returned n (r.mapError Refusal.ofFailure)])
    (hinvoked : 1 ≤ invocations) (hlimit : invocations ≤ limit) :
    Told limit n story invocations (some (.ended (r.mapError Refusal.ofFailure))) := by
  cases r with
  | ok a => exact ⟨hstory, hinvoked, hlimit⟩
  | error f => cases f <;> exact ⟨hstory, hinvoked, hlimit⟩

theorem Told.cancelled {limit n invocations : Nat} {story : List (Occurrence ε α)}
    {e : Execution ε α} (h : Told limit n story invocations (some e)) (he : ∀ r, e ≠ .ended r) :
    Told limit n (story ++ [.cancelled n]) invocations none := by
  cases e with
  | ready =>
    obtain ⟨hstory, hcount⟩ := h
    exact .inl ⟨by rw [hstory, List.nil_append], hcount⟩
  | attempting permit attempt due answer =>
    obtain ⟨hstory, -, hinvoked, hlimit⟩ := h
    exact .inr ⟨by rw [hstory]; rfl, hinvoked, hlimit⟩
  | pausing permit attempt due =>
    obtain ⟨hstory, -, hinvoked, hlimit⟩ := h
    exact .inr ⟨by rw [hstory]; rfl, hinvoked, Nat.le_of_lt hlimit⟩
  | ended r => exact absurd rfl (he r)

section Noted

variable [Classified ε] {p : Policy} {n : Nat} {call : Call σ ε α} {now : Moment}
  {g g' : Guard (σ × List Nat)} {e e' : Execution ε α}

theorem attemptFrom_noted (permit : Breaker.Permit) (attempt : Nat) (g : Guard (σ × List Nat)) :
    (p.attemptFrom (call.noted n) now permit attempt g).2.service.2 = g.service.2 ++ [n] := rfl

theorem Turn.count_other (ht : Turn p (call.noted n) now g e e' g') {m : Nat} (hm : m ≠ n) :
    g'.service.2.count m = g.service.2.count m := by
  have hone : [n].count m = 0 := List.count_singleton.trans (if_neg (by simpa using hm.symm))
  cases ht with
  | rejected | paused | settled => rfl
  | admitted | resumed =>
    rw [attemptFrom_noted, List.count_append, hone]
    rfl

theorem Told.turn {story : List (Occurrence ε α)}
    (h : Told (max 1 p.retry.maxAttempts) n story (g.service.2.count n) (some e))
    (ht : Turn p (call.noted n) now g e e' g') :
    Told (max 1 p.retry.maxAttempts) n (story ++ seen n e e') (g'.service.2.count n)
      (some e') := by
  cases ht with
  | rejected hbegin =>
    obtain ⟨rfl, hcount⟩ := h
    exact ⟨rfl, hcount⟩
  | @admitted b permit hbegin =>
    obtain ⟨rfl, hcount⟩ := h
    have hone : (g.service.2 ++ [n]).count n = 1 := by
      rw [List.count_append, hcount, List.count_singleton_self]
    exact ⟨rfl, hone, Nat.le_of_eq hone.symm, hone ▸ Nat.le_max_left _ _⟩
  | paused registry hlimit =>
    obtain ⟨rfl, hcount, hinvoked, -⟩ := h
    refine ⟨rfl, congrArg (· + 1) hcount, hinvoked, ?_⟩
    rw [hcount]
    exact Nat.lt_of_lt_of_le hlimit (Nat.le_max_right _ _)
  | @resumed permit attempt due =>
    obtain ⟨rfl, hcount, hinvoked, hlimit⟩ := h
    have hone : (g.service.2 ++ [n]).count n = g.service.2.count n + 1 := by
      rw [List.count_append, List.count_singleton_self]
    exact ⟨rfl, hone.trans hcount, hone ▸ Nat.le_add_left 1 _, hone ▸ hlimit⟩
  | settled registry r =>
    obtain ⟨rfl, -, hinvoked, hlimit⟩ := h
    exact .ended r rfl hinvoked hlimit

end Noted

theorem number_of_mem_seen {n : Nat} {e e' : Execution ε α} {o : Occurrence ε α}
    (h : o ∈ seen n e e') : o.number? = some n := by
  unfold seen at h
  rcases List.mem_append.mp h with h | h
  · cases e with
    | ready => rw [List.mem_singleton.mp h]; rfl
    | attempting | pausing | ended => exact absurd h List.not_mem_nil
  · cases e' with
    | ended r => rw [List.mem_singleton.mp h]; rfl
    | ready | attempting | pausing => exact absurd h List.not_mem_nil

def AllTold (p : Policy) (w : Traffic (σ × List Nat) ε α) : Prop :=
  ∀ n, Told (max 1 p.retry.maxAttempts) n (w.story n) (w.guard.service.2.count n) (w.execution n)

namespace AllTold

variable {p : Policy} {w : Traffic (σ × List Nat) ε α}

theorem idle (p : Policy) (g : Guard σ) (now : Moment) :
    AllTold p (.idle (ε := ε) (α := α) (g.noting Nat) now) :=
  fun _ => ⟨rfl, rfl⟩

theorem moved (h : AllTold p w) {n : Nat} {e : Option (Execution ε α)} {g : Guard (σ × List Nat)}
    {happened : List (Occurrence ε α)} (hhappened : ∀ o ∈ happened, o.number? = some n)
    (hcount : ∀ m, m ≠ n → g.service.2.count m = w.guard.service.2.count m)
    (hn : Told (max 1 p.retry.maxAttempts) n (w.story n ++ happened) (g.service.2.count n) e) :
    AllTold p ⟨g, w.now, Function.update w.execution n e, w.history ++ happened⟩ := by
  intro m
  have hstory : (Traffic.mk g w.now (Function.update w.execution n e)
      (w.history ++ happened)).story m =
        w.story m ++ happened.filter fun o => o.number? == some m := List.filter_append ..
  rw [hstory]
  by_cases hm : m = n
  · subst hm
    have hall : happened.filter (fun o => o.number? == some m) = happened :=
      List.filter_eq_self.mpr fun o ho => by rw [hhappened o ho, beq_self_eq_true]
    rw [hall]
    simpa only [Function.update_self] using hn
  · have hnone : happened.filter (fun o => o.number? == some m) = [] :=
      List.filter_eq_nil_iff.mpr fun o ho hom =>
        hm (Option.some.inj ((beq_iff_eq.mp hom).symm.trans (hhappened o ho)))
    rw [hnone, List.append_nil]
    simpa only [Function.update_of_ne hm, hcount m hm] using h m

/-- What happens to the breaker from outside, or to the time, concerns no execution. -/
theorem unconcerned (h : AllTold p w) {w' : Traffic (σ × List Nat) ε α} {o : Occurrence ε α}
    (ho : o.number? = none) (hservice : w'.guard.service = w.guard.service)
    (hexecution : w'.execution = w.execution) (hhistory : w'.history = w.history ++ [o]) :
    AllTold p w' := by
  intro n
  have hstory : w'.story n = w.story n := by
    have hnone : [o].filter (fun o => o.number? == some n) = [] := by
      simp [ho]
    rw [Traffic.story, hhistory, List.filter_append, hnone, List.append_nil]
    rfl
  rw [hstory, hservice, hexecution]
  exact h n

variable [Classified ε] {calls : Nat → Call σ ε α}

theorem step (h : AllTold p w) (a : Action) :
    AllTold p (w.step p (fun n => (calls n).noted n) a) := by
  cases a with
  | poll n =>
    simp only [Traffic.step]
    split
    · exact h
    next e hn =>
      split
      · exact h
      next e' g hstep =>
        have ht := step_turn hstep
        have htold := h n
        rw [hn] at htold
        exact h.moved (fun o => number_of_mem_seen) (fun m => ht.count_other) (htold.turn ht)
  | cancel n =>
    simp only [Traffic.step]
    split
    · exact h
    · exact h
    next e he hn =>
      have htold := h n
      rw [hn] at htold
      have hservice : (p.cancel e w.guard).service = w.guard.service := by
        cases e <;> rfl
      refine h.moved (by simp [Occurrence.number?]) (fun m _ => by rw [hservice]) ?_
      rw [hservice]
      exact htold.cancelled he
  | trip => exact h.unconcerned rfl rfl rfl rfl
  | reset => exact h.unconcerned rfl rfl rfl rfl
  | advance nanos => exact h.unconcerned rfl rfl rfl rfl

theorem run (h : AllTold p w) (actions : List Action) :
    AllTold p (w.run p (fun n => (calls n).noted n) actions) :=
  List.foldlRecOn actions _ h fun _ hw a _ => hw.step a

end AllTold

/-- Executions of any calls, polled and given up in any order: at every moment the breaker is the
bare one that was shown a call for each execution that has started, settled or dropped where the
execution was. An execution that was rejected has invoked nothing, any other one that has returned
at least one and at most as many attempts as the policy allows; and one that is attended to comes
to its end. Executions that a schedule runs together, or up to a deadline, are a case of this. -/
theorem one_call_per_execution (p : Policy) (calls : Nat → Call σ Failure α) (g : Guard σ)
    (now : Moment) :
    let idle : Traffic (σ × List Nat) Failure α := .idle (g.noting Nat) now
    let noted := fun n => (calls n).noted n
    (∀ actions,
      let w := idle.run p noted actions
      let bare := (Breaker.Calls.idle g.breaker now).run p.breaker
        (w.history.filterMap Occurrence.use?)
      (w.guard.breaker = bare.breaker ∧ w.now = bare.now ∧
        ∀ n, bare.permit n = (w.execution n).bind Execution.permit?) ∧
      (∀ n, Told (max 1 p.retry.maxAttempts) n (w.story n) (w.guard.service.2.count n)
        (w.execution n)) ∧
      ∀ n later, w.Attends p noted n later → ∃ k,
        (w.after p noted later k).execution n = none ∨
          ∃ r, (w.after p noted later k).execution n = some (.ended r)) ∧
    (∀ count, ∃ actions,
      let w := idle.run p noted actions
      let r := Schedule.together p now ((List.range count).map noted) (g.noting Nat)
      w.now = r.1 ∧ w.guard = r.2.2 ∧ ∀ n < count, ∃ t answer, r.2.1[n]? = some t ∧
        t.execution = .ended answer ∧ w.execution n = some (.ended answer)) ∧
    ∀ deadline, now ≤ deadline → ∃ actions,
      let w := idle.run p noted actions
      let r := Schedule.within p now deadline (noted 0) (g.noting Nat)
      w.now = r.1 ∧ w.guard = r.2.2 ∧ w.execution 0 = r.2.1.map .ended := by
  intro idle noted
  refine ⟨?_, ?_, ?_⟩
  · intro actions w bare
    have hidle : Mirrored idle (.idle g.breaker now) := ⟨rfl, rfl, fun _ => rfl⟩
    obtain ⟨happened, hhistory, hmirrored⟩ := hidle.run p noted actions
    have hbare : Mirrored w bare := by
      have hall : w.history = happened := hhistory
      rw [← hall] at hmirrored
      exact hmirrored
    refine ⟨⟨hbare.breaker.symm, hbare.now.symm, hbare.permit⟩,
      (AllTold.idle p g now).run actions, fun n later hattends => ?_⟩
    obtain ⟨k, -, hends⟩ := hattends.ends 0
    exact ⟨k, hends⟩
  · intro count
    exact Schedule.together_eq_run p noted count now (g.noting Nat)
  · intro deadline h
    exact Schedule.within_eq_run p noted (g.noting Nat) h

/-- A trial that is given up while it waits for its second attempt makes room for another one,
which returns when it is polled on; the one that was turned away has invoked nothing. -/
theorem one_call_per_execution_after_cancel :
    let p : Policy := ⟨"item", .build 1 1 50 (.millis 10) 1, .build 3 (.millis 5), .millis 100⟩
    let call : Call Unit Failure Unit := fun s => (⟨0, .error (.transport "reset")⟩, s)
    let noted := fun n => call.noted n
    let w := (Traffic.idle ((Guard.fresh "item" ()).noting Nat) 0).run p noted
      [.trip, .advance 10000000, .poll 0, .poll 0, .poll 1, .cancel 0, .poll 2]
    let bare := (Breaker.Calls.idle .fresh 0).run p.breaker
      [.trip, .advance 10000000, .start 0, .start 1, .drop 0, .start 2]
    w.guard.breaker = bare.breaker ∧ w.guard.breaker.phase = .halfOpen 1 0 ∧
      bare.permit 0 = none ∧ bare.permit 1 = none ∧ bare.permit 2 ≠ none ∧
      w.guard.service.2 = [0, 2] ∧
      ∃ k, (w.after p noted (Traffic.ticking 2) k).execution 2 = none ∨
        ∃ r, (w.after p noted (Traffic.ticking 2) k).execution 2 = some (.ended r) := by
  intro p call noted w bare
  have huses : w.history.filterMap Occurrence.use? =
      [.trip, .advance 10000000, .start 0, .start 1, .drop 0, .start 2] := by
    decide +kernel
  have hw : w = .run p (fun n => call.noted n) (.idle ((Guard.fresh "item" ()).noting Nat) 0) _ :=
    rfl
  obtain ⟨⟨hbreaker, -⟩, -, hends⟩ := (one_call_per_execution p (fun _ => call)
    (.fresh "item" ()) 0).1
    [.trip, .advance 10000000, .poll 0, .poll 0, .poll 1, .cancel 0, .poll 2]
  rw [← hw, huses] at hbreaker
  rw [← hw] at hends
  refine ⟨hbreaker, ?_, ?_, ?_, ?_, ?_, hends 2 _ (w.attends_ticking p noted 2)⟩
  all_goals decide +kernel

end AggregateGateway.Resilience.Policy
