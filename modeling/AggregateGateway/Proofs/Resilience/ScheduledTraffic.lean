import AggregateGateway.Proofs.Resilience.Progress

/-! A schedule is one of the ways in which executions can overlap: what it does is a run of the
traffic in which all steps that are due are taken before time goes on. -/

namespace AggregateGateway.Resilience

open Time (Moment)

variable {σ ε α : Type} [Classified ε] {p : Policy} {calls : Nat → Call σ ε α}

namespace Policy.Traffic

variable {w : Traffic σ ε α}

theorem run_cons (p : Policy) (calls : Nat → Call σ ε α) (w : Traffic σ ε α) (a : Action)
    (actions : List Action) :
    w.run p calls (a :: actions) = (w.step p calls a).run p calls actions := rfl

theorem run_append (p : Policy) (calls : Nat → Call σ ε α) (w : Traffic σ ε α)
    (actions later : List Action) :
    w.run p calls (actions ++ later) = (w.run p calls actions).run p calls later :=
  List.foldl_append

theorem step_cancel {n : Nat} {e : Execution ε α} (he : w.execution n = some e)
    (hresult : e.result? = none) :
    w.step p calls (.cancel n) =
      ⟨p.cancel e w.guard, w.now, Function.update w.execution n none,
        w.history ++ [.cancelled n]⟩ := by
  cases e with
  | ended r => cases hresult
  | ready | attempting | pausing => simp only [step, he]

/-- The tasks of a schedule are the executions from number `first` on. -/
def Shows (calls : Nat → Call σ ε α) (w : Traffic σ ε α) (first : Nat)
    (ts : List (Task σ ε α)) : Prop :=
  ∀ i t, ts[i]? = some t → t.call = calls (first + i) ∧ w.execution (first + i) = some t.execution

theorem run_poll (p : Policy) (calls : Nat → Call σ ε α) (n : Nat) {e : Execution ε α}
    (he : w.execution n = some e) (fuel : Nat) :
    ∃ actions,
      let v := w.run p calls actions
      let r := p.poll (calls n) w.now fuel e w.guard
      v.now = w.now ∧ v.guard = r.2 ∧ v.execution = Function.update w.execution n (some r.1) := by
  induction fuel generalizing w e with
  | zero =>
    refine ⟨[], rfl, rfl, ?_⟩
    rw [poll, ← he, Function.update_eq_self]
    rfl
  | succ fuel ih =>
    cases h : p.step (calls n) w.now e w.guard with
    | none =>
      refine ⟨[], rfl, ?_, ?_⟩
      · rw [poll_none h]
        rfl
      · rw [poll_none h, ← he, Function.update_eq_self]
        rfl
    | some next =>
      obtain ⟨e', g⟩ := next
      let u : Traffic σ ε α :=
        ⟨g, w.now, Function.update w.execution n (some e'), w.history ++ seen n e e'⟩
      have hstep : w.step p calls (.poll n) = u := by
        simp only [step, he, h, u]
      obtain ⟨actions, hnow, hguard, hexecution⟩ := ih (w := u) (Function.update_self n _ _)
      refine ⟨.poll n :: actions, ?_⟩
      dsimp only
      rw [run_cons, hstep, poll_some h]
      refine ⟨hnow, hguard, ?_⟩
      rw [hexecution]
      exact Function.update_idem ..

theorem run_pollAll (p : Policy) (calls : Nat → Call σ ε α) {first : Nat}
    {ts : List (Task σ ε α)} (hts : Shows calls w first ts) :
    ∃ actions,
      let v := w.run p calls actions
      let r := Schedule.pollAll p w.now ts w.guard
      v.now = w.now ∧ v.guard = r.2 ∧ Shows calls v first r.1 ∧
        ∀ m, m < first → v.execution m = w.execution m := by
  induction ts generalizing w first with
  | nil => exact ⟨[], rfl, rfl, hts, fun _ _ => rfl⟩
  | cons t ts ih =>
    obtain ⟨hcall, hexecution⟩ := hts 0 t rfl
    rw [Nat.add_zero] at hcall hexecution
    obtain ⟨actions, hnow, hguard, hpolled⟩ := run_poll p calls first hexecution p.stepLimit
    -- the polls of the first execution leave the later ones alone
    have hlater : Shows calls (w.run p calls actions) (first + 1) ts := by
      intro i u hu
      obtain ⟨hc, he⟩ := hts (i + 1) u hu
      have hindex : first + 1 + i = first + (i + 1) := by omega
      have hne : first + (i + 1) ≠ first := by omega
      rw [hindex, hpolled]
      exact ⟨hc, (Function.update_of_ne hne ..).trans he⟩
    obtain ⟨more, hnow', hguard', hshows, hsame⟩ := ih hlater
    have hpollAll : Schedule.pollAll p w.now (t :: ts) w.guard =
        ((Schedule.pollTask p w.now t w.guard).1 ::
          (Schedule.pollAll p (w.run p calls actions).now ts (w.run p calls actions).guard).1,
        (Schedule.pollAll p (w.run p calls actions).now ts (w.run p calls actions).guard).2) := by
      rw [hnow, hguard, ← hcall]
      rfl
    refine ⟨actions ++ more, ?_⟩
    dsimp only
    rw [run_append, hpollAll]
    refine ⟨hnow'.trans hnow, hguard', ?_, ?_⟩
    · intro i u hu
      cases i with
      | zero =>
        cases hu
        refine ⟨hcall, ?_⟩
        rw [Nat.add_zero, hsame first (Nat.lt_succ_self first), hpolled, ← hcall]
        exact Function.update_self ..
      | succ i =>
        have hindex : first + (i + 1) = first + 1 + i := by omega
        rw [hindex]
        exact hshows i u hu
    · intro m hm
      rw [hsame m (Nat.lt_succ_of_lt hm), hpolled]
      exact Function.update_of_ne (Nat.ne_of_lt hm) ..

theorem run_round (p : Policy) (calls : Nat → Call σ ε α) {ts : List (Task σ ε α)} {later : Moment}
    (hts : Shows calls w 0 ts) (hlater : w.now ≤ later) :
    ∃ actions,
      let v := w.run p calls actions
      let r := Schedule.pollAll p w.now ts w.guard
      v.now = later ∧ v.guard = r.2 ∧ Shows calls v 0 r.1 := by
  obtain ⟨actions, hnow, hguard, hshows, -⟩ := run_pollAll p calls hts
  refine ⟨actions ++ [.advance (later - w.now)], ?_⟩
  dsimp only
  rw [run_append]
  refine ⟨?_, hguard, hshows⟩
  show (w.run p calls actions).now + (later - w.now) = later
  rw [hnow, Nat.add_sub_cancel' hlater]

theorem run_schedule (p : Policy) (calls : Nat → Call σ ε α) {deadline : Option Moment}
    {ts : List (Task σ ε α)} (rounds : Nat) (hts : Shows calls w 0 ts)
    (hdeadline : ∀ d ∈ deadline, w.now ≤ d) :
    ∃ actions,
      let v := w.run p calls actions
      let r := Schedule.run p deadline rounds w.now ts w.guard
      v.now = r.1 ∧ v.guard = r.2.2 ∧ Shows calls v 0 r.2.1 := by
  induction rounds generalizing w ts with
  | zero => exact ⟨[], rfl, rfl, hts⟩
  | succ rounds ih =>
    simp only [Schedule.run]
    cases hnext : Schedule.nextMoment (Schedule.pollAll p w.now ts w.guard).1 with
    | none => exact run_round p calls hts (Nat.le_refl _)
    | some later =>
      have hlater : w.now ≤ later := Nat.le_of_lt (Schedule.nextMoment_pollAll hnext).1
      have hgo (hd : ∀ d ∈ deadline, later ≤ d) :
          ∃ actions,
            let v := w.run p calls actions
            let r := Schedule.run p deadline rounds later (Schedule.pollAll p w.now ts w.guard).1
              (Schedule.pollAll p w.now ts w.guard).2
            v.now = r.1 ∧ v.guard = r.2.2 ∧ Shows calls v 0 r.2.1 := by
        obtain ⟨actions, hnow, hguard, hshows⟩ := run_round p calls hts hlater
        rw [← hnow] at hd
        obtain ⟨more, hmore⟩ := ih hshows hd
        rw [hnow, hguard] at hmore
        refine ⟨actions ++ more, ?_⟩
        dsimp only
        rw [run_append]
        exact hmore
      cases deadline with
      | none =>
        refine hgo fun d hd => ?_
        cases hd
      | some d =>
        dsimp only
        split
        · exact run_round p calls hts (hdeadline d rfl)
        next hd =>
          refine hgo fun d' hd' => ?_
          cases hd'
          exact Nat.not_lt.mp hd

end Policy.Traffic

namespace Schedule

open Policy (Action Traffic)

omit [Classified ε] in
theorem shows_idle (calls : Nat → Call σ ε α) (g : Guard σ) (now : Moment) (n : Nat) :
    Traffic.Shows calls (.idle g now) 0 (((List.range n).map calls).map task) := by
  intro i t ht
  simp only [List.getElem?_map, Option.map_map, Option.map_eq_some_iff] at ht
  obtain ⟨j, hj, rfl⟩ := ht
  obtain ⟨hlt, hij⟩ := List.getElem?_eq_some_iff.mp hj
  rw [List.getElem_range] at hij
  rw [Nat.zero_add, hij]
  exact ⟨rfl, rfl⟩

theorem length_pollAll (p : Policy) (now : Moment) (ts : List (Task σ ε α)) (g : Guard σ) :
    (pollAll p now ts g).1.length = ts.length := by
  induction ts generalizing g with
  | nil => rfl
  | cons t ts ih => exact congrArg (· + 1) (ih _)

theorem length_run (p : Policy) (deadline : Option Moment) (rounds : Nat) (now : Moment)
    (ts : List (Task σ ε α)) (g : Guard σ) :
    (run p deadline rounds now ts g).2.1.length = ts.length := by
  induction rounds generalizing now ts g with
  | zero => rfl
  | succ rounds ih =>
    have hpolled := length_pollAll p now ts g
    simp only [run]
    split
    · exact hpolled
    · split
      · split
        · exact hpolled
        · exact (ih ..).trans hpolled
      · exact (ih ..).trans hpolled

/-- Executions that are run together overlap in one of the ways of the traffic, and all return. -/
theorem together_eq_run (p : Policy) (calls : Nat → Call σ ε α) (count : Nat) (now : Moment)
    (g : Guard σ) :
    ∃ actions,
      let v := (Traffic.idle g now).run p calls actions
      let r := together p now ((List.range count).map calls) g
      v.now = r.1 ∧ v.guard = r.2.2 ∧ ∀ n < count, ∃ t answer, r.2.1[n]? = some t ∧
        t.execution = .ended answer ∧ v.execution n = some (.ended answer) := by
  obtain ⟨actions, hnow, hguard, hshows⟩ := Traffic.run_schedule p calls
    (((List.range count).map calls).length * p.stepLimit + 1) (shows_idle calls g now count)
    fun d hd => absurd hd (Option.not_mem_none d)
  refine ⟨actions, hnow, hguard, fun n hn => ?_⟩
  have hlength : (together p now ((List.range count).map calls) g).2.1.length = count := by
    rw [together, length_run, List.length_map, List.length_map, List.length_range]
  have hsome := List.getElem?_eq_getElem (hlength.symm ▸ hn)
  obtain ⟨answer, hended⟩ :=
    together_ended p now ((List.range count).map calls) g _ (List.getElem_mem _)
  have hexecution := (hshows n _ hsome).2
  rw [Nat.zero_add] at hexecution
  exact ⟨_, answer, hsome, hended, hexecution.trans (congrArg some hended)⟩

/-- An execution with a deadline is one that returns or is given up. -/
theorem within_eq_run (p : Policy) (calls : Nat → Call σ ε α) {now deadline : Moment}
    (g : Guard σ) (h : now ≤ deadline) :
    ∃ actions,
      let v := (Traffic.idle g now).run p calls actions
      let r := within p now deadline (calls 0) g
      v.now = r.1 ∧ v.guard = r.2.2 ∧ v.execution 0 = r.2.1.map .ended := by
  have hdeadline : ∀ d ∈ some deadline, now ≤ d := by
    intro d hd
    cases hd
    exact h
  obtain ⟨t, ht⟩ := List.length_eq_one_iff.mp
    (length_run p (some deadline) (p.stepLimit + 1) now [task (calls 0)] g)
  obtain ⟨later, ts, g', hrun⟩ : ∃ later ts g',
      run p (some deadline) (p.stepLimit + 1) now [task (calls 0)] g = (later, ts, g') :=
    ⟨_, _, _, rfl⟩
  obtain ⟨actions, hactions⟩ := Traffic.run_schedule p calls (p.stepLimit + 1)
    (shows_idle calls g now 1) hdeadline
  change let v := _; let r := run p (some deadline) (p.stepLimit + 1) now [task (calls 0)] g
    v.now = r.1 ∧ v.guard = r.2.2 ∧ Traffic.Shows calls v 0 r.2.1 at hactions
  rw [hrun] at ht hactions
  obtain ⟨hnow, hguard, hshows⟩ := hactions
  obtain rfl : ts = [t] := ht
  have hexecution : ((Traffic.idle g now).run p calls actions).execution 0 =
      some t.execution := (hshows 0 t rfl).2
  simp only [within, hrun]
  cases hresult : t.execution.result? with
  | some r =>
    have hended : t.execution = .ended r := by
      cases he : t.execution with
      | ended r' => cases (congrArg Execution.result? he).symm.trans hresult; rfl
      | ready | attempting | pausing => cases (congrArg Execution.result? he).symm.trans hresult
    exact ⟨actions, hnow, hguard, hexecution.trans (congrArg some hended)⟩
  | none =>
    refine ⟨actions ++ [.cancel 0], ?_⟩
    dsimp only
    rw [Traffic.run_append, Traffic.run_cons, Traffic.step_cancel hexecution hresult]
    refine ⟨hnow, congrArg (p.cancel t.execution) hguard, ?_⟩
    simp only [Traffic.run, List.foldl_nil, Function.update_self, Option.map_none]

end Schedule

end AggregateGateway.Resilience
