import AggregateGateway.Proofs.Resilience.ExecutionSteps
import AggregateGateway.Proofs.Resilience.PolicyTraffic
import Mathlib.Data.Nat.Init

/-! Executions come to an end. Each of its steps takes an execution nearer to its end, whatever
happens around it takes it no further away, and it is held up only until the moment it waits for. -/

namespace AggregateGateway.Resilience

open Time (Moment)

variable {σ ε α : Type}

namespace Policy

/-- An execution that was given up has no steps left either. -/
def left (p : Policy) : Option (Execution ε α) → Nat
  | none => 0
  | some e => p.stepsLeft e

theorem stepsLeft_pos {p : Policy} {e : Execution ε α} (he : ∀ r, e ≠ .ended r) :
    0 < p.stepsLeft e := by
  cases e with
  | ended r => exact absurd rfl (he r)
  | ready | attempting | pausing => exact Nat.succ_pos _

/-- Nothing has happened to an execution, or it has come nearer to its end. -/
def NoFurther (p : Policy) (before after : Option (Execution ε α)) : Prop :=
  after = before ∨ p.left after < p.left before

namespace NoFurther

variable {p : Policy} {e e' e'' : Option (Execution ε α)}

theorem left_le (h : p.NoFurther e e') : p.left e' ≤ p.left e := by
  rcases h with rfl | hless
  · exact Nat.le_refl _
  · exact Nat.le_of_lt hless

theorem trans (h : p.NoFurther e e') (h' : p.NoFurther e' e'') : p.NoFurther e e'' := by
  rcases h' with rfl | hless
  · exact h
  · exact .inr (Nat.lt_of_lt_of_le hless h.left_le)

end NoFurther

variable [Classified ε]

namespace Traffic

variable {p : Policy} {calls : Nat → Call σ ε α} {w : Traffic σ ε α} {n : Nat}

/-! ### Overlapping executions -/

theorem noFurther_step (p : Policy) (calls : Nat → Call σ ε α) (w : Traffic σ ε α) (n : Nat)
    (a : Action) : p.NoFurther (w.execution n) ((w.step p calls a).execution n) := by
  cases a with
  | poll m =>
    simp only [step]
    split
    · exact .inl rfl
    next e hm =>
      split
      · exact .inl rfl
      next e' g hstep =>
        by_cases hn : n = m
        · subst hn
          refine .inr ?_
          simp only [Function.update_self, hm, left]
          exact stepsLeft_lt hstep
        · exact .inl (Function.update_of_ne hn ..)
  | cancel m =>
    simp only [step]
    split
    · exact .inl rfl
    · exact .inl rfl
    next e he hm =>
      by_cases hn : n = m
      · subst hn
        refine .inr ?_
        simp only [Function.update_self, hm, left]
        exact stepsLeft_pos he
      · exact .inl (Function.update_of_ne hn ..)
  | trip | reset | advance nanos => exact .inl rfl

/-- An execution that is polled when it is due takes a step. -/
theorem left_poll {e : Execution ε α} (he : w.execution n = some e) (hended : ∀ r, e ≠ .ended r)
    (hdue : ∀ due, e.due? = some due → due ≤ w.now) :
    p.left ((w.step p calls (.poll n)).execution n) < p.left (w.execution n) := by
  cases hstep : p.step (calls n) w.now e w.guard with
  | none =>
    rcases step_eq_none hstep with ⟨r, hr⟩ | ⟨due, hwaits, hlt, -⟩
    · exact absurd hr (hended r)
    · exact absurd (hdue due hwaits) (Nat.not_le.mpr hlt)
  | some next =>
    obtain ⟨e', g⟩ := next
    simp only [step, he, hstep, Function.update_self, left]
    exact stepsLeft_lt hstep

def after (p : Policy) (calls : Nat → Call σ ε α) (w : Traffic σ ε α) (later : Nat → Action) :
    Nat → Traffic σ ε α
  | 0 => w
  | k + 1 => (after p calls w later k).step p calls (later k)

/-- Execution number `n` is polled again and again, at moments as late as one likes. -/
def Attends (p : Policy) (calls : Nat → Call σ ε α) (w : Traffic σ ε α) (n : Nat)
    (later : Nat → Action) : Prop :=
  ∀ k (t : Moment), ∃ i, k ≤ i ∧ later i = .poll n ∧ t ≤ (w.after p calls later i).now

/-- Time goes on by the nanosecond, and after each the execution is polled. -/
def ticking (n i : Nat) : Action :=
  if i % 2 = 0 then .advance 1 else .poll n

theorem now_poll (p : Policy) (calls : Nat → Call σ ε α) (w : Traffic σ ε α) (n : Nat) :
    (w.step p calls (.poll n)).now = w.now := by
  simp only [step]
  split
  · rfl
  · split <;> rfl

theorem now_after_ticking (p : Policy) (calls : Nat → Call σ ε α) (w : Traffic σ ε α) (n k : Nat) :
    (w.after p calls (ticking n) (2 * k + 1)).now = w.now + k + 1 := by
  have htick (i : Nat) (v : Traffic σ ε α) :
      (v.step p calls (ticking n (2 * i))).now = v.now + 1 := by
    rw [ticking, if_pos (Nat.mul_mod_right 2 i)]
    rfl
  have hpoll (i : Nat) : ticking n (2 * i + 1) = .poll n := if_neg (by omega)
  induction k with
  | zero => exact htick 0 w
  | succ k ih =>
    calc (w.after p calls (ticking n) (2 * (k + 1) + 1)).now
        = (w.after p calls (ticking n) (2 * k + 2)).now + 1 := htick (k + 1) _
      _ = (w.after p calls (ticking n) (2 * k + 1)).now + 1 := by
        rw [after, hpoll, now_poll]
      _ = w.now + (k + 1) + 1 := by rw [ih]; rfl

theorem attends_ticking (p : Policy) (calls : Nat → Call σ ε α) (w : Traffic σ ε α) (n : Nat) :
    w.Attends p calls n (ticking n) := by
  intro k t
  refine ⟨2 * max k t + 1, by omega, if_neg (by omega), ?_⟩
  calc t ≤ max k t := Nat.le_max_right k t
    _ ≤ w.now + max k t := Nat.le_add_left _ _
    _ ≤ (w.after p calls (ticking n) (2 * max k t + 1)).now := by
      rw [now_after_ticking]
      exact Nat.le_succ _

theorem noFurther_after (p : Policy) (calls : Nat → Call σ ε α) (w : Traffic σ ε α) (n : Nat)
    (later : Nat → Action) {k i : Nat} (h : k ≤ i) :
    p.NoFurther ((w.after p calls later k).execution n)
      ((w.after p calls later i).execution n) := by
  induction i, h using Nat.le_induction with
  | base => exact .inl rfl
  | succ i _ ih => exact ih.trans (noFurther_step p calls _ n (later i))

/-- Whatever else goes on, an execution that is attended to returns or is given up. -/
theorem Attends.ends {later : Nat → Action} (h : w.Attends p calls n later) (k : Nat) :
    ∃ i, k ≤ i ∧ ((w.after p calls later i).execution n = none ∨
      ∃ r, (w.after p calls later i).execution n = some (.ended r)) := by
  generalize hsteps : p.left ((w.after p calls later k).execution n) = steps
  induction steps using Nat.strongRecOn generalizing k with
  | ind steps ih =>
    cases he : (w.after p calls later k).execution n with
    | none => exact ⟨k, Nat.le_refl k, .inl he⟩
    | some e =>
      by_cases hended : ∃ r, e = .ended r
      · obtain ⟨r, rfl⟩ := hended
        exact ⟨k, Nat.le_refl k, .inr ⟨r, he⟩⟩
      · -- the first poll that comes when the execution is due finds it as it is, or further on
        obtain ⟨i, hki, hpoll, hlate⟩ := h k (e.due?.getD 0)
        have hdue : ∀ due, e.due? = some due → due ≤ (w.after p calls later i).now := by
          intro due hwaits
          rw [hwaits] at hlate
          exact hlate
        have hless : p.left ((w.after p calls later (i + 1)).execution n) < steps := by
          have hstep : w.after p calls later (i + 1) =
              (w.after p calls later i).step p calls (.poll n) := hpoll ▸ rfl
          rw [← hsteps, hstep]
          rcases noFurther_after p calls w n later hki with hsame | hless
          · rw [← hsame]
            exact left_poll (hsame.trans he) (fun r hr => hended ⟨r, hr⟩) hdue
          · exact Nat.lt_of_le_of_lt (noFurther_step p calls _ n (.poll n)).left_le hless
        obtain ⟨j, hij, hj⟩ := ih _ hless (i + 1) rfl
        exact ⟨j, by omega, hj⟩

end Traffic

end Policy

/-! ### Schedules -/

namespace Schedule

def left (p : Policy) : List (Task σ ε α) → Nat
  | [] => 0
  | t :: ts => p.stepsLeft t.execution + left p ts

theorem left_task_le (p : Policy) (calls : List (Call σ ε α)) :
    left p (calls.map task) ≤ calls.length * p.stepLimit := by
  induction calls with
  | nil => exact Nat.zero_le _
  | cons call calls ih =>
    rw [List.map_cons, left, List.length_cons, Nat.succ_mul, Nat.add_comm]
    exact Nat.add_le_add ih (Policy.stepsLeft_le p (task call).execution)

variable [Classified ε] {p : Policy} {now : Moment}

theorem left_pollAll_le (p : Policy) (now : Moment) (ts : List (Task σ ε α)) (g : Guard σ) :
    left p (pollAll p now ts g).1 ≤ left p ts := by
  induction ts generalizing g with
  | nil => exact Nat.le_refl _
  | cons t ts ih =>
    rw [left]
    exact Nat.add_le_add (Policy.stepsLeft_poll_le p t.call now p.stepLimit t.execution g) (ih _)

/-- Some execution takes a step at this moment, whatever the others have made of the guard. -/
def IsDue (p : Policy) (now : Moment) (ts : List (Task σ ε α)) : Prop :=
  ∃ t ∈ ts, ∀ g, p.step t.call now t.execution g ≠ none

theorem left_pollAll_lt {ts : List (Task σ ε α)} (h : IsDue p now ts) (g : Guard σ) :
    left p (pollAll p now ts g).1 < left p ts := by
  obtain ⟨due, hmem, hstep⟩ := h
  induction ts generalizing g with
  | nil => cases hmem
  | cons t ts ih =>
    rw [left]
    rcases List.mem_cons.mp hmem with rfl | hmem
    · exact Nat.add_lt_add_of_lt_of_le
        (Policy.stepsLeft_poll_lt (n := p.stepLimit) (Nat.succ_pos _) (hstep g))
        (left_pollAll_le p now ts _)
    · exact Nat.add_lt_add_of_le_of_lt
        (Policy.stepsLeft_poll_le p t.call now p.stepLimit t.execution g) (ih _ hmem)

/-- A task that has just been polled has ended or waits for a later moment. -/
theorem waits_of_mem_pollAll {ts : List (Task σ ε α)} {g : Guard σ} {t : Task σ ε α}
    (ht : t ∈ (pollAll p now ts g).1) :
    (∃ r, t.execution = .ended r) ∨
      ∃ due, t.execution.due? = some due ∧ now < due ∧
        ∀ g', p.step t.call due t.execution g' ≠ none := by
  induction ts generalizing g with
  | nil => cases ht
  | cons u ts ih =>
    simp only [pollAll, List.mem_cons] at ht
    rcases ht with rfl | ht
    · exact Policy.step_eq_none
        (Policy.step_poll u.call now g (Policy.stepsLeft_le p u.execution))
    · exact ih ht

theorem ended_of_nextMoment {ts : List (Task σ ε α)} {g : Guard σ}
    (h : nextMoment (pollAll p now ts g).1 = none) :
    ∀ t ∈ (pollAll p now ts g).1, ∃ r, t.execution = .ended r := by
  intro t ht
  rcases waits_of_mem_pollAll ht with hended | ⟨due, hdue, -⟩
  · exact hended
  · have hmem : due ∈ (pollAll p now ts g).1.filterMap fun t => t.execution.due? :=
      List.mem_filterMap.mpr ⟨t, ht, hdue⟩
    rw [nextMoment, List.min?_eq_none_iff] at h
    rw [h] at hmem
    cases hmem

theorem nextMoment_pollAll {ts : List (Task σ ε α)} {g : Guard σ} {later : Moment}
    (h : nextMoment (pollAll p now ts g).1 = some later) :
    now < later ∧ IsDue p later (pollAll p now ts g).1 := by
  obtain ⟨t, ht, hdue⟩ := List.mem_filterMap.mp (List.min?_mem h)
  rcases waits_of_mem_pollAll ht with ⟨r, hr⟩ | ⟨due, hdue', hlt, hgoes⟩
  · rw [hr] at hdue
    cases hdue
  · cases hdue.symm.trans hdue'
    exact ⟨hlt, t, ht, hgoes⟩

/-- With a round for each step that is left, a schedule without a deadline comes to its end. -/
theorem run_ended {rounds : Nat} {ts : List (Task σ ε α)} (h : IsDue p now ts)
    (hrounds : left p ts < rounds) (g : Guard σ) :
    ∀ t ∈ (run p none rounds now ts g).2.1, ∃ r, t.execution = .ended r := by
  induction rounds generalizing now ts g with
  | zero => exact absurd hrounds (Nat.not_lt_zero _)
  | succ rounds ih =>
    have hless := left_pollAll_lt h g
    simp only [run]
    cases hnext : nextMoment (pollAll p now ts g).1 with
    | none => exact ended_of_nextMoment hnext
    | some later => exact ih (nextMoment_pollAll hnext).2 (by omega) _

/-- Executions that are run together all return. -/
theorem together_ended (p : Policy) (now : Moment) (calls : List (Call σ ε α)) (g : Guard σ) :
    ∀ t ∈ (together p now calls g).2.1, ∃ r, t.execution = .ended r := by
  cases calls with
  | nil => exact fun t ht => absurd ht List.not_mem_nil
  | cons call calls =>
    have hdue : IsDue p now ((call :: calls).map task) :=
      ⟨task call, List.mem_cons_self, fun g => Policy.step_ready p call now g⟩
    exact run_ended hdue (Nat.lt_succ_of_le (left_task_le p (call :: calls))) g

end Schedule

end AggregateGateway.Resilience
