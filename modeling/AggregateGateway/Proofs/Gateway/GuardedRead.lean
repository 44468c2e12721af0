import AggregateGateway.Proofs.Gateway.AggregateRead
import AggregateGateway.Proofs.Resilience.TimedCalls

/-! The guarded read of an item, polled by whoever has a reason to. A poll that comes early does
nothing, and if none comes late the read takes its one course. -/

namespace AggregateGateway

open Catalog
open Metrics (Measurement)
open Publish (Pool)
open Resilience (Breaker Call Execution Guard Refusal)
open Resilience.Policy (IsEnd TimedMove TimedReaches)
open Time (Moment)

/-- What happens while an aggregate is being read. -/
inductive Happening (ι : Type) where
  /-- The read of the item is polled. -/
  | item
  | ratings
  | commentary
  /-- Other requests use the breaker and the service of the items. -/
  | other (change : Breaker × ι → Breaker × ι) (ms : List Measurement)

def Happening.isOther {ι : Type} : Happening ι → Bool
  | .other .. => true
  | _ => false

/-- The read of an item and all that it has to do with. The service notes what it is asked for
and when. -/
structure GuardedRead (ι β : Type) where
  item : Execution Failure Item
  guard : Guard (ι × List (Moment × Wish))
  pool : Pool
  channel : β

variable {ι β : Type}

def callAt (items : Source ι Item) (w : Wish) (now : Moment) :
    Call (ι × List (Moment × Wish)) Failure Item :=
  (items w.id w.options).noted (now, w)

def endMeasurements (id : ItemId) (e : Execution Failure Item) : List Measurement :=
  (e.result?.map (itemMeasurements id)).getD []

def Resilience.Guard.recordAll {σ : Type} (g : Guard σ) (ms : List Measurement) : Guard σ :=
  { g with registry := g.registry.recordAll ms }

namespace GuardedRead

section Steps

variable (s : Settings) (items : Source ι Item) (w : Wish)

def poll (now : Moment) (v : GuardedRead ι β) : GuardedRead ι β :=
  match s.policy.step (callAt items w now) now v.item v.guard with
  | none => v
  | some (item, guard) => { v with item, guard := guard.recordAll (endMeasurements w.id item) }

def step (v : GuardedRead ι β) : Moment × Happening ι → GuardedRead ι β
  | (now, .item) => v.poll s items w now
  | (_, .ratings) | (_, .commentary) => v
  | (_, .other change ms) =>
    let (breaker, items) := change (v.guard.breaker, v.guard.service.1)
    { v with
      guard := ⟨breaker, (v.guard.registry.recordAll ms).without .degradedReads,
        items, v.guard.service.2⟩ }

def run (v : GuardedRead ι β) (happenings : List (Moment × Happening ι)) : GuardedRead ι β :=
  happenings.foldl (step s items w) v

/-- Polls of the item that find something to do, and the doings of other requests. -/
def essential (v : GuardedRead ι β) :
    List (Moment × Happening ι) → List (Moment × Happening ι)
  | [] => []
  | (now, x) :: later =>
    let rest := (v.step s items w (now, x)).essential later
    match x with
    | .ratings | .commentary => rest
    | .item =>
      if (s.policy.step (callAt items w now) now v.item v.guard).isSome then (now, .item) :: rest
      else rest
    | .other change ms => (now, .other change ms) :: rest

/-- The moment until which nothing may keep the read waiting. -/
def limit? (now : Moment) (v : GuardedRead ι β) : Option Moment :=
  match v.item with
  | .ready => some now
  | e => e.due?.map (max now)

/-- Nothing comes later than what the read waits for, and no other request is at work. -/
def IsPrompt : Moment → GuardedRead ι β → List (Moment × Happening ι) → Prop
  | _, _, [] => True
  | now, v, x :: later =>
    now ≤ x.1 ∧ (∀ limit ∈ v.limit? now, x.1 ≤ limit) ∧ x.2.isOther = false ∧
      IsPrompt x.1 (v.step s items w x) later

end Steps

variable {s : Settings} {items : Source ι Item} {w : Wish} {v : GuardedRead ι β}

theorem step_keeps (s : Settings) (items : Source ι Item) (w : Wish) (v : GuardedRead ι β)
    (x : Moment × Happening ι) :
    (v.step s items w x).pool = v.pool ∧ (v.step s items w x).channel = v.channel := by
  obtain ⟨now, x⟩ := x
  cases x with
  | item =>
    simp only [step, poll]
    split
    · exact ⟨rfl, rfl⟩
    · exact ⟨rfl, rfl⟩
  | ratings | commentary | other => exact ⟨rfl, rfl⟩

theorem run_keeps (s : Settings) (items : Source ι Item) (w : Wish) (v : GuardedRead ι β)
    (happenings : List (Moment × Happening ι)) :
    (v.run s items w happenings).pool = v.pool ∧
      (v.run s items w happenings).channel = v.channel := by
  induction happenings generalizing v with
  | nil => exact ⟨rfl, rfl⟩
  | cons x happenings ih =>
    obtain ⟨hpool, hchannel⟩ := ih (v.step s items w x)
    obtain ⟨hpool', hchannel'⟩ := step_keeps s items w v x
    exact ⟨hpool.trans hpool', hchannel.trans hchannel'⟩

theorem poll_of_idle {now : Moment}
    (h : s.policy.step (callAt items w now) now v.item v.guard = none) :
    v.poll s items w now = v := by
  simp only [poll, h]

theorem run_essential (v : GuardedRead ι β) (happenings : List (Moment × Happening ι)) :
    v.run s items w (v.essential s items w happenings) = v.run s items w happenings := by
  induction happenings generalizing v with
  | nil => rfl
  | cons x happenings ih =>
    obtain ⟨now, x⟩ := x
    have hrun : v.run s items w ((now, x) :: happenings) =
        (v.step s items w (now, x)).run s items w happenings := rfl
    rw [hrun, ← ih]
    cases x with
    | item =>
      cases h : s.policy.step (callAt items w now) now v.item v.guard with
      | none =>
        have hidle : v.step s items w (now, .item) = v := poll_of_idle h
        simp only [essential, h, Option.isSome_none, Bool.false_eq_true, if_false, hidle]
      | some y => simp only [essential, h, Option.isSome_some, if_true]; rfl
    | ratings => rfl
    | commentary => rfl
    | other change ms => rfl

theorem le_limit {now limit : Moment} (h : limit ∈ v.limit? now) : now ≤ limit := by
  simp only [limit?] at h
  split at h
  · exact Nat.le_of_eq (Option.some.inj h)
  · obtain ⟨due, -, rfl⟩ := Option.map_eq_some_iff.mp h
    exact Nat.le_max_left _ _

theorem limit_of_ready {now : Moment} (h : v.item = .ready) : v.limit? now = some now := by
  simp only [limit?, h]

theorem limit_of_due {now due : Moment} (h : v.item.due? = some due) :
    v.limit? now = some (max now due) := by
  simp only [limit?]
  split
  · next hready =>
    rw [hready] at h
    cases h
  · rw [h, Option.map_some]

theorem limit_of_ended {now : Moment} {r : Except (Refusal Failure) Item}
    (h : v.item = .ended r) : v.limit? now = none := by
  simp only [limit?, h]
  rfl

theorem ready_or_due {e : Execution Failure Item} (h : e.result? = none) :
    e = .ready ∨ ∃ due, e.due? = some due := by
  cases e with
  | ready => exact .inl rfl
  | attempting permit attempt due answer => exact .inr ⟨due, rfl⟩
  | pausing permit attempt due => exact .inr ⟨due, rfl⟩
  | ended r => cases h

/-! ### The course of a read -/

/-- The read is on its way to an end, or it has come to that end. -/
def OnCourse (s : Settings) (items : Source ι Item) (w : Wish) (r : Except (Refusal Failure) Item)
    (last : Guard (ι × List (Moment × Wish))) (now : Moment) (v : GuardedRead ι β) : Prop :=
  (v.item.result? = none ∧ ∃ moment, TimedReaches s.policy (callAt items w)
    (now, v.item, v.guard) (moment, .ended r, last)) ∨
  (v.item = .ended r ∧ v.guard = last.recordAll (itemMeasurements w.id r))

namespace OnCourse

variable {r : Except (Refusal Failure) Item} {last : Guard (ι × List (Moment × Wish))}
  {now later : Moment}

theorem wait (h : OnCourse s items w r last now v) (hnow : now ≤ later)
    (hlimit : ∀ limit ∈ v.limit? now, later ≤ limit) : OnCourse s items w r last later v := by
  rcases h with ⟨hgoing, moment, hreaches⟩ | hended
  · refine .inl ⟨hgoing, moment, ?_⟩
    rcases ready_or_due hgoing with hready | ⟨due, hdue⟩
    · have hlate : later ≤ now := hlimit now (limit_of_ready hready)
      rw [Nat.le_antisymm hlate hnow]
      exact hreaches
    · have hlate : later ≤ max now due := hlimit _ (limit_of_due hdue)
      rcases Nat.lt_or_ge now due with hlt | hge
      · -- the course leads through `due`, and nothing can be done before
        have hidle := Resilience.Policy.step_early s.policy (callAt items w now) v.guard hdue hlt
        have hafter := hreaches.after_move ⟨r, rfl⟩ (.wait hidle hdue)
        rw [Nat.max_eq_right (Nat.le_of_lt hlt)] at hlate
        exact (TimedReaches.due s.policy (callAt items w) v.guard hdue hlate).trans hafter
      · rw [Nat.max_eq_left hge] at hlate
        rw [Nat.le_antisymm hlate hnow]
        exact hreaches
  · exact .inr hended

theorem poll (h : OnCourse s items w r last now v) :
    OnCourse s items w r last now (v.poll s items w now) := by
  cases hstep : s.policy.step (callAt items w now) now v.item v.guard with
  | none =>
    rw [poll_of_idle hstep]
    exact h
  | some x =>
    obtain ⟨e, g⟩ := x
    have hpoll : v.poll s items w now =
        { v with item := e, guard := g.recordAll (endMeasurements w.id e) } := by
      simp only [GuardedRead.poll, hstep]
    rw [hpoll]
    rcases h with ⟨-, moment, hreaches⟩ | ⟨hended, -⟩
    · have hafter := hreaches.after_move ⟨r, rfl⟩ (.step hstep)
      cases hresult : e.result? with
      | none =>
        have hnone : g.recordAll (endMeasurements w.id e) = g := by
          simp only [endMeasurements, hresult]
          rfl
        rw [hnone]
        exact .inl ⟨hresult, moment, hafter⟩
      | some r' =>
        have hend : e = .ended r' := by
          cases e with
          | ended r'' => cases hresult; rfl
          | ready | attempting | pausing => cases hresult
        subst hend
        cases TimedReaches.eq_of_end hafter ⟨r', rfl⟩
        exact .inr ⟨rfl, rfl⟩
    · rw [hended] at hstep
      cases hstep

theorem step (h : OnCourse s items w r last now v) {x : Moment × Happening ι} (hnow : now ≤ x.1)
    (hlimit : ∀ limit ∈ v.limit? now, x.1 ≤ limit) (hother : x.2.isOther = false) :
    OnCourse s items w r last x.1 (v.step s items w x) := by
  have hlater := h.wait hnow hlimit
  obtain ⟨t, x⟩ := x
  cases x with
  | item => exact hlater.poll
  | ratings => exact hlater
  | commentary => exact hlater
  | other => cases hother

theorem run {happenings : List (Moment × Happening ι)} (h : OnCourse s items w r last now v)
    (hprompt : IsPrompt s items w now v happenings) :
    ∃ moment, OnCourse s items w r last moment (v.run s items w happenings) := by
  induction happenings generalizing now v with
  | nil => exact ⟨now, h⟩
  | cons x happenings ih =>
    obtain ⟨hnow, hlimit, hother, hlater⟩ := hprompt
    exact ih (h.step hnow hlimit hother) hlater

theorem log_isPrefix (h : OnCourse s items w r last now v) :
    v.guard.service.2 <+: last.service.2 := by
  rcases h with ⟨-, moment, hreaches⟩ | ⟨-, hguard⟩
  · exact TimedReaches.log_isPrefix hreaches
  · rw [hguard]
    exact List.prefix_rfl

theorem ended (h : OnCourse s items w r last now v) {r' : Except (Refusal Failure) Item}
    (hr : v.item.result? = some r') :
    r' = r ∧ v.guard = last.recordAll (itemMeasurements w.id r) := by
  rcases h with ⟨hgoing, -⟩ | ⟨hended, hguard⟩
  · rw [hgoing] at hr
    cases hr
  · rw [hended] at hr
    exact ⟨(Option.some.inj hr).symm, hguard⟩

end OnCourse

/-- If it is polled in time, a read that has a course before it comes to its end. -/
theorem exists_prompt {r : Except (Refusal Failure) Item}
    {x y : Moment × Execution Failure Item × Guard (ι × List (Moment × Wish))}
    (h : TimedReaches s.policy (callAt items w) x y) (hy : y.2.1 = .ended r) :
    ∀ (now : Moment) (v : GuardedRead ι β), v.item = x.2.1 →
      (v.item.result? = none → v.guard = x.2.2) → now ≤ x.1 →
      (∀ limit ∈ v.limit? now, x.1 ≤ limit) →
      ∃ happenings moment, (∀ z ∈ happenings, z.2 = .item) ∧
        (v.run s items w happenings).item = .ended r ∧
        ∀ later, IsPrompt s items w moment (v.run s items w happenings) later →
          IsPrompt s items w now v (happenings ++ later) := by
  -- each step of the course is a poll at its moment; a wait only moves the next poll
  induction h using Relation.ReflTransGen.head_induction_on with
  | refl =>
    intro now v hitem _ _ _
    exact ⟨[], now, by simp, hitem.trans hy, fun later hlater => hlater⟩
  | head hmove _ ih =>
    intro now v hitem hguard hnow hlimit
    cases hmove with
    | @step t e e' g g' hstep =>
      have hgoing : v.item.result? = none := by
        cases he : v.item with
        | ended r' =>
          obtain rfl : e = .ended r' := hitem.symm.trans he
          cases hstep
        | ready | attempting | pausing => rfl
      obtain rfl : v.item = e := hitem
      obtain rfl : v.guard = g := hguard hgoing
      let v' := v.step s items w (t, .item)
      have hv' : v' = { v with item := e', guard := g'.recordAll (endMeasurements w.id e') } := by
        simp only [v', GuardedRead.step, GuardedRead.poll, hstep]
      have hguard' : v'.item.result? = none → v'.guard = g' := by
        rw [hv']
        intro hnone
        simp only [endMeasurements, hnone]
        rfl
      obtain ⟨happenings, moment, hitems, hend, hprompt⟩ :=
        ih t v' (by rw [hv']) hguard' (Nat.le_refl t) fun limit hl => le_limit hl
      refine ⟨(t, .item) :: happenings, moment, ?_, hend, ?_⟩
      · simpa using hitems
      · intro later hlater
        exact ⟨hnow, hlimit, rfl, hprompt later hlater⟩
    | @wait t due e g hidle hdue =>
      have hgoing : v.item.result? = none := by
        rw [hitem]
        cases e with
        | ended r' => cases hdue
        | ready | attempting | pausing => rfl
      have hlt : t < due := by
        refine Decidable.byContradiction fun hlt => ?_
        rcases Resilience.Policy.step_eq_none hidle with ⟨r', rfl⟩ | ⟨due', hdue', hlate, -⟩
        · cases hdue
        · cases hdue'.symm.trans hdue
          exact hlt hlate
      refine ih now v hitem hguard (Nat.le_trans hnow (Nat.le_of_lt hlt)) ?_
      intro limit hl
      rw [limit_of_due (by rw [hitem]; exact hdue)] at hl
      rw [← Option.some.inj hl]
      exact Nat.le_max_right _ _

end GuardedRead

end AggregateGateway
