import AggregateGateway.Proofs.Gateway.AggregateRead
import AggregateGateway.Proofs.Resilience.RetrySeries

/-! The read of an item. It goes one of four ways, which the breaker and the answers to its attempts
decide between them; two of the ways do without the service. -/

namespace AggregateGateway

open Catalog
open Resilience (Refusal Retry.Reply)

/-- Whether the breaker lets a read through, how often it may be attempted, and the replies to the
attempts. -/
structure Attempts where
  isAdmitted : Bool
  limit : Nat
  reply : Nat → Retry.Reply Failure Item

namespace Attempts

/-- Attempt number `k` is made, because the errors before it may all pass. -/
def Reaches (a : Attempts) (k : Nat) : Prop :=
  a.isAdmitted = true ∧ 1 ≤ k ∧ k ≤ a.limit ∧
    ∀ j, 1 ≤ j → j < k → (a.reply j).IsPassing Failure.isTransient

/-- The breaker rejects the read, or each attempt meets with an error that may pass. -/
def Misses (a : Attempts) : Prop :=
  a.isAdmitted = false ∨
    ∀ j, 1 ≤ j → j ≤ a.limit → (a.reply j).IsPassing Failure.isTransient

/-- Attempt number `k` is made and is the last one. -/
def Settles (a : Attempts) (k : Nat) : Prop :=
  a.Reaches k ∧ ¬ (a.reply k).IsPassing Failure.isTransient

variable {a : Attempts} {k l : Nat}

theorem Reaches.not_lt (hk : a.Settles k) (hl : a.Reaches l) : ¬ k < l := by
  intro hlt
  obtain ⟨⟨-, hfirst, -⟩, hsettled⟩ := hk
  exact hsettled (hl.2.2.2 k hfirst hlt)

theorem Settles.unique (hk : a.Settles k) (hl : a.Settles l) : k = l := by
  have hkl := hl.1.not_lt hk
  have hlk := hk.1.not_lt hl
  omega

theorem Settles.not_misses (h : a.Settles k) : ¬ a.Misses := by
  obtain ⟨⟨hadmitted, hfirst, hlimit, -⟩, hsettled⟩ := h
  rintro (hrejected | hall)
  · rw [hadmitted] at hrejected
    cases hrejected
  · exact hsettled (hall k hfirst hlimit)

end Attempts

/-- How the read of an item can go. -/
inductive ItemCourse where
  | found (attempt : Nat) (item : Item)
  | placeholder
  | missing
  | failed (attempt : Nat) (e : Failure)
  deriving DecidableEq

namespace ItemCourse

def Holds (a : Attempts) (id : ItemId) : ItemCourse → Prop
  | .found k item => a.Reaches k ∧ (a.reply k).answer = .ok item
  | .placeholder => a.Misses ∧ id ≠ 13
  | .missing => a.Misses ∧ id = 13
  | .failed k e => a.Reaches k ∧ (a.reply k).answer = .error e ∧ e.isTransient = false

def result (address : String) (id : ItemId) : ItemCourse → Except Failure Item
  | .found _ item => .ok item
  | .placeholder =>
    .ok
      { id
        name := "Fallback item" ++ toString id.toInt
        weight := id
        originAddress := some address }
  | .missing =>
    .error (.notFound ("Item Id: " ++ toString id.toInt ++ " not found in fallback cache!"))
  | .failed _ e => .error e

/-- The course of a read that attempt number `k` settles. -/
def ofAnswer (k : Nat) : Except Failure Item → ItemCourse
  | .ok item => .found k item
  | .error e => .failed k e

/-- The course of a read that does without the service. -/
def standIn (id : ItemId) : ItemCourse :=
  if id = missingItemId then .missing else .placeholder

variable {a : Attempts} {id : ItemId} {address : String}

theorem result_ofAnswer (k : Nat) (answer : Except Failure Item) :
    (ofAnswer k answer).result address id = answer := by
  cases answer <;> rfl

theorem itemResult_of_allowsFallback {refusal : Refusal Failure}
    (h : refusal.allowsFallback = true) :
    itemResult address id (.error refusal) = (standIn id).result address id := by
  by_cases hid : id = missingItemId
  · simp only [itemResult, h, standIn, hid, if_true, Bool.not_true, Bool.false_eq_true, if_false,
      result]
  · simp only [itemResult, h, standIn, hid, Bool.not_true, Bool.false_eq_true, if_false, result]
    rfl

theorem settles_of_found {k : Nat} {item : Item} (h : Holds a id (.found k item)) :
    a.Settles k := by
  obtain ⟨hreaches, hanswer⟩ := h
  refine ⟨hreaches, ?_⟩
  rintro ⟨e, he, -⟩
  rw [hanswer] at he
  cases he

theorem settles_of_failed {k : Nat} {e : Failure} (h : Holds a id (.failed k e)) :
    a.Settles k := by
  obtain ⟨hreaches, hanswer, hfinal⟩ := h
  refine ⟨hreaches, ?_⟩
  rintro ⟨e', he, htransient⟩
  rw [hanswer] at he
  cases he
  rw [hfinal] at htransient
  cases htransient

theorem holds_iff {c : ItemCourse} :
    c.Holds a id ↔
      (∃ k, a.Settles k ∧ c = ofAnswer k (a.reply k).answer) ∨ (a.Misses ∧ c = standIn id) := by
  constructor
  · intro h
    cases c with
    | found k item => exact .inl ⟨k, settles_of_found h, by rw [h.2]; rfl⟩
    | placeholder => exact .inr ⟨h.1, (if_neg h.2).symm⟩
    | missing => exact .inr ⟨h.1, (if_pos h.2).symm⟩
    | failed k e => exact .inl ⟨k, settles_of_failed h, by rw [h.2.1]; rfl⟩
  · rintro (⟨k, ⟨hreaches, hsettled⟩, rfl⟩ | ⟨hmiss, rfl⟩)
    · cases hanswer : (a.reply k).answer with
      | ok item => exact ⟨hreaches, hanswer⟩
      | error e =>
        refine ⟨hreaches, hanswer, ?_⟩
        cases he : e.isTransient with
        | false => rfl
        | true => exact absurd ⟨e, hanswer, he⟩ hsettled
    · by_cases hid : id = missingItemId
      · rw [standIn, if_pos hid]
        exact ⟨hmiss, hid⟩
      · rw [standIn, if_neg hid]
        exact ⟨hmiss, hid⟩

theorem Holds.unique {c c' : ItemCourse} (h : c.Holds a id) (h' : c'.Holds a id) : c = c' := by
  rcases holds_iff.mp h with ⟨k, hk, rfl⟩ | ⟨hmiss, rfl⟩ <;>
    rcases holds_iff.mp h' with ⟨l, hl, rfl⟩ | ⟨hmiss', rfl⟩
  · rw [hk.unique hl]
  · exact absurd hmiss' hk.not_misses
  · exact absurd hmiss hl.not_misses
  · rfl

theorem ofAnswer_ne_placeholder (k : Nat) (answer : Except Failure Item) :
    ofAnswer k answer ≠ .placeholder := by
  intro h
  cases answer <;> cases h

theorem count_settled (id : ItemId) (answer : Except Failure Item) (label : String) :
    (itemMeasurements id (answer.mapError .failed)).count (.count .fallbacks label) = 0 := by
  cases answer <;> rfl

theorem count_standIn {refusal : Refusal Failure} (h : refusal.allowsFallback = true)
    (id : ItemId) (s : Service) :
    (itemMeasurements id (.error refusal)).count (.count .fallbacks s.name) =
      if s = .item ∧ standIn id = .placeholder then 1 else 0 := by
  by_cases hid : id = missingItemId
  · simp [itemMeasurements, standIn, hid]
  · have hne : (id != missingItemId) = true := by simpa using hid
    simp only [itemMeasurements, h, hne, Bool.and_self, if_true, standIn, hid, if_false, and_true]
    cases s <;> rfl

end ItemCourse

variable {ι ρ κ β : Type}

namespace Gateway

/-- The attempts of a read, each cut off at its deadline. -/
def attempts (d : Deployment ι ρ κ β) (w : Wish) (g : Gateway ι ρ κ β) : Attempts where
  isAdmitted := (g.breaker.begin d.settings.policy.breaker g.now).2.isSome
  limit := d.settings.policy.retry.limit
  reply := d.settings.policy.replies (d.items w.id w.options) g.items

theorem itemRead_cases (d : Deployment ι ρ κ β) (w : Wish) (g : Gateway ι ρ κ β) :
    let a := g.attempts d w
    (∃ k, a.Settles k ∧ (g.itemRead d w).result = (a.reply k).answer.mapError .failed) ∨
      (a.Misses ∧ ∃ refusal : Refusal Failure, refusal.allowsFallback = true ∧
        (g.itemRead d w).result = .error refusal) := by
  intro a
  let p := d.settings.policy
  let call := d.items w.id w.options
  let guard : Resilience.Guard ι := ⟨g.breaker, g.registry, g.items⟩
  rcases hbegin : guard.breaker.begin p.breaker g.now with ⟨b, _ | permit⟩
  · have hrejected : a.isAdmitted = false := congrArg (fun x => x.2.isSome) hbegin
    have hlone := Resilience.Policy.lone_rejected call hbegin
    exact .inr ⟨.inl hrejected, .circuitOpen p.name, rfl, congrArg (·.result) hlone⟩
  · have hadmitted : a.isAdmitted = true := congrArg (fun x => x.2.isSome) hbegin
    have hlone := Resilience.Policy.lone_admitted call hbegin
    let run := Resilience.Retry.run p.retry Failure.isTransient a.reply
    have hresult : (g.itemRead d w).result = run.result.mapError .ofFailure :=
      congrArg (·.result) hlone
    have hseries : Resilience.Retry.Series p.retry Failure.isTransient a.reply 1 run :=
      Resilience.Retry.run_series p.retry Failure.isTransient a.reply
    have hreaches : a.Reaches run.attempts :=
      ⟨hadmitted, hseries.first_le, hseries.le_limit, hseries.passing⟩
    rw [hresult]
    rcases hseries.decided.settled_or_exhausted with ⟨hfinal, hr⟩ | ⟨e, hlast, he, hlimit, hr⟩
    · refine .inl ⟨run.attempts, ⟨hreaches, ?_⟩, ?_⟩
      · rintro ⟨e, hanswer, he⟩
        rw [hfinal e hanswer] at he
        cases he
      · rw [hr]
        cases (a.reply run.attempts).answer <;> rfl
    · -- the series went on to the limit, and the error of its last attempt may pass as well
      refine .inr ⟨.inr ?_, .exhausted run.attempts e, rfl, by rw [hr]; rfl⟩
      intro j hfirst hj
      have hlimit : a.limit ≤ run.attempts := Nat.max_le.mpr ⟨hseries.first_le, hlimit⟩
      by_cases hjlast : j < run.attempts
      · exact hseries.passing j hfirst hjlast
      · obtain rfl : j = run.attempts := by omega
        exact ⟨e, hlast, he⟩

theorem count_readItem (d : Deployment ι ρ κ β) (w : Wish) (g : Gateway ι ρ κ β) (label : String) :
    (g.readItem d w).2.registry.count .fallbacks label =
      g.registry.count .fallbacks label +
        (itemMeasurements w.id (g.itemRead d w).result).count (.count .fallbacks label) := by
  have hlone : (g.itemRead d w).guard.registry.count .fallbacks label =
      g.registry.count .fallbacks label :=
    Resilience.Policy.lone_count rfl label d.settings.policy (d.items w.id w.options) g.now _
  simp only [readItem, fetchItems_one, Metrics.Registry.count_recordAll, hlone]

theorem exists_course (d : Deployment ι ρ κ β) (w : Wish) (g : Gateway ι ρ κ β) :
    ∃ c : ItemCourse, c.Holds (g.attempts d w) w.id ∧
      (g.readItem d w).1 = some (c.result d.settings.address w.id) ∧
      ∀ s : Service, (g.readItem d w).2.registry.count .fallbacks s.name =
        g.registry.count .fallbacks s.name + if s = .item ∧ c = .placeholder then 1 else 0 := by
  obtain ⟨hanswer, -⟩ := g.readItem_eq d w
  have hcount := g.count_readItem d w
  rcases g.itemRead_cases d w with ⟨k, hk, hresult⟩ | ⟨hmiss, refusal, hfallback, hresult⟩
  · refine ⟨.ofAnswer k ((g.attempts d w).reply k).answer,
      ItemCourse.holds_iff.mpr (.inl ⟨k, hk, rfl⟩), ?_, ?_⟩
    · rw [hanswer, hresult, ItemCourse.result_ofAnswer]
      cases ((g.attempts d w).reply k).answer <;> rfl
    · intro s
      rw [hcount, hresult, ItemCourse.count_settled,
        if_neg fun h => ItemCourse.ofAnswer_ne_placeholder k _ h.2]
  · refine ⟨.standIn w.id, ItemCourse.holds_iff.mpr (.inr ⟨hmiss, rfl⟩), ?_, ?_⟩
    · rw [hanswer, hresult, ItemCourse.itemResult_of_allowsFallback hfallback]
    · intro s
      rw [hcount, hresult, ItemCourse.count_standIn hfallback]

/-- An attempt that settles a read was not cut off. -/
theorem reply_of_settles {d : Deployment ι ρ κ β} {w : Wish} {g : Gateway ι ρ κ β} {k : Nat}
    (h : (g.attempts d w).Settles k) :
    ((d.items w.id w.options).reply g.items k).answer = ((g.attempts d w).reply k).answer := by
  refine Resilience.Policy.answer_of_cut d.settings.policy fun hlate => ?_
  exact h.2 ⟨.timedOut d.settings.policy.timeout, hlate, rfl⟩

/-- A read of an item goes one way, which the breaker and the answers to its attempts decide. The
placeholder is shown in place of errors that may pass, and is counted. -/
theorem item_read_goes_one_way (d : Deployment ι ρ κ β) (w : Wish) (g : Gateway ι ρ κ β) :
    let a := g.attempts d w
    let service (k : Nat) := ((d.items w.id w.options).reply g.items k).answer
    let answer := (g.readItem d w).1
    let fallbacks (g : Gateway ι ρ κ β) (s : Service) := g.registry.count .fallbacks s.name
    (∃ c : ItemCourse, (c.Holds a w.id ∧ ∀ c' : ItemCourse, c'.Holds a w.id → c' = c) ∧
      answer = some (c.result d.settings.address w.id) ∧
      ∀ s, fallbacks (g.readItem d w).2 s =
        fallbacks g s + if s = .item ∧ c = .placeholder then 1 else 0) ∧
    (∀ e, answer = some (.error e) → e.isTransient = false) ∧
    (∀ m, answer = some (.error (.circuitOpen m)) →
      ∃ k, a.Reaches k ∧ service k = .error (.circuitOpen m)) ∧
    (w.id = 13 → ∀ item, answer = some (.ok item) → ∃ k, a.Reaches k ∧ service k = .ok item) ∧
    ∀ k e, a.Reaches k → (a.reply k).answer = .error e → e.isTransient = false →
      answer = some (.error e) ∧ service k = .error e ∧
        ∀ s, fallbacks (g.readItem d w).2 s = fallbacks g s := by
  intro a service answer fallbacks
  obtain ⟨c, hholds, hanswer, hcount⟩ := g.exists_course d w
  refine ⟨⟨c, ⟨hholds, fun c' h => h.unique hholds⟩, hanswer, hcount⟩, ?_, ?_, ?_, ?_⟩
  · intro e he
    have hresult := Option.some.inj (hanswer.symm.trans he)
    cases c with
    | found k item => cases hresult
    | placeholder => cases hresult
    | missing =>
      cases hresult
      rfl
    | failed k e' =>
      cases hresult
      exact hholds.2.2
  · intro m hm
    have hresult := Option.some.inj (hanswer.symm.trans hm)
    cases c with
    | found k item => cases hresult
    | placeholder => cases hresult
    | missing => cases hresult
    | failed k e =>
      cases hresult
      have hk := ItemCourse.settles_of_failed hholds
      exact ⟨k, hk.1, (reply_of_settles hk).trans hholds.2.1⟩
  · intro hid item hitem
    have hresult := Option.some.inj (hanswer.symm.trans hitem)
    cases c with
    | found k item' =>
      cases hresult
      have hk := ItemCourse.settles_of_found hholds
      exact ⟨k, hk.1, (reply_of_settles hk).trans hholds.2⟩
    | placeholder => exact absurd hid hholds.2
    | missing => cases hresult
    | failed k e => cases hresult
  · intro k e hk he hfinal
    have hfailed : ItemCourse.Holds a w.id (.failed k e) := ⟨hk, he, hfinal⟩
    obtain rfl : c = .failed k e := hholds.unique hfailed
    refine ⟨hanswer, (reply_of_settles (ItemCourse.settles_of_failed hfailed)).trans he, ?_⟩
    intro s
    have hs := hcount s
    rwa [if_neg fun h => ItemCourse.noConfusion h.2, Nat.add_zero] at hs

/-- The item is there at the second attempt; with the circuit open it is not asked for, and the
placeholder is counted. -/
theorem item_read_goes_one_way_at_second_attempt :
    let d := Rehearsal.withoutRatings.deployment
    let g := Rehearsal.withoutRatings.gateway
    let tripped := { g with breaker := g.breaker.trip g.now }
    let w : Wish := ⟨7, 0, 0, none⟩
    (g.attempts d w).Reaches 2 ∧ (g.readItem d w).1 = some (.ok (usualItem 7)) ∧
      (g.readItem d w).2.registry.count .fallbacks "item" = 0 ∧
      (tripped.readItem d w).1 = some (.ok ⟨7, "Fallback item7", 7, some "localhost:8080"⟩) ∧
      (tripped.readItem d w).2.registry.count .fallbacks "item" = 1 := by
  intro d g tripped w
  have hfirst : ((g.attempts d w).reply 1).answer = .error (.transport "reset") := by rfl
  have hsecond : ((g.attempts d w).reply 2).answer = .ok (usualItem 7) := by rfl
  have hreaches : (g.attempts d w).Reaches 2 := by
    refine ⟨by decide +kernel, by decide, by decide +kernel, fun j hj hlt => ?_⟩
    obtain rfl : j = 1 := by omega
    exact ⟨_, hfirst, rfl⟩
  have hmisses : (tripped.attempts d w).Misses := .inl (by decide +kernel)
  obtain ⟨c, ⟨-, hunique⟩, hanswer, hcount⟩ := (item_read_goes_one_way d w g).1
  obtain rfl := hunique (.found 2 (usualItem 7)) ⟨hreaches, hsecond⟩
  obtain ⟨c, ⟨-, hunique⟩, hstandIn, hcounted⟩ := (item_read_goes_one_way d w tripped).1
  obtain rfl := hunique .placeholder ⟨hmisses, by decide⟩
  refine ⟨hreaches, hanswer, (hcount .item).trans ?_, hstandIn.trans ?_, (hcounted .item).trans ?_⟩
  all_goals decide +kernel

end Gateway

end AggregateGateway
