import AggregateGateway.Gateway.Rehearsal
import AggregateGateway.Proofs.Resilience.LoneExecution

/-! Reading one aggregate: a guarded read of the item and one read each of the ratings and of the
commentary, all of which begin at the same moment. -/

namespace AggregateGateway

open Catalog
open Metrics (Metric)
open Resilience (Refusal)

variable {ι ρ κ β : Type}

/-- The services of a deployment note what they are asked for. -/
def Deployment.noting (d : Deployment ι ρ κ β) :
    Deployment (ι × List Wish) (ρ × List Wish) (κ × List Wish) β where
  settings := d.settings
  items := fun id options => (d.items id options).noted ⟨id, options⟩
  ratings := fun id options => (d.ratings id options).noted ⟨id, options⟩
  commentary := fun id options => (d.commentary id options).noted ⟨id, options⟩
  probe := d.probe
  publish := d.publish
  showsMetrics := d.showsMetrics

namespace Gateway

def noting (g : Gateway ι ρ κ β) :
    Gateway (ι × List Wish) (ρ × List Wish) (κ × List Wish) β where
  now := g.now
  breaker := g.breaker
  registry := g.registry
  pool := g.pool
  items := (g.items, [])
  ratings := (g.ratings, [])
  commentary := (g.commentary, [])
  channel := g.channel

/-- The guarded read of an item, without a schedule. -/
def itemRead (d : Deployment ι ρ κ β) (w : Wish) (g : Gateway ι ρ κ β) :
    Resilience.Policy.Lone ι Failure Item :=
  d.settings.policy.lone (d.items w.id w.options) g.now ⟨g.breaker, g.registry, g.items⟩

theorem fetchItems_one (d : Deployment ι ρ κ β) (w : Wish) (g : Gateway ι ρ κ β) :
    let x := g.itemRead d w
    g.fetchItems d [w] =
      ([⟨some (itemResult d.settings.address w.id x.result), x.moment⟩],
        { g with
          breaker := x.guard.breaker
          items := x.guard.service
          registry := x.guard.registry.recordAll (itemMeasurements w.id x.result) }) := by
  intro x
  have htogether := Resilience.Policy.together_lone d.settings.policy (d.items w.id w.options)
    g.now ⟨g.breaker, g.registry, g.items⟩
  simp only [fetchItems, List.map_cons, List.map_nil, htogether, List.zip_cons_cons,
    List.zip_nil_left, List.flatMap_cons, List.flatMap_nil, List.append_nil]
  rfl

theorem check_ok {w : Wish} (hid : 1 ≤ w.id) (hfault : w.options.faultPercent ≤ 100) :
    w.check = .ok () := by
  have hid' : ¬ w.id < firstItemId := Int32.not_lt.mpr hid
  have hfault' : ¬ maxFaultPercent < w.options.faultPercent := UInt32.not_lt.mpr hfault
  simp only [Wish.check, checkId, hid', hfault', if_false]

theorem readItem_eq (d : Deployment ι ρ κ β) (w : Wish) (g : Gateway ι ρ κ β) :
    let x := g.itemRead d w
    (g.readItem d w).1 = some (itemResult d.settings.address w.id x.result) ∧
      (g.readItem d w).2.now = x.moment := by
  intro x
  have hlate : g.now ≤ x.moment := Resilience.Policy.le_lone_moment ..
  simp only [readItem, fetchItems_one]
  exact ⟨rfl, Nat.max_eq_right hlate⟩

theorem read_eq (d : Deployment ι ρ κ β) {w : Wish} (g : Gateway ι ρ κ β) (hw : w.check = .ok ()) :
    let x := g.itemRead d w
    let ratings := d.ratings w.id w.options g.ratings
    let commentary := d.commentary w.id w.options g.commentary
    g.read d w =
      (some ((itemResult d.settings.address w.id x.result).map fun i =>
          View.assemble i (recordsOf ratings.1.answer) (recordsOf commentary.1.answer)
            d.settings.address),
        { now := max x.moment (max (g.now + ratings.1.latency) (g.now + commentary.1.latency))
          breaker := x.guard.breaker
          registry := ((x.guard.registry.recordAll (itemMeasurements w.id x.result)).recordAll
            (recordMeasurements .ratings ratings.1.answer)).recordAll
              (recordMeasurements .commentary commentary.1.answer)
          pool := g.pool
          items := x.guard.service
          ratings := ratings.2
          commentary := commentary.2
          channel := g.channel }) := by
  intro x ratings commentary
  have hlate : g.now ≤ x.moment := Resilience.Policy.le_lone_moment ..
  have hlast : max g.now (max x.moment
      (max (g.now + ratings.1.latency) (g.now + commentary.1.latency))) =
        max x.moment (max (g.now + ratings.1.latency) (g.now + commentary.1.latency)) :=
    Nat.max_eq_right (Nat.le_trans hlate (Nat.le_max_left _ _))
  have hadmitted : [w].filter Wish.isAdmitted = [w] := by
    simp only [List.filter_cons, Wish.isAdmitted, hw, List.filter_nil]
    rfl
  simp only [read, readTogether, hadmitted, readAdmitted, fetchItems_one, fetchDetails,
    List.zipWith_cons_cons, List.zipWith_nil_left, withRefusals, hw]
  rw [← hlast]
  rfl

theorem firstAddress_map {α : Type} (f : α → Option String) (l : List α) :
    firstAddress (l.map f) = (l.head?.bind f).getD "" := by
  cases l <;> rfl

theorem assemble_eq (i : Item) (ratings : List Rating) (commentary : List Commentary)
    (address : String) :
    View.assemble i ratings commentary address =
      { id := i.id
        name := i.name
        weight := i.weight
        ratings := ratings.map Rating.summary
        commentary := commentary.map Commentary.summary
        addresses :=
          { composite := address
            item := i.originAddress.getD ""
            ratings := (ratings.head?.bind Rating.originAddress).getD ""
            commentary := (commentary.head?.bind Commentary.originAddress).getD "" } } := by
  simp only [View.assemble, firstAddress_map]

/-! ### Counters -/

theorem count_recordMeasurements {α : Type} (t s : Service) (answer : Except Failure (List α)) :
    (recordMeasurements t answer).count (.count .degradedReads s.name) =
      if s = t ∧ answer.isOk = false then 1 else 0 := by
  cases answer with
  | ok rs => simp [recordMeasurements, Except.isOk, Except.toBool]
  | error e =>
    cases t <;> cases s <;> rfl

theorem count_recordMeasurements_fallbacks {α : Type} (t : Service) (label : String)
    (answer : Except Failure (List α)) :
    (recordMeasurements t answer).count (.count .fallbacks label) = 0 := by
  cases answer <;> rfl

theorem count_itemMeasurements_degradedReads (id : ItemId) (label : String)
    (r : Except (Refusal Failure) Item) :
    (itemMeasurements id r).count (.count .degradedReads label) = 0 := by
  cases r with
  | ok i => rfl
  | error refusal =>
    simp only [itemMeasurements]
    split <;> rfl

theorem count_itemMeasurements (address : String) (id : ItemId) (s : Service)
    (r : Except (Refusal Failure) Item) :
    (itemMeasurements id r).count (.count .fallbacks s.name) =
      if s = .item ∧ r.isOk = false ∧ (itemResult address id r).isOk then 1 else 0 := by
  cases r with
  | ok i => simp [itemMeasurements, Except.isOk, Except.toBool]
  | error refusal =>
    cases hfallback : refusal.allowsFallback with
    | false => simp [itemMeasurements, itemResult, hfallback, Except.isOk, Except.toBool]
    | true =>
      by_cases hid : id = missingItemId
      · simp [itemMeasurements, itemResult, hfallback, hid, Except.isOk, Except.toBool]
      · have hne : (id != missingItemId) = true := by simpa using hid
        simp only [itemMeasurements, itemResult, hfallback, hid, hne, Bool.and_self, if_true]
        cases s <;> rfl

/-- The read of an aggregate. Ratings and commentary are read once each, the item not at all if the
breaker rejects the read and else as often as the policy allows at most, all of them for the wish
as it is. It takes as long as the slowest of its parts and fails as the read of the item alone
does; a failed read of ratings or commentary leaves its list empty and is counted, and so is a
placeholder. -/
theorem read_contract (d : Deployment ι ρ κ β) (w : Wish) (g : Gateway ι ρ κ β)
    (hid : 1 ≤ w.id) (hfault : w.options.faultPercent ≤ 100) :
    let x := g.itemRead d w
    let item := itemResult d.settings.address w.id x.result
    let ratings := (d.ratings w.id w.options g.ratings).1.answer
    let commentary := (d.commentary w.id w.options g.commentary).1.answer
    let noted := g.noting.read d.noting w
    (noted.1 = (g.read d w).1 ∧ noted.2.ratings.2 = [w] ∧ noted.2.commentary.2 = [w] ∧
      noted.2.items.2 = List.replicate x.attempts w ∧
      (x.attempts = 0 ↔ (g.breaker.begin d.settings.policy.breaker g.now).2 = none) ∧
      x.attempts ≤ max 1 d.settings.policy.retry.maxAttempts) ∧
    ((g.readItem d w).2.now = x.moment ∧
      (g.readRatings d w).2.now = g.now + (d.ratings w.id w.options g.ratings).1.latency ∧
      (g.readCommentary d w).2.now = g.now + (d.commentary w.id w.options g.commentary).1.latency ∧
      (g.read d w).2.now =
        max (g.readItem d w).2.now (max (g.readRatings d w).2.now (g.readCommentary d w).2.now)) ∧
    ((g.readItem d w).1 = some item ∧
      (g.read d w).1 = some (item.map fun i =>
        { id := i.id
          name := i.name
          weight := i.weight
          ratings := (ratings.toOption.getD []).map Rating.summary
          commentary := (commentary.toOption.getD []).map Commentary.summary
          addresses :=
            { composite := d.settings.address
              item := i.originAddress.getD ""
              ratings := ((ratings.toOption.getD []).head?.bind Rating.originAddress).getD ""
              commentary :=
                ((commentary.toOption.getD []).head?.bind Commentary.originAddress).getD "" } })) ∧
    ∀ s : Service,
      (g.read d w).2.registry.count .degradedReads s.name =
        g.registry.count .degradedReads s.name +
          ((if s = .ratings ∧ ratings.isOk = false then 1 else 0) +
            if s = .commentary ∧ commentary.isOk = false then 1 else 0) ∧
      (g.read d w).2.registry.count .fallbacks s.name =
        g.registry.count .fallbacks s.name +
          if s = .item ∧ x.result.isOk = false ∧ item.isOk then 1 else 0 := by
  intro x item ratings commentary noted
  have hw := check_ok hid hfault
  have hread := read_eq d g hw
  have hnoted := read_eq d.noting g.noting hw
  obtain ⟨hresult, hmoment, hlog⟩ := Resilience.Policy.lone_noted (⟨w.id, w.options⟩ : Wish)
    d.settings.policy (d.items w.id w.options) g.now ⟨g.breaker, g.registry, g.items⟩
  obtain ⟨hzero, hmax⟩ := Resilience.Policy.lone_attempts d.settings.policy
    (d.items w.id w.options) g.now ⟨g.breaker, g.registry, g.items⟩
  obtain ⟨hitem, hitemNow⟩ := readItem_eq d w g
  have hcount (metric : Metric) (hmetric : metric.isOfPolicy = false) (label : String) :
      x.guard.registry.count metric label = g.registry.count metric label :=
    Resilience.Policy.lone_count hmetric label d.settings.policy (d.items w.id w.options) g.now
      ⟨g.breaker, g.registry, g.items⟩
  refine ⟨⟨?_, ?_, ?_, ?_, hzero, hmax⟩, ⟨hitemNow, rfl, rfl, ?_⟩, ⟨hitem, ?_⟩, fun s => ⟨?_, ?_⟩⟩
  · have hsame : (g.noting.itemRead d.noting w).result = x.result := hresult
    show (g.noting.read d.noting w).1 = (g.read d w).1
    rw [hread, hnoted, hsame]
    rfl
  · exact congrArg (fun r => r.2.ratings.2) hnoted
  · exact congrArg (fun r => r.2.commentary.2) hnoted
  · exact (congrArg (fun r => r.2.items.2) hnoted).trans hlog
  · rw [hitemNow]
    exact congrArg (fun r => r.2.now) hread
  · exact (congrArg Prod.fst hread).trans (congrArg (fun f => some (item.map f))
      (funext fun i => assemble_eq i _ _ _))
  · rw [hread]
    simp only [Metrics.Registry.count_recordAll, count_itemMeasurements_degradedReads,
      count_recordMeasurements, Nat.add_zero, Nat.add_assoc]
    exact congrArg (· + _) (hcount .degradedReads rfl s.name)
  · rw [hread]
    simp only [Metrics.Registry.count_recordAll, count_itemMeasurements d.settings.address,
      count_recordMeasurements_fallbacks, Nat.add_zero]
    exact congrArg (· + _) (hcount .fallbacks rfl s.name)

/-- The item is there at the second attempt, ratings are out of reach, and the commentary is
slow. -/
def Rehearsal.withoutRatings : Rehearsal :=
  let items := fun s : StandIn Item => { s with queued := [.error (.transport "reset")] }
  let ratings := fun s : StandIn (List Rating) => { s with fixed := some (.error (.timeout "late")) }
  let commentary := fun s : StandIn (List Commentary) =>
    { s with
      fixed := some (.ok [⟨7, 1, "bob", "lamps", "fine", some "commentary-1:7003"⟩])
      delay := .millis 1500 }
  (((Rehearsal.start (Config.ofVariables fun _ => none).settings false).setItems items).setRatings
    ratings).setCommentary commentary

theorem read_contract_without_ratings :
    let d := Rehearsal.withoutRatings.deployment
    let g := Rehearsal.withoutRatings.gateway
    let w : Wish := ⟨7, 3, 100, some "blue"⟩
    (1 ≤ w.id ∧ w.options.faultPercent ≤ 100) ∧
      (g.noting.read d.noting w).2.items.2 = [w, w] ∧
      (∃ view, (g.read d w).1 = some (.ok view) ∧ view.ratings = [] ∧
        view.commentary = [⟨1, "bob", "lamps", "fine"⟩] ∧
        view.addresses = ⟨"localhost:8080", "item-mock:7001", "", "commentary-1:7003"⟩) ∧
      (g.read d w).2.now = 1500000000 ∧
      (g.read d w).2.registry.count .degradedReads "ratings" = 1 ∧
      (g.read d w).2.registry.count .fallbacks "item" = 0 := by
  have h := read_contract Rehearsal.withoutRatings.deployment ⟨7, 3, 100, some "blue"⟩
    Rehearsal.withoutRatings.gateway (by decide) (by decide)
  dsimp only at h ⊢
  obtain ⟨⟨-, -, -, hitems, -, -⟩, ⟨-, -, -, hnow⟩, ⟨-, hview⟩, hcount⟩ := h
  refine ⟨⟨by decide, by decide⟩, hitems.trans ?_, ⟨_, hview.trans rfl, ?_, ?_, ?_⟩,
    hnow.trans ?_, (hcount .ratings).1.trans ?_, (hcount .item).2.trans ?_⟩
  all_goals decide +kernel

end Gateway

end AggregateGateway
