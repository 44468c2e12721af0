import AggregateGateway.Gateway.Api
import AggregateGateway.Proofs.Catalog.Aggregates
import AggregateGateway.Proofs.Gateway.SecondaryReads
import AggregateGateway.Proofs.Gateway.WriteBlocks
import AggregateGateway.Proofs.Http.Problems

/-! Requests for aggregates: which endpoint answers, what a request orders once its parts are taken,
and what the response says of that. An order that is refused leaves the gateway alone. -/

namespace AggregateGateway

open Catalog
open Http
open Publish (Action Sizing Traffic)
open Time (Instant)

/-! ### Routing -/

namespace Http

/-- What stands before the first separator is put in front of the first part. -/
theorem parts_prepend {separator : Char} {cs rest first : List Char} {more : List (List Char)}
    (h : separator ∉ cs) (hrest : parts separator rest = first :: more) :
    parts separator (cs ++ rest) = (cs ++ first) :: more := by
  induction cs with
  | nil => exact hrest
  | cons c cs ih =>
    rw [List.mem_cons, not_or] at h
    have hc : (c == separator) = false := by simpa using Ne.symm h.1
    simp only [List.cons_append, parts, hc, Bool.false_eq_true, if_false, ih h.2]

theorem parts_of_not_mem {separator : Char} {cs : List Char} (h : separator ∉ cs) :
    parts separator cs = [cs] := by
  simpa using parts_prepend h (rfl : parts separator [] = [[]])

theorem parts_append {separator : Char} {cs : List Char} (h : separator ∉ cs) (rest : List Char) :
    parts separator (cs ++ separator :: rest) = cs :: parts separator rest := by
  have hrest : parts separator (separator :: rest) = [] :: parts separator rest := by
    simp only [parts, beq_self_eq_true, if_true]
  simpa using parts_prepend h hrest

end Http

/-- A segment of a path as it is sent. -/
structure PathSegment where
  text : String
  ne_empty : text ≠ ""
  no_slash : '/' ∉ text.toList

theorem segments_aggregate (s : PathSegment) :
    segments? ("/aggregate/" ++ s.text) = some ["aggregate", s.text] := by
  have hpath : ("/aggregate/" ++ s.text).toList =
      '/' :: ("aggregate".toList ++ '/' :: s.text.toList) := by
    rw [String.toList_append]
    rfl
  have hfixed : '/' ∉ "aggregate".toList := by decide
  simp only [segments?, hpath, parts_append hfixed, parts_of_not_mem s.no_slash, List.map_cons,
    List.map_nil, String.ofList_toList]

/-- What is to be done with aggregates, and at which path this is asked for. -/
inductive Errand where
  | create
  | read (segment : PathSegment)
  | delete (segment : PathSegment)

namespace Errand

def method : Errand → String
  | .create => "POST"
  | .read _ => "GET"
  | .delete _ => "DELETE"

def path : Errand → String
  | .create => "/aggregate"
  | .read segment | .delete segment => "/aggregate/" ++ segment.text

def request (e : Errand) (query : Option String) (headers : List (String × Bytes))
    (body : Bytes) : Request :=
  ⟨e.method, ⟨e.path, query⟩, headers, body⟩

def endpoint : Errand → Api.Endpoint
  | .create => .createAggregate
  | .read _ => .readAggregate
  | .delete _ => .deleteAggregate

def parameters : Errand → Parameters
  | .create => []
  | .read segment | .delete segment => [("id", segment.text)]

theorem fitting_eq (segment : PathSegment) :
    fitting Api.routes ("/aggregate/" ++ segment.text) =
      [(⟨"GET", [Api.aggregates, .parameter "id"], .readAggregate⟩, [("id", segment.text)]),
        (⟨"DELETE", [Api.aggregates, .parameter "id"], .deleteAggregate⟩,
          [("id", segment.text)])] := by
  have hempty : segment.text.isEmpty = false := by
    simpa using segment.ne_empty
  simp [fitting, segments_aggregate, Api.routes, Api.aggregates, Api.health, fit?, hempty]

theorem route_eq (e : Errand) :
    route Api.routes e.method e.path = .found e.endpoint e.parameters := by
  cases e with
  | create => rfl
  | read segment =>
    simp only [route, path, fitting_eq]
    rfl
  | delete segment =>
    simp only [route, path, fitting_eq]
    rfl

end Errand

/-! ### Orders -/

variable {ι ρ κ β : Type}

/-- What a request asks for once its parts are taken. -/
inductive Order where
  | read (w : Wish)
  | write (request : WriteRequest)

def Errand.order (m : Api.Moments) (r : Request) : Errand → Except Rejection Order
  | .create => (jsonBody Spec.codec r).map fun s => .write (.create m.toClock s)
  | .read segment =>
    match numberParameter [("id", segment.text)] with
    | .error reason => .error reason
    | .ok id => (readQuery r).map fun q => .read ⟨id, q.options (routingGroup r)⟩
  | .delete segment =>
    (numberParameter [("id", segment.text)]).map fun id => .write (.delete m.toClock id)

namespace Order

def fault? : Order → Option Failure
  | .read w =>
    if w.id < 1 then some (.invalidInput ("Invalid itemId: " ++ toString w.id.toInt))
    else if 100 < w.options.faultPercent then
      some (.invalidInput ("Invalid faultPercent: " ++ toString w.options.faultPercent.toNat))
    else none
  | .write request =>
    if request.id < 1 then some (.invalidInput ("Invalid itemId: " ++ toString request.id.toInt))
    else none

/-- The result shows a view if the order was to read one. -/
def carryOut (d : Deployment ι ρ κ β) (g : Gateway ι ρ κ β) :
    Order → Option (Except Failure (Option View)) × Gateway ι ρ κ β
  | .read w =>
    let (result, g) := g.read d w
    (result.map fun r => r.map some, g)
  | .write request =>
    let (result, g) := g.perform d request
    (result.map fun r => r.map fun () => none, g)

theorem carryOut_read (d : Deployment ι ρ κ β) (g : Gateway ι ρ κ β) (w : Wish) :
    ((Order.read w).carryOut d g).1 = (g.read d w).1.map fun r => r.map some := by
  rfl

theorem check_of_fault {w : Wish} {f : Failure} (h : (Order.read w).fault? = some f) :
    w.check = .error f := by
  by_cases hid : w.id < 1
  · simp only [fault?, hid, if_true, Option.some.injEq] at h
    simp only [Wish.check, checkId, firstItemId, hid, if_true, h]
  · by_cases hfault : 100 < w.options.faultPercent
    · simp only [fault?, hid, hfault, if_true, if_false, Option.some.injEq] at h
      simp only [Wish.check, checkId, firstItemId, maxFaultPercent, hid, hfault, if_true, if_false,
        h]
    · simp only [fault?, hid, hfault, if_false] at h
      cases h

theorem checkId_of_fault {request : WriteRequest} {f : Failure}
    (h : (Order.write request).fault? = some f) : checkId request.id = .error f := by
  by_cases hid : request.id < 1
  · simp only [fault?, hid, if_true, Option.some.injEq] at h
    simp only [checkId, firstItemId, hid, if_true, h]
  · simp only [fault?, hid, if_false] at h
    cases h

theorem carryOut_of_fault (d : Deployment ι ρ κ β) (g : Gateway ι ρ κ β) {o : Order} {f : Failure}
    (h : o.fault? = some f) : o.carryOut d g = (some (.error f), g) := by
  cases o with
  | read w =>
    simp only [carryOut, Gateway.read_refused d (check_of_fault h)]
    rfl
  | write request =>
    simp only [carryOut, Gateway.perform_refused d g (checkId_of_fault h)]
    rfl

theorem status_of_fault {o : Order} {f : Failure} (h : o.fault? = some f) : f.status = 422 := by
  cases o with
  | read w =>
    simp only [fault?] at h
    split at h
    · cases h
      rfl
    · split at h <;> cases h
      rfl
  | write request =>
    simp only [fault?] at h
    split at h <;> cases h
    rfl

end Order

def rendered (now : Instant) (path : String) : Except Failure (Option View) → Response
  | .ok none => .empty .accepted
  | .ok (some v) => .json .ok View.codec v
  | .error f => .problem now ((Problem.ofFailure f).withPath path)

def refusal (now : Instant) (path : String) (reason : Rejection) : Response :=
  .problem now (reason.problem path)

theorem respond_eq (d : Deployment ι ρ κ β) (m : Api.Moments) (fresh : Uuid) (e : Errand)
    (query : Option String) (headers : List (String × Bytes)) (body : Bytes)
    (g : Gateway ι ρ κ β) :
    let r := e.request query headers body
    Api.respond d m fresh r g =
      match e.order m r with
      | .error reason =>
        (some ((refusal m.answered e.path reason).correlated (correlationId fresh r)), g)
      | .ok o =>
        let (result, g) := o.carryOut d g
        (result.map fun x =>
            (rendered m.answered e.path x).correlated (correlationId fresh r), g) := by
  intro r
  have hroute : route Api.routes r.method r.target.path = .found e.endpoint e.parameters :=
    e.route_eq
  -- no errand is a HEAD request, so the body is kept
  have hmethod (a : Response) : a.forMethod r.method = a := by
    cases e <;> rfl
  simp only [Api.respond, hroute, hmethod]
  cases e with
  | create =>
    simp only [Errand.endpoint, Api.serve, Api.createAggregate, Errand.order]
    cases jsonBody Spec.codec r with
    | error reason => rfl
    | ok s =>
      simp only [Except.map, Order.carryOut, Gateway.perform]
      rcases g.create d m.toClock s with ⟨_ | _ | _, g'⟩ <;> rfl
  | read segment =>
    simp only [Errand.endpoint, Errand.parameters, Api.serve, Api.readAggregate, Api.wish,
      Errand.order]
    cases numberParameter [("id", segment.text)] with
    | error reason => rfl
    | ok id =>
      cases readQuery r with
      | error reason => rfl
      | ok q =>
        simp only [Except.map, Order.carryOut]
        rcases g.read d ⟨id, q.options (routingGroup r)⟩ with ⟨_ | _ | _, g'⟩ <;> rfl
  | delete segment =>
    simp only [Errand.endpoint, Errand.parameters, Api.serve, Api.deleteAggregate, Errand.order]
    cases numberParameter [("id", segment.text)] with
    | error reason => rfl
    | ok id =>
      simp only [Except.map, Order.carryOut, Gateway.perform]
      rcases g.delete d m.toClock id with ⟨_ | _ | _, g'⟩ <;> rfl

/-! ### Answers -/

def Http.Response.Tells (a : Response) (now : Instant) (path : String) :
    Except Failure (Option View) → Prop
  | .ok none => a.status.code = 202 ∧ a.body = []
  | .ok (some v) =>
    a.status.code = 200 ∧ a.header? "content-type" = some "application/json" ∧
      View.codec.decode a.body = .ok v
  | .error f => a.IsProblem now path f.status f.message

/-- The response to an errand that was successful. -/
def Errand.IsDone (a : Response) : Errand → Prop
  | .create | .delete _ => a.status.code = 202 ∧ a.body = []
  | .read _ =>
    a.status.code = 200 ∧ a.header? "content-type" = some "application/json" ∧
      ∃ v, View.codec.decode a.body = .ok v

theorem rendered_tells (now : Instant) (path : String) (id : Uuid)
    (result : Except Failure (Option View)) :
    ((rendered now path result).correlated id).Tells now path result := by
  cases result with
  | error f =>
    have h := (Response.problem_isProblem now path (Problem.ofFailure f)).correlated id
    rwa [Problem.ofFailure_code, Problem.ofFailure_message] at h
  | ok shown =>
    cases shown with
    | none => exact ⟨rfl, rfl⟩
    | some v =>
      refine ⟨rfl, ?_, (view_readsBack v).decode⟩
      rw [Response.contentType_correlated]
      exact Response.contentType_json .ok View.codec v

theorem refusal_isProblem (now : Instant) (path : String) (reason : Rejection) (id : Uuid) :
    ((refusal now path reason).correlated id).IsProblem now path 400 reason.message :=
  (Response.problem_isProblem now path (.badRequest reason.message)).correlated id

section Respond

variable {m : Api.Moments} {e : Errand} {query : Option String} {headers : List (String × Bytes)}
  {body : Bytes} (d : Deployment ι ρ κ β) (fresh : Uuid) (g : Gateway ι ρ κ β)

theorem respond_rejected {reason : Rejection}
    (h : e.order m (e.request query headers body) = .error reason) :
    let r := e.request query headers body
    Api.respond d m fresh r g =
      (some ((refusal m.answered e.path reason).correlated (correlationId fresh r)), g) := by
  intro r
  have hrespond : Api.respond d m fresh r g = _ := respond_eq d m fresh e query headers body g
  rw [hrespond, h]

theorem respond_ordered {o : Order} (h : e.order m (e.request query headers body) = .ok o) :
    let r := e.request query headers body
    Api.respond d m fresh r g =
      ((o.carryOut d g).1.map fun x =>
          (rendered m.answered e.path x).correlated (correlationId fresh r),
        (o.carryOut d g).2) := by
  intro r
  have hrespond : Api.respond d m fresh r g = _ := respond_eq d m fresh e query headers body g
  rw [hrespond, h]

theorem respond_isProblem {reason : Rejection}
    (h : e.order m (e.request query headers body) = .error reason) :
    ∃ a, (Api.respond d m fresh (e.request query headers body) g).1 = some a ∧
      a.IsProblem m.answered e.path 400 reason.message := by
  rw [respond_rejected d fresh g h]
  exact ⟨_, rfl, refusal_isProblem m.answered e.path reason _⟩

theorem respond_tells {o : Order} (h : e.order m (e.request query headers body) = .ok o)
    {a : Response} (ha : (Api.respond d m fresh (e.request query headers body) g).1 = some a) :
    ∃ result, (o.carryOut d g).1 = some result ∧ a.Tells m.answered e.path result := by
  rw [respond_ordered d fresh g h] at ha
  obtain ⟨result, hresult, rfl⟩ := Option.map_eq_some_iff.mp ha
  exact ⟨result, hresult, rendered_tells m.answered e.path _ result⟩

theorem respond_isSome {o : Order} (h : e.order m (e.request query headers body) = .ok o) :
    (Api.respond d m fresh (e.request query headers body) g).1.isSome =
      (o.carryOut d g).1.isSome := by
  rw [respond_ordered d fresh g h, Option.isSome_map]

/-- There is a response if whatever is ordered has a result. -/
theorem respond_isSome_of_carryOut
    (h : ∀ o, e.order m (e.request query headers body) = .ok o →
      (o.carryOut d g).1.isSome = true) :
    (Api.respond d m fresh (e.request query headers body) g).1.isSome = true := by
  cases horder : e.order m (e.request query headers body) with
  | error reason =>
    obtain ⟨a, ha, -⟩ := respond_isProblem d fresh g horder
    rw [ha, Option.isSome_some]
  | ok o =>
    rw [respond_isSome d fresh g horder]
    exact h o horder

theorem respond_fault {o : Order} {f : Failure}
    (h : e.order m (e.request query headers body) = .ok o) (hfault : o.fault? = some f) :
    ∃ a, Api.respond d m fresh (e.request query headers body) g = (some a, g) ∧
      a.IsProblem m.answered e.path 422 f.message := by
  rw [respond_ordered d fresh g h, Order.carryOut_of_fault d g hfault,
    ← Order.status_of_fault hfault]
  exact ⟨_, rfl, rendered_tells m.answered e.path (correlationId fresh _) (.error f)⟩

end Respond

theorem exists_of_map_eq_ok {ε α γ : Type} {x : Except ε α} {f : α → γ} {c : γ}
    (h : x.map f = .ok c) : ∃ a, x = .ok a ∧ f a = c := by
  cases x with
  | error e => cases h
  | ok a =>
    cases h
    exact ⟨a, rfl, rfl⟩

section Outcomes

variable {d : Deployment ι ρ κ β} {g : Gateway ι ρ κ β} {m : Api.Moments} {now : Instant}
  {path : String} {shown : Option View} {a : Response}

theorem Errand.order_read {r : Request} {segment : PathSegment} {o : Order}
    (h : (Errand.read segment).order m r = .ok o) : ∃ w, o = .read w := by
  simp only [Errand.order] at h
  split at h
  · cases h
  · obtain ⟨q, -, rfl⟩ := exists_of_map_eq_ok h
    exact ⟨_, rfl⟩

theorem shown_of_read {w : Wish} (h : ((Order.read w).carryOut d g).1 = some (.ok shown)) :
    ∃ v, shown = some v := by
  rw [Order.carryOut_read] at h
  obtain ⟨x, -, hx⟩ := Option.map_eq_some_iff.mp h
  obtain ⟨v, -, rfl⟩ := exists_of_map_eq_ok hx
  exact ⟨v, rfl⟩

theorem shown_of_write {request : WriteRequest}
    (h : ((Order.write request).carryOut d g).1 = some (.ok shown)) : shown = none := by
  obtain ⟨x, -, hx⟩ := Option.map_eq_some_iff.mp h
  obtain ⟨_, -, rfl⟩ := exists_of_map_eq_ok hx
  rfl

theorem isDone_of_tells {e : Errand} {r : Request} {o : Order} (ho : e.order m r = .ok o)
    (hresult : (o.carryOut d g).1 = some (.ok shown)) (ha : a.Tells now path (.ok shown)) :
    e.IsDone a := by
  cases e with
  | create =>
    obtain ⟨s, -, rfl⟩ := exists_of_map_eq_ok ho
    obtain rfl := shown_of_write hresult
    exact ha
  | read segment =>
    obtain ⟨w, rfl⟩ := Errand.order_read ho
    obtain ⟨v, rfl⟩ := shown_of_read hresult
    exact ⟨ha.1, ha.2.1, v, ha.2.2⟩
  | delete segment =>
    obtain ⟨id, -, rfl⟩ := exists_of_map_eq_ok ho
    obtain rfl := shown_of_write hresult
    exact ha

theorem read_isSome (d : Deployment ι ρ κ β) (g : Gateway ι ρ κ β) (w : Wish) :
    (g.read d w).1.isSome = true := by
  cases hw : w.check with
  | error f => rw [Gateway.read_refused d hw]; rfl
  | ok => rw [Gateway.read_eq d g hw]; rfl

/-- A write in a pool at work has a result if the channel never fails to answer. -/
theorem perform_isSome (hanswers : ∀ job c, (d.publish job c).isSome = true) {sizing : Sizing}
    {channel : β} {before : List (Action β)}
    (hopen : ((Traffic.start sizing channel).run d.publish before).isOpen = true)
    (hpool : g.pool = ((Traffic.start sizing channel).run d.publish before).pool)
    (hchannel : g.channel = ((Traffic.start sizing channel).run d.publish before).channel)
    (request : WriteRequest) : (g.perform d request).1.isSome = true := by
  cases hid : checkId request.id with
  | error f => rw [g.perform_refused d hid, Option.isSome_some]
  | ok =>
    let t := (Traffic.start sizing channel).run d.publish before
    obtain ⟨ho, h⟩ : Publish.Ordered sizing.workerCount t ∧ Publish.Answered sizing.workerCount t :=
      (Publish.Answered.start sizing channel).run (Publish.Ordered.start sizing channel) before
    have hg : { g with pool := t.pool, channel := t.channel } = g := by
      simp only [t, ← hpool, ← hchannel]
    obtain ⟨sent, jobs, answers, numbers, -, -, -, -, hsome, -⟩ :=
      Gateway.write_joined d request.batch (fun x hx => WriteRequest.key_of_mem_batch hx) g
        sizing.workerCount_pos hopen ho h
    rw [hg, ← g.perform_write d hid] at hsome
    exact Option.isSome_iff_ne_none.mpr (hsome hanswers).1

end Outcomes

/-- A request for an aggregate is answered with its success or with a problem that names the path.
What cannot be taken from it is a bad request, and then a value out of bounds cannot be processed;
in both cases nothing has been read, published or counted. Any other answer tells the result. -/
theorem aggregate_requests_contract (d : Deployment ι ρ κ β) (m : Api.Moments) (fresh : Uuid)
    (e : Errand) (query : Option String) (headers : List (String × Bytes)) (body : Bytes)
    (g : Gateway ι ρ κ β) :
    let r := e.request query headers body
    let answer := (Api.respond d m fresh r g).1
    let after := (Api.respond d m fresh r g).2
    let Refused (code : Nat) (message : String) : Prop :=
      (∃ a, answer = some a ∧ a.IsProblem m.answered e.path code message) ∧ after = g ∧
        (Api.respond d.noting m fresh r g.noting).2 = g.noting
    (∀ reason, e.order m r = .error reason → Refused 400 reason.message) ∧
    (∀ o f, e.order m r = .ok o → o.fault? = some f → Refused 422 f.message) ∧
    (∀ o, e.order m r = .ok o → o.fault? = none →
      after = (o.carryOut d g).2 ∧ answer.isSome = (o.carryOut d g).1.isSome ∧
        ∀ result a, (o.carryOut d g).1 = some result → answer = some a →
          a.Tells m.answered e.path result) ∧
    (∀ a, answer = some a →
      e.IsDone a ∨ ∃ code message, a.IsProblem m.answered e.path code message) ∧
    (∀ segment, e = .read segment → answer.isSome = true) ∧
    ∀ (sizing : Sizing) (channel : β) (before : List (Action β)),
      let t := (Traffic.start sizing channel).run d.publish before
      t.isOpen = true → g.pool = t.pool → g.channel = t.channel →
        (∀ job c, (d.publish job c).isSome = true) → answer.isSome = true := by
  intro r answer after Refused
  refine ⟨?_, ?_, ?_, ?_, ?_, ?_⟩
  · intro reason horder
    have hnoting : Api.respond d.noting m fresh r g.noting = _ :=
      respond_rejected d.noting fresh g.noting horder
    have hanswer : Api.respond d m fresh r g = _ := respond_rejected d fresh g horder
    exact ⟨respond_isProblem d fresh g horder, congrArg Prod.snd hanswer,
      congrArg Prod.snd hnoting⟩
  · intro o f horder hfault
    -- what is ordered does not depend on the services, so they may as well note what they are asked
    obtain ⟨a, hanswer, ha⟩ := respond_fault d fresh g horder hfault
    obtain ⟨_, hnoting, -⟩ := respond_fault d.noting fresh g.noting horder hfault
    exact ⟨⟨a, congrArg Prod.fst hanswer, ha⟩, congrArg Prod.snd hanswer,
      congrArg Prod.snd hnoting⟩
  · intro o horder _
    have hanswer : Api.respond d m fresh r g = _ := respond_ordered d fresh g horder
    refine ⟨congrArg Prod.snd hanswer, respond_isSome d fresh g horder, ?_⟩
    intro result a hresult ha
    obtain ⟨result', hresult', htells⟩ := respond_tells d fresh g horder ha
    cases hresult.symm.trans hresult'
    exact htells
  · intro a ha
    cases horder : e.order m r with
    | error reason =>
      obtain ⟨a', ha', hproblem⟩ := respond_isProblem d fresh g horder
      cases ha.symm.trans ha'
      exact .inr ⟨_, _, hproblem⟩
    | ok o =>
      obtain ⟨result, hresult, htells⟩ := respond_tells d fresh g horder ha
      cases result with
      | error f => exact .inr ⟨_, _, htells⟩
      | ok shown => exact .inl (isDone_of_tells horder hresult htells)
  · rintro segment rfl
    refine respond_isSome_of_carryOut d fresh g fun o horder => ?_
    obtain ⟨w, rfl⟩ := Errand.order_read horder
    exact Option.isSome_map.trans (read_isSome d g w)
  · intro sizing channel before t hopen hpool hchannel hanswers
    refine respond_isSome_of_carryOut d fresh g fun o _ => ?_
    cases o with
    | read w => exact Option.isSome_map.trans (read_isSome d g w)
    | write request =>
      exact Option.isSome_map.trans (perform_isSome hanswers hopen hpool hchannel request)

/-- Reads of what is no number, of an id that is out of bounds, and of an aggregate that is shown
without its ratings. -/
theorem aggregate_requests_contract_without_ratings :
    let d := Gateway.Rehearsal.withoutRatings.deployment
    let g := Gateway.Rehearsal.withoutRatings.gateway
    let lamp : PathSegment := ⟨"lamp", by decide, by decide⟩
    let zero : PathSegment := ⟨"0", by decide, by decide⟩
    let seven : PathSegment := ⟨"7", by decide, by decide⟩
    let respond (segment : PathSegment) :=
      Api.respond d dayBreak ⟨List.replicate 32 0, rfl⟩
        ((Errand.read segment).request none [] []) g
    ((∃ a, (respond lamp).1 = some a ∧ a.IsProblem dayBreak "/aggregate/lamp" 400
        "Invalid URL: Cannot parse `\"lamp\"` to a `i32`") ∧ (respond lamp).2 = g) ∧
    ((∃ a, (respond zero).1 = some a ∧ a.IsProblem dayBreak "/aggregate/0" 422
        "Invalid itemId: 0") ∧ (respond zero).2 = g) ∧
    ∃ a v, (respond seven).1 = some a ∧ a.status.code = 200 ∧ View.codec.decode a.body = .ok v ∧
      v.id = 7 ∧ v.ratings = [] := by
  intro d g lamp zero seven respond
  have h (segment : PathSegment) := aggregate_requests_contract d dayBreak
    ⟨List.replicate 32 0, rfl⟩ (.read segment) none [] [] g
  have hquery (segment : PathSegment) :
      readQuery ((Errand.read segment).request none [] []) = .ok ⟨0, 0⟩ := rfl
  refine ⟨?_, ?_, ?_⟩
  · have hnumber : numberParameter [("id", "lamp")] = .error (.parameter "lamp" "i32") := by rfl
    obtain ⟨hanswer, hsame, -⟩ := (h lamp).1 (.parameter "lamp" "i32")
      (by simp only [Errand.order, lamp, hnumber])
    exact ⟨hanswer, hsame⟩
  · have hnumber : numberParameter [("id", "0")] = .ok 0 := by rfl
    obtain ⟨hanswer, hsame, -⟩ := (h zero).2.1 (.read ⟨0, 0, 0, none⟩) _
      (by simp only [Errand.order, zero, hnumber, hquery]; rfl) rfl
    exact ⟨hanswer, hsame⟩
  · let w : Wish := ⟨7, 0, 0, none⟩
    have hnumber : numberParameter [("id", "7")] = .ok 7 := by rfl
    obtain ⟨-, -, htells⟩ := (h seven).2.2.1 (.read w) 
       (by simp only [Errand.order, seven, hnumber, hquery]; rfl) rfl
    obtain ⟨a, ha⟩ := Option.isSome_iff_exists.mp ((h seven).2.2.2.2.1 seven rfl)
    have hview : ((g.read d w).1.map fun r => r.toOption.map fun v => (v.id, v.ratings)) =
        some (some (7, [])) := by
      decide +kernel
    obtain ⟨r, hr, hr'⟩ := Option.map_eq_some_iff.mp hview
    obtain ⟨v, rfl⟩ : ∃ v, r = .ok v := by
      cases r with
      | ok v => exact ⟨v, rfl⟩
      | error e => cases hr'
    have hresult : ((Order.read w).carryOut d g).1 = some (.ok (some v)) := by
      rw [Order.carryOut_read, hr]
      rfl
    obtain ⟨hok, -, hbody⟩ := htells _ a hresult ha
    obtain ⟨hid, hratings⟩ := Prod.mk.inj (Option.some.inj hr')
    exact ⟨a, v, ha, hok, hbody, hid, hratings⟩

end AggregateGateway
