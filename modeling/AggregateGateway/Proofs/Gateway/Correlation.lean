import AggregateGateway.Http.Echo
import AggregateGateway.Proofs.Gateway.AggregateRequests
import AggregateGateway.Proofs.Http.Spellings
import AggregateGateway.Proofs.Text.Utf8

/-! The identifier of a request. The response shows it, and whoever works on the request is given
the same one. -/

namespace AggregateGateway

open Catalog
open Http
open Publish (Action Sizing Traffic)
open Text (utf8)
open Time (Instant)

/-! ### Headers -/

namespace Http

/-- The value of the first header of the correlation identifier's name. -/
def Request.HasFirstId (r : Request) (value : Bytes) : Prop :=
  ∃ before name after, r.headers = before ++ (name, value) :: after ∧
    isSameName name correlationHeader = true ∧
    ∀ h ∈ before, isSameName h.1 correlationHeader = false

/-- The first header of the correlation identifier's name spells `u` in visible characters. -/
def Request.Brings (r : Request) (u : Uuid) : Prop :=
  ∃ s, r.HasFirstId (utf8 s) ∧ (utf8 s).all isHeaderOctet = true ∧
    s.toList.map Char.toLower ∈ u.spellings

/-- There is exactly one header of the correlation identifier's name, which is `id` written out. -/
def Response.ShowsId (a : Response) (id : Uuid) : Prop :=
  (a.headers.filter fun h => isSameName h.1 correlationHeader) = [(correlationHeader, id.text)]

theorem Response.correlated_showsId (a : Response) (id : Uuid) : (a.correlated id).ShowsId id := by
  have hname : isSameName correlationHeader correlationHeader = true := beq_self_eq_true _
  simp [ShowsId, correlated, setHeader, List.filter_append, List.filter_filter, hname]

theorem headerText?_eq_some_iff {value : Bytes} {s : String} :
    headerText? value = some s ↔ value.all isHeaderOctet = true ∧ utf8 s = value := by
  simp only [headerText?]
  split
  · next h =>
    simp only [h, true_and]
    constructor
    · exact Text.utf8_of_text?
    · rintro rfl
      exact Text.text?_utf8 s
  · next h => simp [h]

theorem Request.header?_eq_some_iff {r : Request} {s : String} :
    r.header? correlationHeader = some s ↔
      r.HasFirstId (utf8 s) ∧ (utf8 s).all isHeaderOctet = true := by
  simp only [header?, Option.bind_eq_some_iff, List.find?_eq_some_iff_append,
    headerText?_eq_some_iff]
  constructor
  · rintro ⟨⟨name, value⟩, ⟨hname, before, after, hheaders, hbefore⟩, htext, rfl⟩
    exact ⟨⟨before, name, after, hheaders, hname, fun h hh => by simpa using hbefore h hh⟩, htext⟩
  · rintro ⟨⟨before, name, after, hheaders, hname, hbefore⟩, htext⟩
    exact ⟨(name, utf8 s), ⟨hname, before, after, hheaders, fun h hh => by simp [hbefore h hh]⟩,
      htext, rfl⟩

theorem Request.brings_iff {r : Request} {u : Uuid} :
    r.Brings u ↔ (r.header? correlationHeader).bind Uuid.read? = some u := by
  simp only [Brings, Option.bind_eq_some_iff, header?_eq_some_iff, Uuid.read?_eq_some_iff,
    and_assoc]

theorem correlationId_of_brings {r : Request} {u : Uuid} (h : r.Brings u) (fresh : Uuid) :
    correlationId fresh r = u := by
  rw [correlationId, Request.brings_iff.mp h, Option.getD_some]

theorem correlationId_of_not_brings {r : Request} (h : ∀ u, ¬ r.Brings u) (fresh : Uuid) :
    correlationId fresh r = fresh := by
  have hnone : (r.header? correlationHeader).bind Uuid.read? = none :=
    Option.eq_none_iff_forall_ne_some.mpr fun u hu => h u (Request.brings_iff.mpr hu)
  rw [correlationId, hnone, Option.getD_none]

theorem Uuid.text_isVisible (u : Uuid) : (utf8 u.text).all isHeaderOctet = true := by
  have hchars : (('-' :: hexDigits).all fun c => (String.utf8EncodeChar c).all isHeaderOctet) =
      true := by
    decide
  rw [Text.utf8_eq_flatMap, List.all_flatMap, List.all_eq_true]
  exact fun c hc => List.all_eq_true.mp hchars c (mem_of_isGrouped u.text_isGrouped hc)

theorem Uuid.text_mem_spellings (u : Uuid) : u.text.toList.map Char.toLower ∈ u.spellings :=
  read?_eq_some_iff.mp (read?_text u)

/-- The written form of an identifier stands for this identifier. -/
theorem Request.HasFirstId.brings {r : Request} {u : Uuid} (h : r.HasFirstId (utf8 u.text)) :
    r.Brings u :=
  ⟨u.text, h, u.text_isVisible, u.text_mem_spellings⟩

/-- An endpoint is never given another identifier than the one attached. -/
theorem givenId_attached (id fresh : Uuid) (r : Request) : givenId (some id) fresh r = id :=
  rfl

/-! ### Routing -/

theorem exists_route_of_found {ε : Type} {routes : List (Route ε)} {method path : String}
    {endpoint : ε} {parameters : Parameters}
    (h : route routes method path = .found endpoint parameters) :
    ∃ q ∈ routes, q.methods.contains method = true ∧ q.endpoint = endpoint := by
  simp only [route] at h
  split at h
  · cases h
  · split at h
    · next q ps hfind =>
      cases h
      have hmem : (q, parameters) ∈ fitting routes path := List.mem_of_find?_eq_some hfind
      simp only [fitting] at hmem
      split at hmem
      · cases hmem
      · obtain ⟨q', hq', hfit⟩ := List.mem_filterMap.mp hmem
        obtain ⟨_, -, hpair⟩ := Option.map_eq_some_iff.mp hfit
        cases hpair
        exact ⟨q, hq', by simpa using List.find?_some hfind, rfl⟩
    · cases h

theorem Echo.body_correlated {r : Request} (hmethod : r.method = "GET")
    (hpath : r.target.path ∈ ["/id", "/api/id"]) (now : Instant) (fresh other : Uuid) :
    (Echo.correlated now fresh other r).body = utf8 (correlationId fresh r).text := by
  have hroute : ∀ path ∈ ["/id", "/api/id"], route Echo.routes "GET" path = .found .id [] := by
    simp only [List.mem_cons, List.not_mem_nil, or_false, forall_eq_or_imp, forall_eq]
    constructor <;> rfl
  have hroute := hroute _ hpath
  simp only [Echo.correlated, Echo.answer, hmethod, hroute, Echo.echo, givenId_attached]
  rfl

end Http

/-! ### The gateway -/

variable {ι ρ κ β : Type}

theorem Api.correlation_of_note {attached : Option Uuid} {fresh : Uuid} {r : Request}
    {parameters : Parameters} {endpoint : Api.Endpoint} {n : Api.Note}
    (h : Api.note attached fresh r parameters endpoint = some n) :
    n.correlation = givenId attached fresh r := by
  cases endpoint <;> simp only [Api.note, Option.map_eq_some_iff, reduceCtorEq] at h <;>
    (obtain ⟨_, -, rfl⟩ := h; rfl)

theorem Api.correlation_of_noted {fresh other : Uuid} {r : Request} {n : Api.Note}
    (h : Api.noted fresh other r = some n) : n.correlation = correlationId fresh r := by
  simp only [Api.noted] at h
  split at h
  · exact Api.correlation_of_note h
  · cases h
  · cases h

theorem Api.method_of_found {method path : String} {endpoint : Api.Endpoint}
    {parameters : Parameters} (h : route Api.routes method path = .found endpoint parameters) :
    (endpoint = .createAggregate → method = "POST") ∧
      (endpoint = .deleteAggregate → method = "DELETE") := by
  obtain ⟨q, hq, hmethod, rfl⟩ := exists_route_of_found h
  simp only [Api.routes, List.mem_cons, List.not_mem_nil, or_false] at hq
  obtain rfl | rfl | rfl | rfl | rfl | rfl := hq <;> simp_all [Route.methods]

/-- Whatever is answered is answered with the identifier of the request. -/
theorem respond_showsId {d : Deployment ι ρ κ β} {m : Api.Moments} {fresh : Uuid} {r : Request}
    {g : Gateway ι ρ κ β} {a : Response} (h : (Api.respond d m fresh r g).1 = some a) :
    a.ShowsId (correlationId fresh r) := by
  obtain ⟨inner, -, rfl⟩ := Option.map_eq_some_iff.mp h
  exact (inner.forMethod r.method).correlated_showsId _

section Answers

variable (d : Deployment ι ρ κ β) (m : Api.Moments) (fresh : Uuid) (r : Request)
  (g : Gateway ι ρ κ β)

theorem readAggregate_isSome (parameters : Parameters) :
    (Api.readAggregate d m r parameters g).1.isSome = true := by
  simp only [Api.readAggregate]
  split
  · rfl
  · exact Option.isSome_map.trans (read_isSome d g _)

/-- There is a response if the endpoint that is found gives one. -/
theorem respond_isSome_of_serve
    (h : ∀ endpoint parameters,
      route Api.routes r.method r.target.path = .found endpoint parameters →
        (Api.serve d m r parameters g endpoint).1.isSome = true) :
    (Api.respond d m fresh r g).1.isSome = true := by
  refine Option.isSome_map.trans ?_
  split
  · next endpoint parameters hroute => exact h endpoint parameters hroute
  · rfl
  · rfl

/-- Only orders to write something can remain without a response. -/
theorem respond_isSome_of_method (hpost : r.method ≠ "POST") (hdelete : r.method ≠ "DELETE") :
    (Api.respond d m fresh r g).1.isSome = true := by
  refine respond_isSome_of_serve d m fresh r g fun endpoint parameters hroute => ?_
  obtain ⟨hcreate, hdeletion⟩ := Api.method_of_found hroute
  cases endpoint with
  | createAggregate => exact absurd (hcreate rfl) hpost
  | deleteAggregate => exact absurd (hdeletion rfl) hdelete
  | readAggregate => exact readAggregate_isSome d m r g parameters
  | liveness | dependencies | metrics => rfl

variable {g}

theorem respond_isSome_of_answers (hanswers : ∀ job c, (d.publish job c).isSome = true)
    {sizing : Sizing} {channel : β} {before : List (Action β)}
    (hopen : ((Traffic.start sizing channel).run d.publish before).isOpen = true)
    (hpool : g.pool = ((Traffic.start sizing channel).run d.publish before).pool)
    (hchannel : g.channel = ((Traffic.start sizing channel).run d.publish before).channel) :
    (Api.respond d m fresh r g).1.isSome = true := by
  refine respond_isSome_of_serve d m fresh r g fun endpoint parameters _ => ?_
  have hperform := perform_isSome hanswers hopen hpool hchannel
  cases endpoint with
  | createAggregate =>
    simp only [Api.serve, Api.createAggregate]
    split
    · rfl
    · next s _ => exact Option.isSome_map.trans (hperform (.create m.toClock s))
  | deleteAggregate =>
    simp only [Api.serve, Api.deleteAggregate]
    split
    · rfl
    · next id _ => exact Option.isSome_map.trans (hperform (.delete m.toClock id))
  | readAggregate => exact readAggregate_isSome d m r g parameters
  | liveness | dependencies | metrics => rfl

end Answers

/-- Every response shows one identifier: that of the request if its first header of this name
spells one, in whatever spelling, and otherwise the fresh one. Whatever is noted about the request
has the same one, and so has an answer that tells the identifier it was given. A request that brings
the shown value along gets it again. -/
theorem correlation_ids_are_echoed (d : Deployment ι ρ κ β) (m : Api.Moments) (now : Instant)
    (fresh other : Uuid) (r : Request) (g : Gateway ι ρ κ β) :
    let id := correlationId fresh r
    let answer := (Api.respond d m fresh r g).1
    (∀ u, r.Brings u → id = u) ∧ ((∀ u, ¬ r.Brings u) → id = fresh) ∧
    (∀ a, answer = some a → a.ShowsId id) ∧ Uuid.IsGrouped [8, 4, 4, 4, 12] id.text.toList ∧
    (∀ n, Api.noted fresh other r = some n → n.correlation = id) ∧
    ((Echo.correlated now fresh other r).ShowsId id ∧
      (r.method = "GET" → r.target.path ∈ ["/id", "/api/id"] →
        (Echo.correlated now fresh other r).body = utf8 id.text)) ∧
    (∀ (next : Request) (later : Api.Moments) (fresh' : Uuid) (g' : Gateway ι ρ κ β) (a : Response),
      next.HasFirstId (utf8 id.text) → (Api.respond d later fresh' next g').1 = some a →
        a.ShowsId id) ∧
    (r.method ≠ "POST" → r.method ≠ "DELETE" → answer.isSome = true) ∧
    ∀ (sizing : Sizing) (channel : β) (before : List (Action β)),
      let t := (Traffic.start sizing channel).run d.publish before
      t.isOpen = true → g.pool = t.pool → g.channel = t.channel →
        (∀ job c, (d.publish job c).isSome = true) → answer.isSome = true := by
  intro id answer
  refine ⟨?_, ?_, fun a ha => respond_showsId ha, id.text_isGrouped, ?_, ⟨?_, ?_⟩, ?_,
    respond_isSome_of_method d m fresh r g, ?_⟩
  · exact fun u hu => correlationId_of_brings hu fresh
  · exact fun h => correlationId_of_not_brings h fresh
  · exact fun n hn => Api.correlation_of_noted hn
  · exact Response.correlated_showsId _ id
  · exact fun hmethod hpath => Echo.body_correlated hmethod hpath now fresh other
  · intro next later fresh' g' a hnext ha
    -- the next request brings the identifier along, whatever would be fresh then
    rw [← correlationId_of_brings hnext.brings fresh']
    exact respond_showsId ha
  · intro sizing channel before t hopen hpool hchannel hanswers
    exact respond_isSome_of_answers d m fresh r hanswers hopen hpool hchannel

end AggregateGateway
