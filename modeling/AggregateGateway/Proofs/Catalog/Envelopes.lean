import AggregateGateway.Catalog.Event
import AggregateGateway.Proofs.Json.Members
import AggregateGateway.Proofs.Time.ReadBack

/-!
Events on the wire: the envelope of an event is read back from its document, and a document is
accepted only if it is read as the envelope of an event.
-/

namespace AggregateGateway.Catalog

open Json (Codec Fields int32_readsBack text_readsBack)
open Time (Instant)

/-- The records that a service keeps. -/
def Service.Record : Service → Type
  | .item => Item
  | .ratings => Rating
  | .commentary => Commentary

instance : (s : Service) → Keyed s.Record
  | .item => inferInstanceAs (Keyed Item)
  | .ratings => inferInstanceAs (Keyed Rating)
  | .commentary => inferInstanceAs (Keyed Commentary)

instance : (s : Service) → DecidableEq s.Record
  | .item => inferInstanceAs (DecidableEq Item)
  | .ratings => inferInstanceAs (DecidableEq Rating)
  | .commentary => inferInstanceAs (DecidableEq Commentary)

theorem item_readsBack (i : Item) : Item.codec.ReadsBack i :=
  Json.record_readsBack
    (.required (by simp) (int32_readsBack _) <| .required (by simp) (text_readsBack _) <|
      .required (by simp) (int32_readsBack _) <| .optional (by simp) text_readsBack trivial)
    rfl

theorem rating_readsBack (r : Rating) : Rating.codec.ReadsBack r :=
  Json.record_readsBack
    (.required (by simp) (int32_readsBack _) <| .required (by simp) (int32_readsBack _) <|
      .required (by simp) (text_readsBack _) <| .required (by simp) (int32_readsBack _) <|
      .required (by simp) (text_readsBack _) <| .optional (by simp) text_readsBack trivial)
    rfl

theorem commentary_readsBack (c : Commentary) : Commentary.codec.ReadsBack c :=
  Json.record_readsBack
    (.required (by simp) (int32_readsBack _) <| .required (by simp) (int32_readsBack _) <|
      .required (by simp) (text_readsBack _) <| .required (by simp) (text_readsBack _) <|
      .required (by simp) (text_readsBack _) <| .optional (by simp) text_readsBack trivial)
    rfl

theorem Service.record_readsBack : (s : Service) → (a : s.Record) →
    (Keyed.codec : Codec s.Record).ReadsBack a
  | .item => item_readsBack
  | .ratings => rating_readsBack
  | .commentary => commentary_readsBack

theorem eventKind_readsBack (k : EventKind) : EventKind.codec.ReadsBack k :=
  Json.variant_readsBack (by cases k <;> decide)

variable {α : Type} [Keyed α]

theorem envelope_readsBack (h : ∀ a : α, (Keyed.codec : Codec α).ReadsBack a) (e : Envelope α) :
    (Envelope.codec α).ReadsBack e :=
  Json.record_readsBack
    (.required (by simp) (eventKind_readsBack _) <| .required (by simp) (int32_readsBack _) <|
      .optional (by simp) h <| .required (by simp) (Time.instant_readsBack _) trivial)
    rfl

variable {b : Bytes}

theorem Event.decode_of_unread {f : Json.Fault} (h : (Envelope.codec α).decode b = .error f) :
    (Event.decode b : Except EventFault (Event α)) = .error (.unreadable f) := by
  rw [Event.decode, h]

theorem Event.decode_of_contradicting {v : Envelope α} {c : Contradiction}
    (h : (Envelope.codec α).decode b = .ok v) (hc : v.event = .error c) :
    (Event.decode b : Except EventFault (Event α)) = .error (.contradictory c) := by
  rw [Event.decode, h]
  simp only [hc]
  rfl

theorem Event.decode_of_fitting {v : Envelope α} {e : Event α}
    (h : (Envelope.codec α).decode b = .ok v) (he : v.event = .ok e) : Event.decode b = .ok e := by
  rw [Event.decode, h]
  simp only [he]
  rfl

theorem Event.decode_message (h : ∀ a : α, (Keyed.codec : Codec α).ReadsBack a) (e : Event α) :
    Event.decode e.message.data = .ok e :=
  Event.decode_of_fitting (envelope_readsBack h e.envelope).decode e.event_envelope

omit [Keyed α] in
theorem Event.isSame_self [DecidableEq α] (e : Event α) : e.isSame e = true := by
  cases e <;> simp [Event.isSame]

/-- Whatever the payload and the time, an event comes back from its message as it was sent. -/
theorem events_survive_the_wire (s : Service) (a : s.Record) (k : ItemId) (t : Instant) :
    (let m := (Event.create a t).message
     m.key = toString (Keyed.key a).toInt ∧ m.kind = "CREATE" ∧
      ∃ e : Event s.Record, Event.decode m.data = .ok e ∧
        e.envelope = ⟨.create, Keyed.key a, some a, t⟩ ∧ e.isSame (.create a t) = true) ∧
    (let m := (Event.delete k t : Event s.Record).message
     m.key = toString k.toInt ∧ m.kind = "DELETE" ∧
      ∃ e : Event s.Record, Event.decode m.data = .ok e ∧
        e.envelope = ⟨.delete, k, none, t⟩ ∧ e.isSame (.delete k t) = true) := by
  have hcreate := Event.decode_message s.record_readsBack (.create a t)
  have hdelete := Event.decode_message s.record_readsBack (.delete k t)
  refine ⟨⟨rfl, rfl, _, hcreate, rfl, ?_⟩, rfl, rfl, _, hdelete, rfl, ?_⟩
  · exact Event.isSame_self _
  · exact Event.isSame_self _

theorem Event.decode_eq_ok_iff {e : Event α} :
    Event.decode b = .ok e ↔ (Envelope.codec α).decode b = .ok e.envelope := by
  constructor
  · intro h
    cases hparse : (Envelope.codec α).decode b with
    | error f => simp [Event.decode_of_unread hparse] at h
    | ok v =>
      cases hevent : v.event with
      | error c => simp [Event.decode_of_contradicting hparse hevent] at h
      | ok d =>
        rw [Event.decode_of_fitting hparse hevent] at h
        cases h
        rw [Envelope.envelope_of_event hevent]
  · intro h
    exact Event.decode_of_fitting h e.event_envelope

/-- The ways in which the fields of an envelope can fail to fit together. -/
inductive Envelope.Contradicts : Envelope α → Contradiction → Prop
  | createWithoutPayload (k : ItemId) (t : Instant) :
      Contradicts ⟨.create, k, none, t⟩ .createWithoutPayload
  | createOfOtherKey (a : α) (k : ItemId) (t : Instant) (h : Keyed.key a ≠ k) :
      Contradicts ⟨.create, k, some a, t⟩ (.createOfOtherKey (Keyed.key a) k)
  | deleteWithPayload (a : α) (k : ItemId) (t : Instant) :
      Contradicts ⟨.delete, k, some a, t⟩ .deleteWithPayload

theorem Envelope.event_eq_error_iff (v : Envelope α) (c : Contradiction) :
    v.event = .error c ↔ v.Contradicts c := by
  constructor
  · obtain ⟨kind, k, payload, t⟩ := v
    intro h
    cases kind with
    | create =>
      cases payload with
      | none =>
        cases h
        exact .createWithoutPayload k t
      | some a =>
        by_cases hk : Keyed.key a = k
        · simp [Envelope.event, hk] at h
        · simp only [Envelope.event, hk, if_false] at h
          cases h
          exact .createOfOtherKey a k t hk
    | delete =>
      cases payload with
      | none => simp [Envelope.event] at h
      | some a =>
        cases h
        exact .deleteWithPayload a k t
  · rintro (_ | ⟨a, k, t, h⟩ | _)
    · rfl
    · simp [Envelope.event, h]
    · rfl

theorem Event.decode_contradictory_iff {c : Contradiction} :
    (Event.decode b : Except EventFault (Event α)) = .error (.contradictory c) ↔
      ∃ v, (Envelope.codec α).decode b = .ok v ∧ v.Contradicts c := by
  simp only [← Envelope.event_eq_error_iff]
  constructor
  · intro h
    cases hparse : (Envelope.codec α).decode b with
    | error f => simp [Event.decode_of_unread hparse] at h
    | ok v =>
      cases hevent : v.event with
      | error d =>
        rw [Event.decode_of_contradicting hparse hevent] at h
        cases h
        exact ⟨v, rfl, hevent⟩
      | ok e => simp [Event.decode_of_fitting hparse hevent] at h
  · rintro ⟨v, hparse, hevent⟩
    exact Event.decode_of_contradicting hparse hevent

theorem Event.decode_unreadable_iff :
    (∃ f, (Event.decode b : Except EventFault (Event α)) = .error (.unreadable f)) ↔
      ∀ v, (Envelope.codec α).decode b ≠ .ok v := by
  constructor
  · rintro ⟨f, h⟩ v hparse
    cases hevent : v.event with
    | error c => simp [Event.decode_of_contradicting hparse hevent] at h
    | ok e => simp [Event.decode_of_fitting hparse hevent] at h
  · intro h
    cases hparse : (Envelope.codec α).decode b with
    | error f => exact ⟨f, Event.decode_of_unread hparse⟩
    | ok v => exact absurd hparse (h v)

/-- A document is accepted exactly if it holds the envelope of an event, and what is accepted has
one normal form. -/
theorem decode_accepts_events (s : Service) (b : Bytes) :
    let parse := (Envelope.codec s.Record).decode
    (∀ e : Event s.Record, Event.decode b = .ok e ↔
      (∃ a t, e = .create a t ∧ parse b = .ok ⟨.create, Keyed.key a, some a, t⟩) ∨
        ∃ k t, e = .delete k t ∧ parse b = .ok ⟨.delete, k, none, t⟩) ∧
    (∀ c, (Event.decode b : Except EventFault (Event s.Record)) = .error (.contradictory c) ↔
      ∃ v, parse b = .ok v ∧ v.Contradicts c) ∧
    ((∃ f, (Event.decode b : Except EventFault (Event s.Record)) = .error (.unreadable f)) ↔
      ∀ v, parse b ≠ .ok v) ∧
    ∀ e : Event s.Record, Event.decode b = .ok e →
      Event.decode e.message.data = .ok e ∧
        ∀ d : Event s.Record, Event.decode e.message.data = .ok d →
          d.message.data = e.message.data := by
  refine ⟨fun e => ?_, fun c => Event.decode_contradictory_iff, Event.decode_unreadable_iff,
    fun e _ => ?_⟩
  · rw [Event.decode_eq_ok_iff]
    constructor
    · intro h
      cases e with
      | create a t => exact .inl ⟨a, t, rfl, h⟩
      | delete k t => exact .inr ⟨k, t, rfl, h⟩
    · rintro (⟨a, t, rfl, h⟩ | ⟨k, t, rfl, h⟩)
      · exact h
      · exact h
  · have hback : Event.decode e.message.data = .ok e :=
      Event.decode_message s.record_readsBack e
    refine ⟨hback, fun d hd => ?_⟩
    rw [hback] at hd
    cases hd
    rfl

/-- A document that holds the values of an envelope in a list, with a member that no record has
and the time of a leap second at another offset. -/
def listDocument : Bytes :=
  Text.utf8 ("[\"CREATE\",7,\x7b\"weight\":3,\"id\":7,\"more\":[null],\"name\":\"a\"\x7d," ++
    "\"2016-12-31 23:59:60.5+01:00\"]")

def listedEvent : Event Item :=
  .create ⟨7, "a", 3, none⟩
    ⟨⟨2016, 12, 31, by decide, by decide, by decide, by decide, by decide, by decide⟩,
      82799, 1500000000, by decide, by decide, by decide⟩

theorem decode_accepts_listed_event :
    (Event.decode listDocument : Except EventFault (Event Item)) = .ok listedEvent ∧
      Event.decode listedEvent.message.data = .ok listedEvent ∧
      listedEvent.message.data ≠ listDocument := by
  have hdecode : (Event.decode listDocument).toOption = some listedEvent := by decide +kernel
  have haccepted : Event.decode listDocument = .ok listedEvent := by
    cases h : (Event.decode listDocument : Except EventFault (Event Item)) with
    | error f => simp [h, Except.toOption] at hdecode
    | ok e => simp only [h, Except.toOption, Option.some.injEq] at hdecode; rw [hdecode]
  have h := (decode_accepts_events .item listDocument).2.2.2 listedEvent haccepted
  exact ⟨haccepted, h.1, by decide +kernel⟩

end AggregateGateway.Catalog
