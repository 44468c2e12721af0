import AggregateGateway.Catalog.Health
import AggregateGateway.Config
import AggregateGateway.Proofs.Catalog.Aggregates
import AggregateGateway.Proofs.Catalog.Envelopes
import AggregateGateway.Proofs.Http.Problems

/-! The documents that the gateway exchanges. Each kind is read back from what is written of it, so
whatever document a value was read from, writing it settles on one form. -/

namespace AggregateGateway

open Catalog
open Json (Codec int32_readsBack size_readsBack text_readsBack)
open Time (Span)

/-! ### Spans -/

theorem Span.of?_parts (s : Span) :
    Span.of? (s.nanos / 1000000000) (s.nanos % 1000000000) = some s := by
  have hparts : s.nanos / 1000000000 * 1000000000 + s.nanos % 1000000000 = s.nanos :=
    Nat.div_add_mod' s.nanos 1000000000
  simp only [Span.of?, hparts, s.nanos_lt, dite_true]

theorem span_readsBack_of_parts {s : Span} {seconds : UInt64} {nanos : UInt32}
    (hseconds : UInt64.ofNat (s.nanos / 1000000000) = seconds)
    (hnanos : UInt32.ofNat (s.nanos % 1000000000) = nanos)
    (hof : Span.of? seconds.toNat nanos.toNat = some s) : Span.codec.ReadsBack s := by
  refine Json.checkedRecord_readsBack
    (.required (by simp) (Json.uint64_readsBack _) <|
      .required (by simp) (Json.uint32_readsBack _) trivial) ?_
  -- a variable in place of `of?`, so that nothing computes with the limit of a span
  obtain ⟨f, hf⟩ : ∃ f, f = Span.of? := ⟨_, rfl⟩
  rw [← hf] at hof ⊢
  rw [hseconds, hnanos]
  simp only [hof]

theorem span_readsBack (s : Span) : Span.codec.ReadsBack s := by
  have hlt : s.nanos / 1000000000 < UInt64.size := by
    have hnanos := s.nanos_lt
    simp only [Time.spanLimit, UInt64.size] at hnanos ⊢
    omega
  have hseconds : (UInt64.ofNat (s.nanos / 1000000000)).toNat = s.nanos / 1000000000 :=
    UInt64.toNat_ofNat_of_lt hlt
  have hnanos : (UInt32.ofNat (s.nanos % 1000000000)).toNat = s.nanos % 1000000000 :=
    UInt32.toNat_ofNat_of_lt (Nat.lt_trans (Nat.mod_lt _ (by decide)) (by decide))
  refine span_readsBack_of_parts rfl rfl ?_
  rw [hseconds, hnanos, Span.of?_parts]

/-! ### Health -/

theorem liveness_readsBack (l : Liveness) : Liveness.codec.ReadsBack l :=
  Json.record_readsBack
    (.required (by simp) (Json.variant_readsBack (by cases l <;> decide)) trivial) rfl

theorem health_readsBack (h : Health) : Health.codec.ReadsBack h :=
  Json.record_readsBack
    (.required (by simp) (liveness_readsBack _) <| .required (by simp) (liveness_readsBack _) <|
      .required (by simp) (liveness_readsBack _) trivial)
    rfl

/-! ### Configuration -/

namespace Config

theorem server_readsBack (s : Server) : Server.codec.ReadsBack s :=
  Json.record_readsBack
    (.required (by simp) (text_readsBack _) <|
      .required (by simp) (Json.uint16_readsBack _) <|
      .required (by simp) (text_readsBack _) trivial)
    rfl

theorem downstream_readsBack (d : Downstream) : Downstream.codec.ReadsBack d :=
  Json.record_readsBack
    (.required (by simp) (text_readsBack _) <| .required (by simp) (text_readsBack _) <|
      .required (by simp) (text_readsBack _) <| .required (by simp) (span_readsBack _) <|
      .required (by simp) (span_readsBack _) trivial)
    rfl

theorem resilience_readsBack (r : Resilience) : Resilience.codec.ReadsBack r :=
  Json.record_readsBack
    (.required (by simp) (span_readsBack _) <| .required (by simp) (size_readsBack _) <|
      .required (by simp) (span_readsBack _) <| .required (by simp) (size_readsBack _) <|
      .required (by simp) (size_readsBack _) <| .required (by simp) (Json.uint8_readsBack _) <|
      .required (by simp) (span_readsBack _) <| .required (by simp) (size_readsBack _) trivial)
    rfl

theorem channel_readsBack (c : Channel) : Channel.codec.ReadsBack c :=
  Json.record_readsBack
    (.required (by simp) (text_readsBack _) <| .required (by simp) (text_readsBack _) <|
      .required (by simp) (text_readsBack _) <| .required (by simp) (text_readsBack _) trivial)
    rfl

theorem publisher_readsBack (p : Publisher) : Publisher.codec.ReadsBack p :=
  Json.record_readsBack
    (.required (by simp) (size_readsBack _) <| .required (by simp) (size_readsBack _) trivial)
    rfl

end Config

theorem config_readsBack (c : Config) : Config.codec.ReadsBack c :=
  Json.record_readsBack
    (.required (by simp) (Config.server_readsBack _) <|
      .required (by simp) (Config.downstream_readsBack _) <|
      .required (by simp) (Config.resilience_readsBack _) <|
      .required (by simp) (Config.channel_readsBack _) <|
      .required (by simp) (Config.publisher_readsBack _) trivial)
    rfl

/-! ### The kinds of documents -/

inductive DocumentKind where
  | item
  | rating
  | commentary
  | ratingSummary
  | commentarySummary
  | addresses
  | view
  | spec
  | problem
  | health
  | config

namespace DocumentKind

def Value : DocumentKind → Type
  | .item => Item
  | .rating => Rating
  | .commentary => Commentary
  | .ratingSummary => RatingSummary
  | .commentarySummary => CommentarySummary
  | .addresses => Addresses
  | .view => View
  | .spec => Spec
  | .problem => Http.ProblemDocument
  | .health => Health
  | .config => Config

def codec : (k : DocumentKind) → Codec k.Value
  | .item => Item.codec
  | .rating => Rating.codec
  | .commentary => Commentary.codec
  | .ratingSummary => RatingSummary.codec
  | .commentarySummary => CommentarySummary.codec
  | .addresses => Addresses.codec
  | .view => View.codec
  | .spec => Spec.codec
  | .problem => Http.ProblemDocument.codec
  | .health => Health.codec
  | .config => Config.codec

/-- A document as it is written again after it was read. -/
def rewritten (k : DocumentKind) (document : Bytes) : Except Json.Fault Bytes :=
  (k.codec.decode document).map k.codec.write

theorem readsBack : (k : DocumentKind) → (v : k.Value) → k.codec.ReadsBack v
  | .item => item_readsBack
  | .rating => rating_readsBack
  | .commentary => commentary_readsBack
  | .ratingSummary => ratingSummary_readsBack
  | .commentarySummary => commentarySummary_readsBack
  | .addresses => addresses_readsBack
  | .view => view_readsBack
  | .spec => spec_readsBack
  | .problem => Http.problemDocument_readsBack
  | .health => health_readsBack
  | .config => config_readsBack

theorem rewritten_write (k : DocumentKind) (v : k.Value) :
    k.rewritten (k.codec.write v) = .ok (k.codec.write v) := by
  rw [rewritten, (k.readsBack v).decode]
  rfl

theorem rewritten_rewritten (k : DocumentKind) {document again : Bytes}
    (h : k.rewritten document = .ok again) : k.rewritten again = .ok again := by
  cases hread : k.codec.decode document with
  | error f => simp [rewritten, hread, Except.map] at h
  | ok v =>
    simp only [rewritten, hread, Except.map, Except.ok.injEq] at h
    rw [← h]
    exact k.rewritten_write v

end DocumentKind

/-! ### Origins -/

def objectOf (members : List (String × Bytes)) : Bytes :=
  0x7B :: Json.joined (members.map fun m => Json.writeString m.1 ++ 0x3A :: m.2) ++ [0x7D]

def originMember (origin : Option String) : List (String × Bytes) :=
  origin.toList.map fun address => ("originAddress", Json.text.write address)

theorem write_item (i : Item) : Item.codec.write i =
    objectOf ([("id", Json.int32.write i.id), ("name", Json.text.write i.name),
      ("weight", Json.int32.write i.weight)] ++ originMember i.originAddress) := by
  obtain ⟨id, name, weight, _ | origin⟩ := i <;> rfl

theorem write_rating (r : Rating) : Rating.codec.write r =
    objectOf ([("itemId", Json.int32.write r.itemId), ("ratingId", Json.int32.write r.ratingId),
      ("author", Json.text.write r.author), ("rate", Json.int32.write r.rate),
      ("content", Json.text.write r.content)] ++ originMember r.originAddress) := by
  obtain ⟨itemId, ratingId, author, rate, content, _ | origin⟩ := r <;> rfl

theorem write_commentary (c : Commentary) : Commentary.codec.write c =
    objectOf ([("itemId", Json.int32.write c.itemId),
      ("commentaryId", Json.int32.write c.commentaryId), ("author", Json.text.write c.author),
      ("subject", Json.text.write c.subject), ("content", Json.text.write c.content)] ++
      originMember c.originAddress) := by
  obtain ⟨itemId, commentaryId, author, subject, content, _ | origin⟩ := c <;> rfl

/-- Documents are read back as they were written, what is written of a document that was read stays
as it is from then on, and a record without an origin has no member for it. -/
theorem documents_round_trip :
    (∀ (k : DocumentKind) (v : k.Value), k.codec.decode (k.codec.write v) = .ok v) ∧
    (∀ (k : DocumentKind) (document again : Bytes),
      k.rewritten document = .ok again → k.rewritten again = .ok again) ∧
    (∀ id name weight, Item.codec.write ⟨id, name, weight, none⟩ =
      objectOf [("id", Json.int32.write id), ("name", Json.text.write name),
        ("weight", Json.int32.write weight)]) ∧
    (∀ itemId ratingId author rate content,
      Rating.codec.write ⟨itemId, ratingId, author, rate, content, none⟩ =
        objectOf [("itemId", Json.int32.write itemId), ("ratingId", Json.int32.write ratingId),
          ("author", Json.text.write author), ("rate", Json.int32.write rate),
          ("content", Json.text.write content)]) ∧
    ∀ itemId commentaryId author subject content,
      Commentary.codec.write ⟨itemId, commentaryId, author, subject, content, none⟩ =
        objectOf [("itemId", Json.int32.write itemId),
          ("commentaryId", Json.int32.write commentaryId), ("author", Json.text.write author),
          ("subject", Json.text.write subject), ("content", Json.text.write content)] := by
  refine ⟨fun k v => (k.readsBack v).decode, fun k _ _ => k.rewritten_rewritten, ?_, ?_, ?_⟩
  · exact fun id name weight => write_item ⟨id, name, weight, none⟩
  · exact fun itemId ratingId author rate content =>
      write_rating ⟨itemId, ratingId, author, rate, content, none⟩
  · exact fun itemId commentaryId author subject content =>
      write_commentary ⟨itemId, commentaryId, author, subject, content, none⟩

/-- A problem with blanks, an unknown member, a time at another offset and two members missing. -/
def looseProblem : Bytes :=
  Text.utf8 ("\x7b \"httpStatus\" : \"NOT_FOUND\", \"code\" : [404],\n" ++
    "  \"timestamp\" : \"2025-01-01 01:00:00.5+01:00\" \x7d")

def strictProblem : Bytes :=
  Text.utf8 ("\x7b\"timestamp\":\"2025-01-01T00:00:00.500Z\",\"path\":\"\"," ++
    "\"httpStatus\":\"NOT_FOUND\",\"message\":\"\"\x7d")

theorem documents_round_trip_of_looseProblem :
    DocumentKind.problem.rewritten looseProblem = .ok strictProblem ∧
      DocumentKind.problem.rewritten strictProblem = .ok strictProblem := by
  have hwritten : (DocumentKind.problem.rewritten looseProblem).toOption = some strictProblem := by
    decide +kernel
  have hrewritten : DocumentKind.problem.rewritten looseProblem = .ok strictProblem := by
    cases h : DocumentKind.problem.rewritten looseProblem with
    | error f => simp [h, Except.toOption] at hwritten
    | ok again => simp only [h, Except.toOption, Option.some.injEq] at hwritten; rw [hwritten]
  exact ⟨hrewritten, documents_round_trip.2.1 .problem looseProblem strictProblem hrewritten⟩

end AggregateGateway
