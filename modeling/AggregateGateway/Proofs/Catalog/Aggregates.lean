import AggregateGateway.Catalog.Aggregate
import AggregateGateway.Proofs.Json.Lists

/-! Aggregates are read back from their documents, those that are to be created like the views. -/

namespace AggregateGateway.Catalog

open Json (int32_readsBack text_readsBack list_readsBack)

theorem ratingSummary_readsBack (r : RatingSummary) : RatingSummary.codec.ReadsBack r :=
  Json.record_readsBack
    (.required (by simp) (int32_readsBack _) <| .required (by simp) (text_readsBack _) <|
      .required (by simp) (int32_readsBack _) <| .required (by simp) (text_readsBack _) trivial)
    rfl

theorem commentarySummary_readsBack (c : CommentarySummary) :
    CommentarySummary.codec.ReadsBack c :=
  Json.record_readsBack
    (.required (by simp) (int32_readsBack _) <| .required (by simp) (text_readsBack _) <|
      .required (by simp) (text_readsBack _) <| .required (by simp) (text_readsBack _) trivial)
    rfl

theorem addresses_readsBack (a : Addresses) : Addresses.codec.ReadsBack a :=
  Json.record_readsBack
    (.required (by simp) (text_readsBack _) <| .required (by simp) (text_readsBack _) <|
      .required (by simp) (text_readsBack _) <| .required (by simp) (text_readsBack _) trivial)
    rfl

theorem view_readsBack (v : View) : View.codec.ReadsBack v :=
  Json.record_readsBack
    (.required (by simp) (int32_readsBack _) <| .required (by simp) (text_readsBack _) <|
      .required (by simp) (int32_readsBack _) <|
      .required (by simp) (list_readsBack fun r _ => ratingSummary_readsBack r) <|
      .required (by simp) (list_readsBack fun c _ => commentarySummary_readsBack c) <|
      .required (by simp) (addresses_readsBack _) trivial)
    rfl

theorem spec_readsBack (s : Spec) : Spec.codec.ReadsBack s :=
  Json.record_readsBack
    (.required (by simp) (int32_readsBack _) <| .required (by simp) (text_readsBack _) <|
      .required (by simp) (int32_readsBack _) <|
      .defaulted (by simp) (list_readsBack fun r _ => ratingSummary_readsBack r) <|
      .defaulted (by simp) (list_readsBack fun c _ => commentarySummary_readsBack c) trivial)
    rfl

end AggregateGateway.Catalog
