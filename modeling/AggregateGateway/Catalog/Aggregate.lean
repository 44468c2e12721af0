import AggregateGateway.Catalog.Record

/-!
Aggregates: an item together with its ratings and commentary, as a view that is read and as a
specification that is created.
-/

namespace AggregateGateway.Catalog

open Json (Codec Fields)

/-- The instances that took part in a read. -/
structure Addresses where
  composite : String
  item : String
  ratings : String
  commentary : String
  deriving DecidableEq

structure View where
  id : ItemId
  name : String
  weight : Int32
  ratings : List RatingSummary
  commentary : List CommentarySummary
  addresses : Addresses
  deriving DecidableEq

/-- The address of a list of records is that of its first one. -/
def firstAddress (addresses : List (Option String)) : String :=
  (addresses.head?.bind id).getD ""

def View.assemble (item : Item) (ratings : List Rating) (commentary : List Commentary)
    (composite : String) : View where
  id := item.id
  name := item.name
  weight := item.weight
  ratings := ratings.map Rating.summary
  commentary := commentary.map Commentary.summary
  addresses :=
    { composite
      item := item.originAddress.getD ""
      ratings := firstAddress (ratings.map Rating.originAddress)
      commentary := firstAddress (commentary.map Commentary.originAddress) }

/-- An aggregate to be created. -/
structure Spec where
  id : ItemId
  name : String
  weight : Int32
  ratings : List RatingSummary
  commentary : List CommentarySummary
  deriving DecidableEq

def Spec.item (s : Spec) : Item := ⟨s.id, s.name, s.weight, none⟩

def Spec.ratingRecords (s : Spec) : List Rating :=
  s.ratings.map (RatingSummary.forItem s.id)

def Spec.commentaryRecords (s : Spec) : List Commentary :=
  s.commentary.map (CommentarySummary.forItem s.id)

def Addresses.codec : Codec Addresses :=
  Json.record "ServiceAddresses"
    (.required "composite" Json.text <| .required "item" Json.text <|
      .required "ratings" Json.text <| .required "commentary" Json.text .nil)
    (fun (composite, item, ratings, commentary, ()) => ⟨composite, item, ratings, commentary⟩)
    fun a => (a.composite, a.item, a.ratings, a.commentary, ())

def View.codec : Codec View :=
  Json.record "AggregateView"
    (.required "id" Json.int32 <| .required "name" Json.text <| .required "weight" Json.int32 <|
      .required "ratings" (Json.list RatingSummary.codec) <|
      .required "commentary" (Json.list CommentarySummary.codec) <|
      .required "serviceAddresses" Addresses.codec .nil)
    (fun (id, name, weight, ratings, commentary, addresses, ()) =>
      ⟨id, name, weight, ratings, commentary, addresses⟩)
    fun v => (v.id, v.name, v.weight, v.ratings, v.commentary, v.addresses, ())

def Spec.codec : Codec Spec :=
  Json.record "AggregateSpec"
    (.required "id" Json.int32 <| .required "name" Json.text <| .required "weight" Json.int32 <|
      .defaulted "ratings" (Json.list RatingSummary.codec) [] <|
      .defaulted "commentary" (Json.list CommentarySummary.codec) [] .nil)
    (fun (id, name, weight, ratings, commentary, ()) => ⟨id, name, weight, ratings, commentary⟩)
    fun s => (s.id, s.name, s.weight, s.ratings, s.commentary, ())

end AggregateGateway.Catalog
