import AggregateGateway.Json.Record

/-!
The records of the three services behind the gateway. Every record belongs to one item, the
identifier of which is its key. An origin address names the instance that answered a read.
-/

namespace AggregateGateway.Catalog

open Json (Codec Fields)

abbrev ItemId := Int32

/-- The least identifier of an item. -/
def firstItemId : ItemId := 1

structure Item where
  id : ItemId
  name : String
  weight : Int32
  originAddress : Option String
  deriving DecidableEq

structure Rating where
  itemId : ItemId
  ratingId : Int32
  author : String
  rate : Int32
  content : String
  originAddress : Option String
  deriving DecidableEq

structure Commentary where
  itemId : ItemId
  commentaryId : Int32
  author : String
  subject : String
  content : String
  originAddress : Option String
  deriving DecidableEq

/-- A rating without the item it belongs to. -/
structure RatingSummary where
  ratingId : Int32
  author : String
  rate : Int32
  content : String
  deriving DecidableEq

structure CommentarySummary where
  commentaryId : Int32
  author : String
  subject : String
  content : String
  deriving DecidableEq

def Rating.summary (r : Rating) : RatingSummary :=
  ⟨r.ratingId, r.author, r.rate, r.content⟩

def Commentary.summary (c : Commentary) : CommentarySummary :=
  ⟨c.commentaryId, c.author, c.subject, c.content⟩

/-- The rating that is to be created for an item; it has no origin yet. -/
def RatingSummary.forItem (itemId : ItemId) (r : RatingSummary) : Rating :=
  ⟨itemId, r.ratingId, r.author, r.rate, r.content, none⟩

def CommentarySummary.forItem (itemId : ItemId) (c : CommentarySummary) : Commentary :=
  ⟨itemId, c.commentaryId, c.author, c.subject, c.content, none⟩

theorem RatingSummary.summary_forItem (itemId : ItemId) (r : RatingSummary) :
    (r.forItem itemId).summary = r := rfl

theorem CommentarySummary.summary_forItem (itemId : ItemId) (c : CommentarySummary) :
    (c.forItem itemId).summary = c := rfl

/-- A record that events are about. -/
class Keyed (α : Type) where
  key : α → ItemId
  codec : Codec α

def Item.codec : Codec Item :=
  Json.record "Item"
    (.required "id" Json.int32 <| .required "name" Json.text <| .required "weight" Json.int32 <|
      .optional "originAddress" Json.text .nil)
    (fun (id, name, weight, origin, ()) => ⟨id, name, weight, origin⟩)
    fun i => (i.id, i.name, i.weight, i.originAddress, ())

def Rating.codec : Codec Rating :=
  Json.record "Rating"
    (.required "itemId" Json.int32 <| .required "ratingId" Json.int32 <|
      .required "author" Json.text <| .required "rate" Json.int32 <|
      .required "content" Json.text <| .optional "originAddress" Json.text .nil)
    (fun (itemId, ratingId, author, rate, content, origin, ()) =>
      ⟨itemId, ratingId, author, rate, content, origin⟩)
    fun r => (r.itemId, r.ratingId, r.author, r.rate, r.content, r.originAddress, ())

def Commentary.codec : Codec Commentary :=
  Json.record "Commentary"
    (.required "itemId" Json.int32 <| .required "commentaryId" Json.int32 <|
      .required "author" Json.text <| .required "subject" Json.text <|
      .required "content" Json.text <| .optional "originAddress" Json.text .nil)
    (fun (itemId, commentaryId, author, subject, content, origin, ()) =>
      ⟨itemId, commentaryId, author, subject, content, origin⟩)
    fun c => (c.itemId, c.commentaryId, c.author, c.subject, c.content, c.originAddress, ())

def RatingSummary.codec : Codec RatingSummary :=
  Json.record "RatingSummary"
    (.required "ratingId" Json.int32 <| .required "author" Json.text <|
      .required "rate" Json.int32 <| .required "content" Json.text .nil)
    (fun (ratingId, author, rate, content, ()) => ⟨ratingId, author, rate, content⟩)
    fun r => (r.ratingId, r.author, r.rate, r.content, ())

def CommentarySummary.codec : Codec CommentarySummary :=
  Json.record "CommentarySummary"
    (.required "commentaryId" Json.int32 <| .required "author" Json.text <|
      .required "subject" Json.text <| .required "content" Json.text .nil)
    (fun (commentaryId, author, subject, content, ()) => ⟨commentaryId, author, subject, content⟩)
    fun c => (c.commentaryId, c.author, c.subject, c.content, ())

instance : Keyed Item := ⟨Item.id, Item.codec⟩
instance : Keyed Rating := ⟨Rating.itemId, Rating.codec⟩
instance : Keyed Commentary := ⟨Commentary.itemId, Commentary.codec⟩

/-- The services behind the gateway, in the order of the health document. -/
inductive Service where
  | item
  | ratings
  | commentary
  deriving DecidableEq

def Service.name : Service → String
  | .item => "item"
  | .ratings => "ratings"
  | .commentary => "commentary"

def Service.all : List Service := [.item, .ratings, .commentary]

/-- What a read asks for besides the identifier. The delay in seconds and the fault percentage
make the item service slow or faulty on purpose; the group routes every read. -/
structure ReadOptions where
  delay : UInt32
  faultPercent : UInt32
  group : Option String
  deriving DecidableEq

def ReadOptions.plain : ReadOptions := ⟨0, 0, none⟩

end AggregateGateway.Catalog
