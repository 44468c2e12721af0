import AggregateGateway.Http.MediaType
import AggregateGateway.Http.Query
import AggregateGateway.Http.Router
import AggregateGateway.Http.Uuid

/-!
What endpoints take from a request: parameters of the path, the query, a document in the body, the
routing group and the correlation identifier. A part that cannot be taken is a bad request.
-/

namespace AggregateGateway.Http

open Catalog (ItemId)

/-- Why a part of a request cannot be taken. -/
inductive Rejection where
  | parameterNotText (name : String)
  | parameter (value kind : String)
  | parameterAt (index : Nat) (value kind : String)
  | query (f : QueryFault)
  | notJson
  | tooLong
  | body (document : Bytes) (f : Json.Fault)

namespace Rejection

def message : Rejection → String
  | .parameterNotText name => "Invalid URL: Invalid UTF-8 in `" ++ name ++ "`"
  | .parameter value kind =>
    "Invalid URL: Cannot parse `" ++ Text.quoted value ++ "` to a `" ++ kind ++ "`"
  | .parameterAt index value kind =>
    "Invalid URL: Cannot parse value at index " ++ toString index ++ " with value `" ++
      Text.quoted value ++ "` to a `" ++ kind ++ "`"
  | .query f => "Failed to deserialize query string: " ++ f.message
  | .notJson => "Expected request with `Content-Type: application/json`"
  | .tooLong => "Failed to buffer the request body: length limit exceeded"
  | .body document f =>
    (if f.cause.isAboutData then "Failed to deserialize the JSON body into the target type: "
    else "Failed to parse the request body as JSON: ") ++ f.locatedMessage document

/-- Whatever the reason, the request is a bad one. -/
def problem (path : String) (r : Rejection) : Problem :=
  (Problem.badRequest r.message).withPath path

end Rejection

/-- The values of all parameters; the first that is not text is at fault. -/
def parameterTexts : Parameters → Except Rejection (List String)
  | [] => .ok []
  | (name, segment) :: more =>
    match Text.text? (decoded (Text.utf8 segment)) with
    | none => .error (.parameterNotText name)
    | some text => (parameterTexts more).map (text :: ·)

def int32? (text : String) : Option Int32 :=
  (Text.signed? (UInt32.size / 2 - 1) text.toList).map Int32.ofInt

/-- The only parameter, a number. -/
def numberParameter (parameters : Parameters) : Except Rejection ItemId :=
  match parameterTexts parameters with
  | .error r => .error r
  | .ok texts =>
    let text := texts.headD ""
    match int32? text with
    | some n => .ok n
    | none => .error (.parameter text "i32")

/-- Two parameters, a number and a text. -/
def pairParameters (parameters : Parameters) : Except Rejection (Int32 × String) :=
  match parameterTexts parameters with
  | .error r => .error r
  | .ok texts =>
    let text := texts.headD ""
    match int32? text with
    | some n => .ok (n, (texts.drop 1).headD "")
    | none => .error (.parameterAt 0 text "i32")

def readQuery (r : Request) : Except Rejection ReadQuery :=
  (ReadQuery.ofQuery r.target.query).mapError .query

/-- Bodies may be two mebibytes long. -/
def bodyLimit : Nat := 2 * 1024 * 1024

/-- The document in the body. What follows it is not looked at. -/
def jsonBody {α : Type} (c : Json.Codec α) (r : Request) : Except Rejection α :=
  if !((r.header? Response.contentType).bind MediaType.read?).any MediaType.isJson then
    .error .notJson
  else if bodyLimit < r.body.length then .error .tooLong
  else
    match c.read r.body with
    | .ok (a, _) => .ok a
    | .error f => .error (.body r.body f)

def groupHeader : String := "x-group"

/-- The group that a request wants to be routed to. -/
def routingGroup (r : Request) : Option String :=
  r.header? groupHeader

def correlationHeader : String := "x-correlation-id"

/-- The identifier that a request brings along, or a fresh one. -/
def correlationId (fresh : Uuid) (r : Request) : Uuid :=
  ((r.header? correlationHeader).bind Uuid.read?).getD fresh

/-- The identifier that an endpoint is given: the one that was attached to the request on its way,
otherwise the one that the request brings along or a fresh one. -/
def givenId (attached : Option Uuid) (fresh : Uuid) (r : Request) : Uuid :=
  attached.getD (correlationId fresh r)

/-- Shows a response's correlation identifier. -/
def Response.correlated (id : Uuid) (r : Response) : Response :=
  r.setHeader correlationHeader id.text

end AggregateGateway.Http
