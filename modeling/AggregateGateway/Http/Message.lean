import AggregateGateway.Http.Problem
import AggregateGateway.Http.Target

/-!
Requests and responses. Header names are compared without regard to case, and the first header of
a name is the one that counts.
-/

namespace AggregateGateway.Http

structure Request where
  method : String
  target : Target
  headers : List (String × Bytes)
  body : Bytes
  deriving DecidableEq

structure Response where
  status : Status
  headers : List (String × String)
  body : Bytes
  deriving DecidableEq

/-- Header values that are text consist of visible characters, blanks and tabs. -/
def isHeaderOctet (b : UInt8) : Bool :=
  (0x20 ≤ b && b < 0x7F) || b == 0x09

def headerText? (value : Bytes) : Option String :=
  if value.all isHeaderOctet then Text.text? value else none

def isSameName (a b : String) : Bool :=
  a.toLower == b.toLower

/-- The first header of a name, if it is text. -/
def Request.header? (r : Request) (name : String) : Option String :=
  (r.headers.find? fun (n, _) => isSameName n name).bind fun (_, value) => headerText? value

namespace Response

def empty (status : Status) : Response := ⟨status, [], []⟩

def header? (r : Response) (name : String) : Option String :=
  (r.headers.find? fun (n, _) => isSameName n name).map Prod.snd

/-- Sets a header in place of all others of its name. -/
def setHeader (r : Response) (name value : String) : Response :=
  { r with headers := (r.headers.filter fun (n, _) => !isSameName n name) ++ [(name, value)] }

def contentType : String := "content-type"

def text (status : Status) (body : String) : Response :=
  ⟨status, [(contentType, "text/plain; charset=utf-8")], Text.utf8 body⟩

def json {α : Type} (status : Status) (c : Json.Codec α) (a : α) : Response :=
  ⟨status, [(contentType, "application/json")], c.write a⟩

def problem (now : Time.Instant) (p : Problem) : Response :=
  json p.status ProblemDocument.codec (p.document now)

/-- The same response without its body. -/
def withoutBody (r : Response) : Response := { r with body := [] }

end Response

end AggregateGateway.Http
