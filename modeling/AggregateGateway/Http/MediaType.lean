import AggregateGateway.Http.Target

/-!
Media types as they are named by a content type: a type, a subtype that may end in a suffix, and
parameters.
-/

namespace AggregateGateway.Http

structure MediaType where
  type : String
  /-- Without the suffix. -/
  subtype : String
  /-- What follows the last plus sign. -/
  suffix : Option String
  deriving DecidableEq

namespace MediaType

/-- Characters of a name. -/
def isToken (c : Char) : Bool :=
  c.isAlphanum || "!#$%&\x27*+-.^_\x60|~".toList.contains c

/-- Characters between quotes. -/
def isQuotable (c : Char) : Bool :=
  0x20 ≤ c.toNat && c.toNat != 0x7F

/-- Blanks up to the next parameter or the end. -/
def afterQuoted? (cs : List Char) : Option (List Char) :=
  match cs.dropWhile (· == ' ') with
  | [] => some []
  | ';' :: rest => some rest
  | _ => none

/-- What follows a quoted value, the opening quote of which has been passed. A quote that comes
first does not close. -/
def quotedRest? (cs : List Char) : Option (List Char) :=
  match cs with
  | [] => none
  | c :: cs =>
    if !isQuotable c then none
    else
      match cs.dropWhile fun c => isQuotable c && c != '"' with
      | '"' :: rest => afterQuoted? rest
      | _ => none

/-- What follows the value of a parameter. -/
def valueRest? (cs : List Char) : Option (List Char) :=
  match cs with
  | '"' :: cs => quotedRest? cs
  | cs =>
    match cs.dropWhile isToken with
    | [] => some []
    | ';' :: rest => if isToken (cs.headD ';') then some rest else none
    | _ => none

/-- Whether the text is a list of parameters, each a name and a value, blanks before each. The
first argument bounds the number of parameters. -/
def areParameters : List Char → List Char → Bool
  | [], cs => cs.isEmpty
  | _ :: fuel, cs =>
    match cs.dropWhile (· == ' ') with
    | [] => true
    | c :: cs =>
      isToken c &&
        match cs.dropWhile isToken with
        | '=' :: rest => (valueRest? rest).any (areParameters fuel)
        | _ => false

/-- Splits a subtype at its last plus sign, unless that comes first. -/
def splitSuffix (cs : List Char) : List Char × Option (List Char) :=
  let suffix := (cs.reverse.takeWhile (· != '+')).reverse
  let rest := (cs.reverse.dropWhile (· != '+')).drop 1
  if rest.isEmpty then (cs, none) else (rest.reverse, some suffix)

def lower (cs : List Char) : String :=
  String.ofList (cs.map Char.toLower)

def read? (s : String) : Option MediaType :=
  let cs := s.toList
  let type := cs.takeWhile isToken
  match type, cs.dropWhile isToken with
  | _ :: _, '/' :: cs =>
    let subtype := cs.takeWhile isToken
    let (name, suffix) := splitSuffix subtype
    let mediaType : MediaType := ⟨lower type, lower name, suffix.map lower⟩
    match subtype, cs.dropWhile isToken with
    | _, [] => some mediaType
    | _ :: _, ';' :: rest => if areParameters (' ' :: rest) rest then some mediaType else none
    | _, _ => none
  | _, _ => none

/-- A type of the application family that is JSON itself or built on it. -/
def isJson (m : MediaType) : Bool :=
  m.type == "application" && (m.subtype == "json" || m.suffix == some "json")

end MediaType

end AggregateGateway.Http
