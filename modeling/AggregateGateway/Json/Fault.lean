import AggregateGateway.Text.Quoted
import AggregateGateway.Text.Shortest

/-!
Why a document cannot be read, and where. A fault keeps the octets that were left when it was
found; line and column follow from the document and that remainder.
-/

namespace AggregateGateway.Json

/-- What stands in a document where something else was expected. -/
inductive Found where
  | null
  | boolean (b : Bool)
  | integer (n : Int)
  | real (x : Float)
  | text (s : String)
  | list
  | object

def Found.message : Found → String
  | .null => "null"
  | .boolean b => "boolean `" ++ (if b then "true" else "false") ++ "`"
  | .integer n => "integer `" ++ toString n ++ "`"
  | .real x => "floating point `" ++ Text.floatText x ++ "`"
  | .text s => "string " ++ Text.quoted s
  | .list => "sequence"
  | .object => "map"

inductive Cause where
  | endInList
  | endInObject
  | endInString
  | endInValue
  | colonExpected
  | listCommaOrEndExpected
  | objectCommaOrEndExpected
  | wordExpected
  | valueExpected
  | escapeInvalid
  | numberInvalid
  | numberOutOfRange
  | codePointInvalid
  | controlInString
  | keyNotString
  | loneSurrogate
  | surrogateUnfinished
  | trailingComma
  | trailingCharacters
  | typeMismatch (found : Found) (expected : String)
  | valueMismatch (found : Found) (expected : String)
  | lengthMismatch (length : Nat) (expected : String)
  | missingField (name : String)
  | duplicateField (name : String)
  | unknownField (name : String) (known : List String)
  | unknownVariant (name : String) (known : List String)
  /-- The text of a value does not follow the grammar of its kind. -/
  | unreadable (reason : String)

/-- Alternatives as they stand in a message. -/
def alternatives : List String → String
  | [] => "there are no variants"
  | [a] => "expected `" ++ a ++ "`"
  | [a, b] => "expected `" ++ a ++ "` or `" ++ b ++ "`"
  | names => "expected one of " ++ ", ".intercalate (names.map fun a => "`" ++ a ++ "`")

def Cause.message : Cause → String
  | .endInList => "EOF while parsing a list"
  | .endInObject => "EOF while parsing an object"
  | .endInString => "EOF while parsing a string"
  | .endInValue => "EOF while parsing a value"
  | .colonExpected => "expected `:`"
  | .listCommaOrEndExpected => "expected `,` or `]`"
  | .objectCommaOrEndExpected => "expected `,` or `\x7d`"
  | .wordExpected => "expected ident"
  | .valueExpected => "expected value"
  | .escapeInvalid => "invalid escape"
  | .numberInvalid => "invalid number"
  | .numberOutOfRange => "number out of range"
  | .codePointInvalid => "invalid unicode code point"
  | .controlInString => "control character (\\u0000-\\u001F) found while parsing a string"
  | .keyNotString => "key must be a string"
  | .loneSurrogate => "lone leading surrogate in hex escape"
  | .surrogateUnfinished => "unexpected end of hex escape"
  | .trailingComma => "trailing comma"
  | .trailingCharacters => "trailing characters"
  | .typeMismatch found expected => "invalid type: " ++ found.message ++ ", expected " ++ expected
  | .valueMismatch found expected => "invalid value: " ++ found.message ++ ", expected " ++ expected
  | .lengthMismatch n expected => "invalid length " ++ toString n ++ ", expected " ++ expected
  | .missingField name => "missing field `" ++ name ++ "`"
  | .duplicateField name => "duplicate field `" ++ name ++ "`"
  | .unknownField name known => "unknown field `" ++ name ++ "`, " ++ alternatives known
  | .unknownVariant name known => "unknown variant `" ++ name ++ "`, " ++ alternatives known
  | .unreadable reason => reason

/-- A step from a value to a part of it; `unnamed` stands for a member without a readable key. -/
inductive Segment where
  | member (name : String)
  | element (index : Nat)
  | unnamed

structure Fault where
  cause : Cause
  /-- What had not been consumed. -/
  rest : Bytes
  /-- Which part of the document was being read. -/
  path : List Segment

/-- A fault at the octets already consumed. -/
def Fault.behind (cause : Cause) (s : Bytes) : Fault :=
  ⟨cause, s, []⟩

/-- A fault at the octet ahead, or at the end of the document. -/
def Fault.ahead (cause : Cause) (s : Bytes) : Fault :=
  ⟨cause, s.tail, []⟩

/-- The same fault, seen from the value that `segment` leads away from. -/
def Fault.within (segment : Segment) (f : Fault) : Fault :=
  { f with path := segment :: f.path }

/-- Lines count from one; a column counts the octets consumed on its line. -/
def position (consumed : Bytes) : Nat × Nat :=
  consumed.foldl step (1, 0)
where
  step (place : Nat × Nat) (b : UInt8) : Nat × Nat :=
    if b == 0x0A then (place.1 + 1, 0) else (place.1, place.2 + 1)

def Fault.position (document : Bytes) (f : Fault) : Nat × Nat :=
  Json.position (document.take (document.length - f.rest.length))

def Fault.message (document : Bytes) (f : Fault) : String :=
  let (line, column) := f.position document
  f.cause.message ++ " at line " ++ toString line ++ " column " ++ toString column

def Segment.text : Segment → String
  | .member name => name
  | .element i => "[" ++ toString i ++ "]"
  | .unnamed => "?"

/-- Points stand between the segments, except before an index. -/
def pathText : List Segment → String
  | [] => "."
  | first :: more => first.text ++ String.join (more.map joined)
where
  joined : Segment → String
    | .element i => (Segment.element i).text
    | segment => "." ++ segment.text

def Segment.isNamed : Segment → Bool
  | .unnamed => false
  | _ => true

/-- The message with the path in front, unless the path names nothing. -/
def Fault.locatedMessage (document : Bytes) (f : Fault) : String :=
  (if f.path.any Segment.isNamed then pathText f.path ++ ": " else "") ++ f.message document

/-- Whether the document is well formed up to the fault, which then concerns its contents. -/
def Cause.isAboutData : Cause → Bool
  | .typeMismatch .. | .valueMismatch .. | .lengthMismatch .. | .missingField _
  | .duplicateField _ | .unknownField .. | .unknownVariant .. | .unreadable _ => true
  | _ => false

abbrev Reader (α : Type) := Bytes → Except Fault (α × Bytes)

def skipBlanks (s : Bytes) : Bytes :=
  s.dropWhile Text.isBlankOctet

end AggregateGateway.Json
