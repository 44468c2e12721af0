import AggregateGateway.Json.Codec

/-!
Records: named fields in a fixed order. A record is written as an object and read from an object
with its fields in any order, or from a list of their values. Unknown members are passed over,
a field may not be given twice, and a field with a default may be absent.
-/

namespace AggregateGateway.Json

open Text

/-- The fields of a record whose values have the types in `σ`, a product that ends in `Unit`.
`absent` is the default of a field that need not be given; `isShown` tells whether a value is
written. -/
inductive Fields : Type → Type 1 where
  | nil : Fields Unit
  | cons {α β : Type} (name : String) (codec : Codec α) (absent : Option α) (isShown : α → Bool)
      (rest : Fields β) : Fields (α × β)

namespace Fields

def required {α β : Type} (name : String) (codec : Codec α) (rest : Fields β) : Fields (α × β) :=
  .cons name codec none (fun _ => true) rest

def defaulted {α β : Type} (name : String) (codec : Codec α) (absent : α) (rest : Fields β) :
    Fields (α × β) :=
  .cons name codec (some absent) (fun _ => true) rest

/-- A field that is written only if it has a value. -/
def optional {α β : Type} (name : String) (codec : Codec α) (rest : Fields β) :
    Fields (Option α × β) :=
  .cons name (nullable codec) (some none) Option.isSome rest

def names {σ : Type} : Fields σ → List String
  | .nil => []
  | .cons name _ _ _ rest => name :: rest.names

/-- The values met so far. -/
def Draft : {σ : Type} → Fields σ → Type
  | _, .nil => Unit
  | _, @Fields.cons α _ _ _ _ _ rest => Option α × rest.Draft

def blank : {σ : Type} → (fs : Fields σ) → fs.Draft
  | _, .nil => ()
  | _, .cons _ _ _ _ rest => (none, rest.blank)

/-- The values of all fields, or the first field that is missing. -/
def complete : {σ : Type} → (fs : Fields σ) → fs.Draft → Except Cause σ
  | _, .nil, _ => .ok ()
  | _, @Fields.cons α _ name _ absent _ rest, draft =>
    let (a?, draft) : Option α × rest.Draft := draft
    match a?.or absent with
    | none => .error (.missingField name)
    | some a => (rest.complete draft).map (a, ·)

end Fields

/-- A fault inside a record. One about the record as a whole gets its place only where the record
ends or the reading of it stops. -/
inductive Slip where
  | placed (f : Fault)
  | floating (cause : Cause) (rest : Bytes)

def placed {α : Type} (r : Except Fault α) : Except Slip α :=
  r.mapError Slip.placed

/-- A value after its colon. Where the colon is missing the fault is one of the whole record. -/
def readMember {α : Type} (name : String) (read : Reader α) (s : Bytes) :
    Except Slip (α × Bytes) :=
  placed ((readColon s).bind fun s => (read s).mapError (Fault.within (.member name)))

/-- Reads the value of the field `key` into the draft; `none` if there is no such field. -/
def Fields.readField : {σ : Type} → (fs : Fields σ) → String → fs.Draft → Bytes →
    Option (Except Slip (fs.Draft × Bytes))
  | _, .nil, _, _, _ => none
  | _, @Fields.cons α _ name codec _ _ rest, key, draft, s =>
    let (a?, draft) : Option α × rest.Draft := draft
    if key == name then
      match a? with
      | some _ => some (.error (.floating (.duplicateField name) s))
      | none => some ((readMember name codec.read s).map fun (a, s) => ((some a, draft), s))
    else
      (rest.readField key draft s).map fun r => r.map fun (draft, s) => ((a?, draft), s)

/-- The key of the next member, if there is one. -/
def nextKey (first : Bool) (s : Bytes) : Except Fault (Option String × Bytes) :=
  match skipBlanks s with
  | [] => .error (.ahead .endInObject [])
  | b :: rest =>
    if b == 0x7D then .ok (none, b :: rest)
    else if first then
      if b == 0x22 then key rest else .error (.ahead .keyNotString (b :: rest))
    else if b == 0x2C then
      match skipBlanks rest with
      | [] => .error (.ahead .endInValue [])
      | c :: rest =>
        if c == 0x22 then key rest
        else if c == 0x7D then .error (.ahead .trailingComma (c :: rest))
        else .error (.ahead .keyNotString (c :: rest))
    else .error (.ahead .objectCommaOrEndExpected (b :: rest))
where
  key (s : Bytes) : Except Fault (Option String × Bytes) :=
    (readString s).map fun (text, s) => (some text, s)

/-- How a record is named in messages and whether it admits unknown members. -/
structure Layout where
  name : String
  /-- What a list that is too short should have been. -/
  expectedList : String
  admitsUnknown : Bool

def Layout.expected (layout : Layout) : String :=
  "struct " ++ layout.name

def Layout.ofFields {σ : Type} (name : String) (fs : Fields σ) : Layout where
  name := name
  expectedList :=
    let n := fs.names.length
    "struct " ++ name ++ " with " ++ toString n ++ (if n == 1 then " element" else " elements")
  admitsUnknown := true

def readMembers {σ : Type} (layout : Layout) (fs : Fields σ) (fuel : Bytes) (first : Bool)
    (draft : fs.Draft) (s : Bytes) : Except Slip (fs.Draft × Bytes) :=
  match fuel, nextKey first s with
  | _, .error f => .error (.placed (f.within .unnamed))
  | _, .ok (none, s) => .ok (draft, s)
  | [], .ok (some _, s) => .ok (draft, s)
  | _ :: fuel, .ok (some key, s) =>
    match fs.readField key draft s with
    | some (.error e) => .error e
    | some (.ok (draft, s)) => readMembers layout fs fuel false draft s
    | none =>
      if layout.admitsUnknown then
        match readMember key (fun s => (skipValue s).map ((), ·)) s with
        | .error e => .error e
        | .ok ((), s) => readMembers layout fs fuel false draft s
      else .error (.floating (.unknownField key fs.names) s)

/-- The values of a list, in the order of the fields. -/
def Fields.readList (expected : String) : {σ : Type} → Fields σ → Nat → Bytes →
    Except Slip (σ × Bytes)
  | _, .nil, _, s => .ok ((), s)
  | _, .cons _ codec absent _ rest, index, s =>
    match nextElement (index == 0) s with
    | .error f => .error (.placed f)
    | .ok (false, s) =>
      match absent with
      | none => .error (.floating (.lengthMismatch index expected) s)
      | some a => (rest.readList expected (index + 1) s).map fun (b, s) => ((a, b), s)
    | .ok (true, s) =>
      match codec.read s with
      | .error f => .error (.placed (f.within (.element index)))
      | .ok (a, s) => (rest.readList expected (index + 1) s).map fun (b, s) => ((a, b), s)

/-- The end of an object. -/
def closeObject (s : Bytes) : Except Fault Bytes :=
  match skipBlanks s with
  | [] => .error (.ahead .endInObject [])
  | b :: rest =>
    if b == 0x7D then .ok rest
    else if b == 0x2C then .error (.ahead .trailingComma (b :: rest))
    else .error (.ahead .trailingCharacters (b :: rest))

/-- What a floating fault leaves unread: the attempt to end the record passes its bracket, and in
a list a comma with the blanks after it. -/
def Bracket.passedEnd (bracket : Bracket) (s : Bytes) : Bytes :=
  match bracket, skipBlanks s with
  | _, [] => []
  | .list, 0x2C :: rest => skipBlanks rest
  | bracket, b :: rest => if b == bracket.closing then rest else b :: rest

def Slip.settle (bracket : Bracket) : Slip → Fault
  | .placed f => f
  | .floating cause s => .behind cause (bracket.passedEnd s)

def readRecord {σ α : Type} (layout : Layout) (fs : Fields σ) (make : σ → Except Cause α) :
    Reader α := fun s =>
  match skipBlanks s with
  | 0x5B :: s =>
    match fs.readList layout.expectedList 0 s with
    | .error e => .error (e.settle .list)
    | .ok (values, s) => finish (make values) closeList .list s
  | 0x7B :: s =>
    match readMembers layout fs s true fs.blank s with
    | .error e => .error (e.settle .object)
    | .ok (draft, s) => finish ((fs.complete draft).bind make) closeObject .object s
  | s => .error (mismatch layout.expected s)
where
  finish (made : Except Cause α) (close : Bytes → Except Fault Bytes) (bracket : Bracket)
      (s : Bytes) : Except Fault (α × Bytes) :=
    match made with
    | .error cause => .error ((Slip.floating cause s).settle bracket)
    | .ok a => (close s).map (a, ·)

def Fields.writeMembers : {σ : Type} → Fields σ → σ → List Bytes
  | _, .nil, _ => []
  | _, .cons name codec _ isShown rest, (a, b) =>
    if isShown a then
      (writeString name ++ 0x3A :: codec.write a) :: rest.writeMembers b
    else rest.writeMembers b

def writeRecord {σ : Type} (fs : Fields σ) (values : σ) : Bytes :=
  0x7B :: joined (fs.writeMembers values) ++ [0x7D]

/-- A record whose values may break a rule of the whole. -/
def checkedRecord {σ α : Type} (layout : Layout) (fs : Fields σ) (make : σ → Except Cause α)
    (parts : α → σ) : Codec α where
  read := readRecord layout fs make
  write a := writeRecord fs (parts a)

def record {σ α : Type} (name : String) (fs : Fields σ) (make : σ → α) (parts : α → σ) :
    Codec α :=
  checkedRecord (.ofFields name fs) fs (fun values => .ok (make values)) parts

end AggregateGateway.Json
