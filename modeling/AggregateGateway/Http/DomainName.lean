import AggregateGateway.Http.DomainName.Composition
import AggregateGateway.Http.DomainName.Direction
import AggregateGateway.Http.DomainName.Joining
import AggregateGateway.Http.DomainName.Mapping
import AggregateGateway.Http.DomainName.Punycode

/-!
Domain names. They may be written in any script and are sent in ASCII: names that mean the same
are sent alike, and those that only look as if they did are refused.
-/

namespace AggregateGateway.Http.DomainName

open Text

/-- What a text stands for: every character unified and marks joined to their letters. -/
def unify? (cs : List Char) : Option (List Char) :=
  (cs.mapM unified?).map fun css => composed css.flatten

def encodedMark : List Char := "xn--".toList

/-- Longer labels are not encoded. -/
def longestText : Nat := 1000

/-- Longer codes are not decoded. -/
def longestCode : Nat := 2000

/-- A part of a name, as it is read and as it is sent. -/
structure Label where
  shown : List Char
  sent : List Char
  deriving DecidableEq

/-- A label of a unified name. An encoded one must stand for a text that is not plain and that is
already unified. -/
def label? (cs : List Char) : Option Label :=
  if encodedMark.isPrefixOf cs then
    let code := cs.drop encodedMark.length
    if code.isEmpty || code.getLast? == some '-' || longestCode < code.length then none
    else
      match Punycode.decode? code with
      | none => none
      | some shown => if unify? shown == some shown then some ⟨shown, cs⟩ else none
  else if cs.all Punycode.isPlain then some ⟨cs, cs⟩
  else if longestText < cs.length then none
  else some ⟨cs, encodedMark ++ Punycode.encode cs⟩

/-- A label does not begin with a mark, and its joiners have a sense. -/
def Label.isSound (l : Label) : Bool :=
  !(l.shown.head?).any isMark && joinersMakeSense [] l.shown

def Label.isFromRight (l : Label) : Bool :=
  l.shown.any fun c => (Direction.of c).isFromRight

/-- Characters that cannot stand in an address outside of a path. -/
def isForbidden (c : Char) : Bool :=
  c == '\x00' || "\t\n\x0d #/:<>?@[\\]^|".toList.contains c

/-- Names have no percent signs and control characters either. -/
def isForbiddenInName (c : Char) : Bool :=
  isForbidden c || c == '%' || c.toNat < 0x20 || c.toNat == 0x7F

/-- A name as it is sent. -/
def ascii? (cs : List Char) : Option (List Char) :=
  match unify? cs with
  | none => none
  | some unified =>
    if unified.any isForbiddenInName then none
    else
      match (parts '.' unified).mapM label? with
      | none => none
      | some labels =>
        if labels.all Label.isSound &&
            (!labels.any Label.isFromRight || labels.all (keepsDirection ·.shown)) then
          some (['.'].intercalate (labels.map Label.sent))
        else none

end AggregateGateway.Http.DomainName
