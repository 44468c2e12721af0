import AggregateGateway.Text.Bytes

/-!
UTF-8 one character at a time: where a sequence stops being valid, and the reading that
replaces every maximal broken part by U+FFFD.
-/

namespace AggregateGateway.Text

def isTail (b : UInt8) : Bool :=
  0x80 ≤ b && b ≤ 0xBF

/-- Bounds of the octet after `lead`, and how many further octets follow that one. -/
def tailBounds? (lead : UInt8) : Option (UInt8 × UInt8 × Nat) :=
  if 0xC2 ≤ lead && lead ≤ 0xDF then some (0x80, 0xBF, 0)
  else if lead == 0xE0 then some (0xA0, 0xBF, 1)
  else if lead == 0xED then some (0x80, 0x9F, 1)
  else if 0xE1 ≤ lead && lead ≤ 0xEF then some (0x80, 0xBF, 1)
  else if lead == 0xF0 then some (0x90, 0xBF, 2)
  else if 0xF1 ≤ lead && lead ≤ 0xF3 then some (0x80, 0xBF, 2)
  else if lead == 0xF4 then some (0x80, 0x8F, 2)
  else none

/-- The number of octets at the front that belong to one character or to one broken part, and
whether they are a whole character. -/
def unit (lead : UInt8) (rest : Bytes) : Nat × Bool :=
  if lead < 0x80 then (1, true)
  else match tailBounds? lead, rest with
    | none, _ => (1, false)
    | some _, [] => (1, false)
    | some (low, high, more), b :: rest =>
      if low ≤ b && b ≤ high then
        let tails := ((rest.take more).takeWhile isTail).length
        (2 + tails, tails == more)
      else (1, false)

/-- What is left from the first octet that starts no valid character; empty when all is valid. -/
def invalidPart (b : Bytes) : Bytes :=
  match b with
  | [] => []
  | lead :: rest =>
    match unit lead rest with
    | (_, false) => b
    | (n, true) => invalidPart (rest.drop (n - 1))
termination_by b.length
decreasing_by simp only [List.length_drop, List.length_cons]; omega

/-- The text, with U+FFFD for every maximal part that cannot be continued to a character. -/
def lossyText (b : Bytes) : String :=
  go b []
where
  go (b : Bytes) (done : List Bytes) : String :=
    match b with
    | [] => (text? done.reverse.flatten).getD ""
    | lead :: rest =>
      match unit lead rest with
      | (n, true) => go (rest.drop (n - 1)) ((lead :: rest.take (n - 1)) :: done)
      | (n, false) => go (rest.drop (n - 1)) ([0xEF, 0xBF, 0xBD] :: done)
  termination_by b.length
  decreasing_by all_goals (simp only [List.length_drop, List.length_cons]; omega)

end AggregateGateway.Text
