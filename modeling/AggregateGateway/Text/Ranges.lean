/-!
Tables of code points: rows in ascending order, each of which holds for a range.
-/

namespace AggregateGateway.Text

/-- The row whose range contains `x`, found by halving; `bounds` gives the ends of a range. -/
def findRange? {α : Type} (bounds : α → Nat × Nat) (table : Array α) (x : Nat) : Option α :=
  search 0 table.size (table.size + 1)
where
  search (low high : Nat) : Nat → Option α
    | 0 => none
    | n + 1 =>
      if low < high then
        let middle := (low + high) / 2
        match table[middle]? with
        | none => none
        | some row =>
          let (first, last) := bounds row
          if x < first then search low middle n
          else if last < x then search (middle + 1) high n
          else some row
      else none

def inRanges (table : Array (Nat × Nat)) (x : Nat) : Bool :=
  (findRange? id table x).isSome

end AggregateGateway.Text
