import AggregateGateway.Time.Calendar

/-!
Clocks that are looked at again and again. Of several things that are stamped with a clock, each one
gets the time of its own look.
-/

namespace AggregateGateway.Time

/-- A clock, known by what it shows at each look. It may stand still and even go back. -/
structure Clock where
  look : Nat → Instant

namespace Clock

/-- A clock that always shows the same time. -/
def still (t : Instant) : Clock := ⟨fun _ => t⟩

instance : Coe Instant Clock := ⟨still⟩

variable {α : Type} (clock : Clock) (drafts : List (Instant → α))

/-- Stamps one draft after the other, with one look for each. -/
def stamp : List α :=
  drafts.mapIdx fun n draft => draft (clock.look n)

@[simp] theorem length_stamp : (clock.stamp drafts).length = drafts.length :=
  List.length_mapIdx

theorem getElem?_stamp (n : Nat) :
    (clock.stamp drafts)[n]? = drafts[n]?.map fun draft => draft (clock.look n) :=
  List.getElem?_mapIdx

theorem exists_of_mem_stamp {x : α} (h : x ∈ clock.stamp drafts) :
    ∃ draft ∈ drafts, ∃ t, x = draft t := by
  obtain ⟨n, hn, rfl⟩ := List.mem_mapIdx.mp h
  exact ⟨drafts[n], List.getElem_mem hn, clock.look n, rfl⟩

end Clock

end AggregateGateway.Time
