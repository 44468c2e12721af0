import AggregateGateway.Text.Bytes

/-!
Universally unique identifiers. They are written as 32 lower-case hexadecimal digits in five groups
and read in any of four spellings; the written form is read back (`read?_text`).
-/

namespace AggregateGateway.Http

structure Uuid where
  digits : List (Fin 16)
  length_digits : digits.length = 32
  deriving DecidableEq

namespace Uuid

/-- How many digits each group has. -/
def groups : List Nat := [8, 4, 4, 4, 12]

def digit (d : Fin 16) : Char :=
  Nat.digitChar d

def digit? (c : Char) : Option (Fin 16) :=
  if c.toNat < 128 then
    match Text.hexValue? (Text.octet c) with
    | some n => if h : n < 16 then some ⟨n, h⟩ else none
    | none => none
  else none

/-- Digits in groups, hyphens between the groups. -/
def writeGroups : List Nat → List (Fin 16) → List Char
  | n :: m :: ns, ds => (ds.take n).map digit ++ '-' :: writeGroups (m :: ns) (ds.drop n)
  | _, ds => ds.map digit

def readGroups : List Nat → List Char → Option (List (Fin 16))
  | n :: m :: ns, cs =>
    match cs.drop n with
    | '-' :: rest =>
      match (cs.take n).mapM digit?, readGroups (m :: ns) rest with
      | some ds, some es => some (ds ++ es)
      | _, _ => none
    | _ => none
  | _, cs => cs.mapM digit?

def ofDigits? (ds : List (Fin 16)) : Option Uuid :=
  if h : ds.length = 32 then some ⟨ds, h⟩ else none

def text (u : Uuid) : String :=
  String.ofList (writeGroups groups u.digits)

def urnStart : List Char := "urn:uuid:".toList

/-- What is left of an identifier with hyphens when braces or the start of a name, in any case,
are taken off. -/
def bare (cs : List Char) : List Char :=
  match cs with
  | '{' :: rest => if rest.getLast? = some '}' then rest.dropLast else cs
  | cs =>
    if (cs.take urnStart.length).map Char.toLower = urnStart then cs.drop urnStart.length else cs

/-- Reads 32 digits without anything between them, or grouped by hyphens and then perhaps in
braces or behind `urn:uuid:`. -/
def read? (s : String) : Option Uuid :=
  let cs := s.toList
  if cs.length = 32 then (cs.mapM digit?).bind ofDigits?
  else (readGroups groups (bare cs)).bind ofDigits?

theorem digit?_digit (d : Fin 16) : digit? (digit d) = some d := by
  revert d
  decide

theorem mapM_digit?_map_digit (ds : List (Fin 16)) : (ds.map digit).mapM digit? = some ds := by
  induction ds with
  | nil => rfl
  | cons d ds ih => simp [List.mapM_cons, digit?_digit, ih]

theorem readGroups_writeGroups (ns : List Nat) (ds : List (Fin 16)) (h : ns.foldr (· + ·) 0 = ds.length) :
    readGroups ns (writeGroups ns ds) = some ds := by
  induction ns generalizing ds with
  | nil => exact mapM_digit?_map_digit ds
  | cons n ns ih =>
    cases ns with
    | nil => exact mapM_digit?_map_digit ds
    | cons m ns =>
      have hn : n ≤ ds.length := by simp only [List.foldr_cons] at h; omega
      have ht : ((ds.take n).map digit).length = n := by simp [hn]
      have hrest : (m :: ns).foldr (· + ·) 0 = (ds.drop n).length := by
        simp only [List.foldr_cons, List.length_drop] at h ⊢
        omega
      simp only [writeGroups, readGroups]
      rw [List.drop_left' ht, List.take_left' ht, mapM_digit?_map_digit]
      simp only [ih _ hrest, List.take_append_drop]

theorem length_writeGroups (ns : List Nat) (ds : List (Fin 16)) (h : ns.foldr (· + ·) 0 = ds.length) :
    (writeGroups ns ds).length = ds.length + (ns.length - 1) := by
  induction ns generalizing ds with
  | nil => simp [writeGroups]
  | cons n ns ih =>
    cases ns with
    | nil => simp [writeGroups]
    | cons m ns =>
      have hrest : (m :: ns).foldr (· + ·) 0 = (ds.drop n).length := by
        simp only [List.foldr_cons, List.length_drop] at h ⊢
        omega
      simp only [List.foldr_cons] at h
      simp only [writeGroups, List.length_append, List.length_map, List.length_take,
        List.length_cons, ih _ hrest, List.length_drop]
      omega

theorem bare_of_digit (d : Fin 16) (cs : List Char) : bare (digit d :: cs) = digit d :: cs := by
  have hbrace : digit d ≠ '{' := by revert d; decide
  have hurn : (digit d).toLower ≠ 'u' := by revert d; decide
  unfold bare
  split
  · next h => exact absurd (List.cons.inj h).1 hbrace
  · split
    · next h =>
      have h := congrArg List.head? h
      exact absurd (Option.some.inj h) hurn
    · rfl

theorem read?_text (u : Uuid) : read? u.text = some u := by
  obtain ⟨ds, hlen⟩ := u
  have hsum : groups.foldr (· + ·) 0 = ds.length := by rw [hlen]; rfl
  have hlength := length_writeGroups groups ds hsum
  have hbare : bare (writeGroups groups ds) = writeGroups groups ds := by
    cases ds with
    | nil => simp at hlen
    | cons d ds => exact bare_of_digit d _
  rw [hlen] at hlength
  have h36 : (writeGroups groups ds).length ≠ 32 := by rw [hlength]; decide
  simp only [read?, text, String.toList_ofList, h36, if_false, hbare,
    readGroups_writeGroups groups ds hsum]
  simp [ofDigits?, hlen]

end Uuid

end AggregateGateway.Http
