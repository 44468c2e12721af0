import AggregateGateway.Proofs.Json.Members

/-!
Lists are read back from what is written of them if their elements are. An element is followed by a
comma or by the bracket that closes the list, and it does not begin with such a bracket.
-/

namespace AggregateGateway.Json

open Text

variable {α : Type} {c : Codec α}

theorem not_bracket_of_opens {b : UInt8} (h : opensValue b = true) : b ≠ 0x5D := by
  rintro rfl
  simp [opensValue, isDigitOctet] at h

theorem stops_elements (elements : List Bytes) (s : Bytes) :
    Stops (followed elements ++ 0x5D :: s) := by
  cases elements with
  | nil => exact .inr ⟨_, _, rfl, .inr (.inl rfl)⟩
  | cons m elements => exact .comma _

theorem nextElement_first {a : α} (h : c.ReadsBack a) (s : Bytes) :
    nextElement true (c.write a ++ s) = .ok (true, c.write a ++ s) := by
  obtain ⟨b, t, hwrite, hopens⟩ := h.opens
  rw [hwrite, List.cons_append, nextElement, skipBlanks_of_opens hopens]
  simp [not_bracket_of_opens hopens]

theorem nextElement_comma {a : α} (h : c.ReadsBack a) (s : Bytes) :
    nextElement false (0x2C :: (c.write a ++ s)) = .ok (true, c.write a ++ s) := by
  obtain ⟨b, t, hwrite, hopens⟩ := h.opens
  have hcomma : skipBlanks (0x2C :: (c.write a ++ s)) = 0x2C :: (c.write a ++ s) := rfl
  rw [nextElement, hcomma, hwrite, List.cons_append]
  simp [skipBlanks_of_opens hopens, not_bracket_of_opens hopens]

theorem readElements_followed {as : List α} (h : ∀ a ∈ as, c.ReadsBack a) (s : Bytes) :
    ∀ {fuel : Bytes} (done : List α) (index : Nat), as.length ≤ fuel.length →
      readElements c.read fuel done (index + 1) (followed (as.map c.write) ++ 0x5D :: s) =
        .ok (as.reverse ++ done, 0x5D :: s) := by
  -- each element takes one unit of fuel, and the bracket that ends the list takes none
  induction as with
  | nil =>
    intro fuel done index _
    cases fuel <;> rfl
  | cons a as ih =>
    intro fuel done index hfuel
    cases fuel with
    | nil => simp at hfuel
    | cons x fuel =>
      have hmore : as.length ≤ fuel.length := by simpa using hfuel
      have hfirst : c.ReadsBack a := h a List.mem_cons_self
      have helement : followed ((a :: as).map c.write) ++ 0x5D :: s =
          0x2C :: (c.write a ++ (followed (as.map c.write) ++ 0x5D :: s)) := by
        simp [followed]
      have hread := hfirst.reads _ (stops_elements (as.map c.write) s)
      have hrest := ih (fun b hb => h b (List.mem_cons_of_mem a hb)) (a :: done) (index + 1) hmore
      have hindex : (index + 1 == 0) = false := rfl
      rw [helement, readElements.eq_def]
      simp only [hindex, nextElement_comma hfirst, hread, hrest]
      simp

theorem readElements_joined {as : List α} (h : ∀ a ∈ as, c.ReadsBack a) (s : Bytes) {fuel : Bytes}
    (hfuel : as.length ≤ fuel.length) :
    readElements c.read fuel [] 0 (joined (as.map c.write) ++ 0x5D :: s) =
      .ok (as.reverse, 0x5D :: s) := by
  cases as with
  | nil => cases fuel <;> rfl
  | cons a as =>
    cases fuel with
    | nil => simp at hfuel
    | cons x fuel =>
      have hmore : as.length ≤ fuel.length := by simpa using hfuel
      have hfirst : c.ReadsBack a := h a List.mem_cons_self
      have helement : joined ((a :: as).map c.write) ++ 0x5D :: s =
          c.write a ++ (followed (as.map c.write) ++ 0x5D :: s) := by
        simp [joined_cons]
      have hread := hfirst.reads _ (stops_elements (as.map c.write) s)
      have hindex : ((0 : Nat) == 0) = true := rfl
      rw [helement, readElements.eq_def]
      simp only [hindex, nextElement_first hfirst, hread]
      rw [readElements_followed (fun b hb => h b (List.mem_cons_of_mem a hb)) s [a] 0 hmore]
      simp

theorem list_readsBack {as : List α} (h : ∀ a ∈ as, c.ReadsBack a) : (list c).ReadsBack as where
  opens := ⟨_, _, rfl, rfl⟩
  reads s _ := by
    have hwrite : (list c).write as ++ s = 0x5B :: (joined (as.map c.write) ++ 0x5D :: s) := by
      simp [list]
    have hfuel : as.length ≤ (joined (as.map c.write) ++ 0x5D :: s).length := by
      have hlist := length_le_followed (as.map c.write)
      cases as with
      | nil => exact Nat.zero_le _
      | cons a as =>
        simp only [List.map_cons, followed, List.flatMap_cons, joined_cons, List.length_append,
          List.length_cons, List.length_map] at hlist ⊢
        omega
    have helements := readElements_joined h s hfuel
    have hopen : skipBlanks (0x5B :: (joined (as.map c.write) ++ 0x5D :: s)) =
        0x5B :: (joined (as.map c.write) ++ 0x5D :: s) := rfl
    have hclose : closeList (0x5D :: s) = .ok s := rfl
    rw [hwrite]
    simp only [list, hopen, helements, hclose, Except.map, List.reverse_reverse]

end AggregateGateway.Json
