import AggregateGateway.Text.Utf8

/-! Octets that are text. The reading that replaces broken parts leaves text as it is, because it
finds the characters one after the other at the places where they were written. -/

namespace AggregateGateway.Text

theorem utf8_append (s t : String) : utf8 (s ++ t) = utf8 s ++ utf8 t := by
  simp [utf8, String.toByteArray_append]

theorem utf8_eq_flatMap (s : String) : utf8 s = s.toList.flatMap String.utf8EncodeChar := by
  have h : (String.ofList s.toList).toByteArray = s.toList.utf8Encode := String.toByteArray_ofList
  rw [String.ofList_toList] at h
  simp [utf8, h, List.utf8Encode]

/-! ### Octets of one character -/

theorem tailBounds?_two : ∀ n < 0xE0, 0xC2 ≤ n →
    tailBounds? (UInt8.ofNat n) = some (UInt8.ofNat 0x80, UInt8.ofNat 0xBF, 0) := by
  decide +kernel

theorem tailBounds?_three : ∀ n < 0xF0, 0xE0 ≤ n → tailBounds? (UInt8.ofNat n) =
    some (UInt8.ofNat (if n = 0xE0 then 0xA0 else 0x80),
      UInt8.ofNat (if n = 0xED then 0x9F else 0xBF), 1) := by
  decide +kernel

theorem tailBounds?_four : ∀ n < 0xF5, 0xF0 ≤ n → tailBounds? (UInt8.ofNat n) =
    some (UInt8.ofNat (if n = 0xF0 then 0x90 else 0x80),
      UInt8.ofNat (if n = 0xF4 then 0x8F else 0xBF), 2) := by
  decide +kernel

theorem isTail_low (n : Nat) : isTail (UInt8.ofNat (n % 64 + 128)) = true := by
  have h : ∀ m < 64, isTail (UInt8.ofNat (m + 128)) = true := by decide
  exact h _ (Nat.mod_lt n (by decide))

theorem ofNat_le_ofNat {m n : Nat} (hm : m < 256) (hn : n < 256) :
    UInt8.ofNat m ≤ UInt8.ofNat n ↔ m ≤ n := by
  rw [UInt8.le_iff_toNat_le, UInt8.toNat_ofNat', UInt8.toNat_ofNat', Nat.mod_eq_of_lt hm,
    Nat.mod_eq_of_lt hn]

theorem ofNat_lt_low_iff {n : Nat} (hn : n < 256) : UInt8.ofNat n < 0x80 ↔ n < 0x80 := by
  rw [← UInt8.not_le, ← Nat.not_le]
  exact not_congr (ofNat_le_ofNat (m := 0x80) (by decide) hn)

theorem unit_of_tails {n b low high : Nat} {tails : Bytes} (hn : 0x80 ≤ n ∧ n < 0x100)
    (hbounds : tailBounds? (UInt8.ofNat n) = some (UInt8.ofNat low, UInt8.ofNat high, tails.length))
    (hb : low ≤ b ∧ b ≤ high ∧ high < 0x100) (htails : ∀ t ∈ tails, isTail t = true)
    (rest : Bytes) :
    unit (UInt8.ofNat n) (UInt8.ofNat b :: tails ++ rest) = (tails.length + 1 + 1, true) := by
  have hlead : ¬ UInt8.ofNat n < 0x80 := mt (ofNat_lt_low_iff hn.2).mp (Nat.not_lt.mpr hn.1)
  have hlow := (ofNat_le_ofNat (m := low) (n := b) (by omega) (by omega)).mpr hb.1
  have hhigh := (ofNat_le_ofNat (m := b) (n := high) (by omega) hb.2.2).mpr hb.2.1
  have hwhile : (tails ++ []).takeWhile isTail = tails ++ [].takeWhile isTail :=
    List.takeWhile_append_of_pos htails
  simp only [List.append_nil, List.takeWhile_nil] at hwhile
  simp only [unit, hlead, hbounds, hlow, hhigh, hwhile, List.cons_append, List.take_left,
    decide_true, Bool.and_self, if_true, if_false, beq_self_eq_true, Prod.mk.injEq, and_true]
  omega

/-- The octets of a character are found again, whatever follows them. -/
theorem unit_encoded (c : Char) : ∃ lead tails, String.utf8EncodeChar c = lead :: tails ∧
    ∀ rest, unit lead (tails ++ rest) = (tails.length + 1, true) := by
  have hvalid : c.val.toNat < 0xD800 ∨ 0xDFFF < c.val.toNat ∧ c.val.toNat < 0x110000 := c.valid
  simp only [String.utf8EncodeChar]
  generalize c.val.toNat = v at hvalid
  split
  · next h1 =>
    refine ⟨_, [], rfl, fun rest => ?_⟩
    have hlead : UInt8.ofNat v < 0x80 := (ofNat_lt_low_iff (by omega)).mpr (Nat.lt_succ_of_le h1)
    simp [unit, hlead]
  · split
    · next h1 h2 =>
      have hbounds := tailBounds?_two (v / 64 % 32 + 192) (by omega) (by omega)
      exact ⟨_, [_], rfl, unit_of_tails (by omega) hbounds (by omega) (List.forall_mem_nil _)⟩
    · split
      · next h1 h2 h3 =>
        have hbounds := tailBounds?_three (v / 4096 % 16 + 224) (by omega) (by omega)
        refine ⟨_, [_, _], rfl, unit_of_tails (by omega) hbounds ?_
          (List.forall_mem_singleton.mpr (isTail_low v))⟩
        split <;> split <;> omega
      · next h1 h2 h3 =>
        have hbounds := tailBounds?_four (v / 262144 % 8 + 240) (by omega) (by omega)
        refine ⟨_, [_, _, _], rfl, unit_of_tails (by omega) hbounds ?_
          (List.forall_mem_cons.mpr ⟨isTail_low (v / 64),
            List.forall_mem_singleton.mpr (isTail_low v)⟩)⟩
        split <;> split <;> omega

/-! ### The lenient reading -/

theorem go_encoded (cs : List Char) (done : List Bytes) :
    lossyText.go (cs.flatMap String.utf8EncodeChar) done =
      (text? (done.reverse.flatten ++ cs.flatMap String.utf8EncodeChar)).getD "" := by
  induction cs generalizing done with
  | nil => simp [lossyText.go]
  | cons c cs ih =>
    obtain ⟨lead, tails, hc, hunit⟩ := unit_encoded c
    have hunit := hunit (cs.flatMap String.utf8EncodeChar)
    rw [List.flatMap_cons, hc, List.cons_append, lossyText.go]
    simp only [hunit, Nat.add_sub_cancel, List.drop_left, List.take_left, ih]
    simp

theorem lossyText_utf8 (s : String) : lossyText (utf8 s) = s := by
  have h := go_encoded s.toList []
  rw [← utf8_eq_flatMap] at h
  rw [lossyText, h]
  simp [text?_utf8]

end AggregateGateway.Text
