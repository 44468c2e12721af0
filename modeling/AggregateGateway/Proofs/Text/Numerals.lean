import AggregateGateway.Text.Blank
import AggregateGateway.Text.Numeral
import Mathlib.Data.List.TakeWhile

/-! Which texts are numerals. A bound is looked at after each digit, but as a number only grows by
further digits it is the whole number that counts. -/

namespace AggregateGateway.Text

/-- The number that digits spell behind those of `n`. -/
def continued (n : Nat) (ds : List Char) : Nat :=
  ds.foldl (fun n d => 10 * n + (d.toNat - 0x30)) n

/-- A numeral of `n`: at least one decimal digit, perhaps behind a plus. -/
def Spells (cs : List Char) (n : Nat) : Prop :=
  ∃ ds, (cs = ds ∨ cs = '+' :: ds) ∧ ds ≠ [] ∧ (∀ d ∈ ds, d.isDigit = true) ∧ continued 0 ds = n

theorem le_continued (n : Nat) (ds : List Char) : n ≤ continued n ds := by
  induction ds generalizing n with
  | nil => exact Nat.le_refl n
  | cons d ds ih =>
    have hrest := ih (10 * n + (d.toNat - 0x30))
    simp only [continued, List.foldl_cons] at hrest ⊢
    omega

theorem continueNumeral_eq_ok_iff {limit n m : Nat} {ds : List Char} (hn : n ≤ limit) :
    continueNumeral limit n ds = .ok m ↔
      (∀ d ∈ ds, d.isDigit = true) ∧ continued n ds = m ∧ m ≤ limit := by
  induction ds generalizing n with
  | nil =>
    simp only [continueNumeral, continued, Except.ok.injEq, List.foldl_nil, List.not_mem_nil,
      false_implies, implies_true, true_and]
    exact ⟨fun h => ⟨h, h ▸ hn⟩, And.left⟩
  | cons d ds ih =>
    cases hd : d.isDigit with
    | false => simp [continueNumeral, hd]
    | true =>
      have hcontinued : continued n (d :: ds) = continued (10 * n + (d.toNat - 0x30)) ds := rfl
      by_cases hlimit : 10 * n + (d.toNat - 0x30) ≤ limit
      · simp [continueNumeral, hd, hlimit, ih hlimit, hcontinued]
      · have hgrown := le_continued (10 * n + (d.toNat - 0x30)) ds
        simp only [continueNumeral, hd, hlimit, Bool.not_true, Bool.false_eq_true, if_false,
          hcontinued, reduceCtorEq, false_iff]
        omega

theorem readUnsigned_eq_ok_iff {limit n : Nat} {cs : List Char} :
    readUnsigned limit cs = .ok n ↔ Spells cs n ∧ n ≤ limit := by
  have hdigits {ds : List Char} : continueNumeral limit 0 ds = .ok n ↔
      (∀ d ∈ ds, d.isDigit = true) ∧ continued 0 ds = n ∧ n ≤ limit :=
    continueNumeral_eq_ok_iff (Nat.zero_le limit)
  constructor
  · intro h
    simp only [readUnsigned] at h
    split at h
    · cases h
    · cases h
    · next ds hne =>
      obtain ⟨hds, hn, hlimit⟩ := hdigits.mp h
      exact ⟨⟨ds, .inr rfl, fun hnil => hne (by rw [hnil]), hds, hn⟩, hlimit⟩
    · next hne _ _ =>
      obtain ⟨hds, hn, hlimit⟩ := hdigits.mp h
      exact ⟨⟨cs, .inl rfl, hne, hds, hn⟩, hlimit⟩
  · rintro ⟨⟨ds, hcs, hne, hds, hn⟩, hlimit⟩
    have hread := hdigits.mpr ⟨hds, hn, hlimit⟩
    obtain ⟨d, rest, rfl⟩ := List.exists_cons_of_ne_nil hne
    rcases hcs with rfl | rfl
    · -- a plus is no digit
      have hplus : d ≠ '+' := by
        rintro rfl
        exact absurd (hds '+' (by simp)) (by decide)
      simp only [readUnsigned]
      split
      · next h => cases h
      · next h => exact absurd (List.cons.inj h).1 hplus
      · next h => exact absurd (List.cons.inj h).1 hplus
      · exact hread
    · exact hread

theorem unsigned?_eq_some_iff {limit n : Nat} {cs : List Char} :
    unsigned? limit cs = some n ↔ Spells cs n ∧ n ≤ limit := by
  rw [← readUnsigned_eq_ok_iff, unsigned?]
  cases readUnsigned limit cs with
  | error f => simp [Except.toOption]
  | ok m => simp [Except.toOption]

theorem spells_toDigits (n : Nat) : Spells (Nat.toDigits 10 n) n := by
  refine ⟨_, .inl rfl, Nat.toDigits_ne_nil, fun d hd => ?_, Nat.ofDigitChars_ten_toDigits⟩
  exact Nat.isDigit_of_mem_toDigits (by decide) (by decide) hd

theorem unsigned?_toDigits {limit n : Nat} (h : n ≤ limit) :
    unsigned? limit (Nat.toDigits 10 n) = some n :=
  unsigned?_eq_some_iff.mpr ⟨spells_toDigits n, h⟩

/-- An integer in decimal notation is read back. -/
theorem signed?_toString {limit : Nat} {i : Int} (hlow : -(limit + 1) ≤ i) (hhigh : i ≤ limit) :
    signed? limit (toString i).toList = some i := by
  have hsign {n : Nat} {c : Char} {cs : List Char} (hc : c.isDigit = false) :
      Nat.toDigits 10 n ≠ c :: cs := by
    intro h
    have hdigit : c.isDigit = true :=
      Nat.isDigit_of_mem_toDigits (by decide) (by decide) (h ▸ List.mem_cons_self)
    exact absurd (hdigit.symm.trans hc) (by decide)
  cases i with
  | ofNat n =>
    have htext : (toString (Int.ofNat n)).toList = Nat.toDigits 10 n := String.toList_ofList
    rw [htext, signed?, unsigned?_toDigits (Int.ofNat_le.mp hhigh)]
    · rfl
    · exact fun _ => hsign (by decide)
    · exact fun _ => hsign (by decide)
  | negSucc n =>
    have htext : (toString (Int.negSucc n)).toList = '-' :: Nat.toDigits 10 (n + 1) := by
      change ("-" ++ Nat.repr (n + 1)).toList = _
      rw [String.toList_append, Nat.repr]
      exact congrArg ('-' :: ·) String.toList_ofList
    rw [htext, signed?, unsigned?_toDigits (by omega)]
    · rfl
    · exact fun _ => hsign (by decide)
theorem not_isBlankText_of_spells {s : String} {n : Nat} (h : Spells (trim s.toList) n) :
    isBlankText s = false := by
  obtain ⟨ds, hcs, hne, -⟩ := h
  rw [Bool.eq_false_iff]
  intro hblank
  have hnil : s.toList.dropWhile isBlank = [] :=
    List.dropWhile_eq_nil_iff.mpr (List.all_eq_true.mp hblank)
  rw [trim, trimStart, hnil] at hcs
  rcases hcs with hcs | hcs
  · exact hne hcs.symm
  · cases hcs

end AggregateGateway.Text
