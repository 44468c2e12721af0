import AggregateGateway.Json.Record
import AggregateGateway.Proofs.Text.Utf8

/-! What is written of a record is text if its values are. Octets of a character beyond ASCII are
never escaped, so no character is torn apart. -/

namespace AggregateGateway

namespace Text

def IsText (b : Bytes) : Prop :=
  ∃ s, utf8 s = b

theorem utf8_lossyText {b : Bytes} (h : IsText b) : utf8 (lossyText b) = b := by
  obtain ⟨s, rfl⟩ := h
  rw [lossyText_utf8]

theorem isText_nil : IsText [] := ⟨"", rfl⟩

theorem IsText.append {a b : Bytes} (ha : IsText a) (hb : IsText b) : IsText (a ++ b) := by
  obtain ⟨s, rfl⟩ := ha
  obtain ⟨t, rfl⟩ := hb
  exact ⟨s ++ t, utf8_append s t⟩

theorem IsText.flatMap {α : Type} {f : α → Bytes} {as : List α} (h : ∀ a ∈ as, IsText (f a)) :
    IsText (as.flatMap f) := by
  induction as with
  | nil => exact isText_nil
  | cons a as ih =>
    rw [List.flatMap_cons]
    exact (h a List.mem_cons_self).append (ih fun b hb => h b (List.mem_cons_of_mem a hb))

theorem isText_encoded (c : Char) : IsText (String.utf8EncodeChar c) :=
  ⟨String.singleton c, by simp [utf8_eq_flatMap]⟩

theorem octet_of_lt {P : UInt8 → Prop} {m : Nat} (h : ∀ n < m, P (UInt8.ofNat n)) :
    ∀ b : UInt8, b.toNat < m → P b := by
  intro b hb
  have hp := h b.toNat hb
  rwa [UInt8.ofNat_toNat] at hp

theorem isText_low {b : UInt8} (h : b < 0x80) : IsText [b] := by
  have hencoded : ∀ b : UInt8, b.toNat < 0x80 →
      String.utf8EncodeChar (Char.ofNat b.toNat) = [b] :=
    octet_of_lt (by decide +kernel)
  rw [← hencoded b (UInt8.lt_iff_toNat_lt.mp h)]
  exact isText_encoded _

theorem isText_cons {b : UInt8} {s : Bytes} (hb : b < 0x80) (hs : IsText s) : IsText (b :: s) :=
  (isText_low hb).append hs

theorem encoded_low_or_high (c : Char) :
    (∃ b < 0x80, String.utf8EncodeChar c = [b]) ∨ ∀ b ∈ String.utf8EncodeChar c, 0x80 ≤ b := by
  have hhigh {n : Nat} (hn : 0x80 ≤ n ∧ n < 256) : 0x80 ≤ UInt8.ofNat n :=
    UInt8.not_lt.mp (mt (ofNat_lt_low_iff hn.2).mp (Nat.not_lt.mpr hn.1))
  simp only [String.utf8EncodeChar]
  generalize c.val.toNat = v
  split
  · next h1 =>
    exact .inl ⟨_, (ofNat_lt_low_iff (by omega)).mpr (Nat.lt_succ_of_le h1), rfl⟩
  · refine .inr ?_
    -- two, three or four octets, none of which lies below the mark of a later one
    repeat' split
    all_goals
      simp only [List.forall_mem_cons, List.not_mem_nil, false_implies, implies_true, and_true]
      and_intros <;> exact hhigh (by omega)

end Text

namespace Json

open Text

theorem escape_low {b : UInt8} (h : b < 0x80) : ∀ e ∈ escape b, e < 0x80 := by
  have hlow : ∀ b : UInt8, b.toNat < 0x80 → ∀ e ∈ escape b, e < 0x80 :=
    octet_of_lt (by decide +kernel)
  exact hlow b (UInt8.lt_iff_toNat_lt.mp h)

theorem escape_high {b : UInt8} (h : 0x80 ≤ b) : escape b = [b] := by
  have hhigh : ∀ b : UInt8, b.toNat < 0x100 → 0x80 ≤ b → escape b = [b] :=
    octet_of_lt (by decide +kernel)
  exact hhigh b b.toNat_lt h

theorem flatMap_escape_high {bs : Bytes} (h : ∀ b ∈ bs, 0x80 ≤ b) : bs.flatMap escape = bs := by
  induction bs with
  | nil => rfl
  | cons b bs ih =>
    rw [List.flatMap_cons, escape_high (h b List.mem_cons_self),
      ih fun e he => h e (List.mem_cons_of_mem b he), List.singleton_append]

theorem isText_escape_encoded (c : Char) :
    IsText ((String.utf8EncodeChar c).flatMap escape) := by
  rcases encoded_low_or_high c with ⟨b, hb, hc⟩ | hc
  · have hescaped : IsText ((escape b).flatMap fun e => [e]) :=
      .flatMap fun e he => isText_low (escape_low hb e he)
    rwa [hc, List.flatMap_singleton, ← List.flatMap_singleton' (escape b)]
  · rw [flatMap_escape_high hc]
    exact isText_encoded c

theorem isText_writeString (t : String) : IsText (writeString t) := by
  have hescaped : IsText ((utf8 t).flatMap escape) := by
    rw [utf8_eq_flatMap, List.flatMap_assoc]
    exact .flatMap fun c _ => isText_escape_encoded c
  exact (isText_cons (by decide) hescaped).append (isText_low (by decide))

theorem isText_joined {parts : List Bytes} (h : ∀ p ∈ parts, IsText p) :
    IsText (joined parts) := by
  induction parts with
  | nil => exact isText_nil
  | cons p parts ih =>
    have hp := h p List.mem_cons_self
    have hrest := ih fun q hq => h q (List.mem_cons_of_mem p hq)
    cases parts with
    | nil => exact hp
    | cons q parts => exact hp.append (isText_cons (by decide) hrest)

theorem isText_member (name : String) {value : Bytes} (h : IsText value) :
    IsText (writeString name ++ 0x3A :: value) :=
  (isText_writeString name).append (isText_cons (by decide) h)

theorem isText_writeRecord {σ : Type} {fs : Fields σ} {values : σ}
    (h : ∀ m ∈ fs.writeMembers values, IsText m) : IsText (writeRecord fs values) :=
  (isText_cons (by decide) (isText_joined h)).append (isText_low (by decide))

end Json

end AggregateGateway
