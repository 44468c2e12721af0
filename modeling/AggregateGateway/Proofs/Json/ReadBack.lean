import AggregateGateway.Json.Codec
import AggregateGateway.Text.Numeral

/-!
Scalars are read back from what is written of them. A reader stops where its value ends, so
whatever follows the value has to be something that can follow one.
-/

namespace AggregateGateway.Json

open Text

/-- What can follow a value: the end of the document, a comma or a closing bracket. -/
def Stops (s : Bytes) : Prop :=
  s = [] ∨ ∃ b t, s = b :: t ∧ (b = 0x2C ∨ b = 0x5D ∨ b = 0x7D)

theorem Stops.nil : Stops [] := .inl rfl

theorem Stops.comma (s : Bytes) : Stops (0x2C :: s) := .inr ⟨_, _, rfl, .inl rfl⟩

theorem Stops.brace (s : Bytes) : Stops (0x7D :: s) := .inr ⟨_, _, rfl, .inr (.inr rfl)⟩

/-- Whether a value other than a word begins with `b`. -/
def opensValue (b : UInt8) : Bool :=
  b == 0x22 || b == 0x2D || isDigitOctet b || b == 0x5B || b == 0x7B

/-- `c` reads `a` back, whatever stands behind it. -/
structure Codec.ReadsBack {α : Type} (c : Codec α) (a : α) : Prop where
  opens : ∃ b s, c.write a = b :: s ∧ opensValue b = true
  reads : ∀ s, Stops s → c.read (c.write a ++ s) = .ok (a, s)

theorem skipBlanks_of_opens {b : UInt8} (h : opensValue b = true) (s : Bytes) :
    skipBlanks (b :: s) = b :: s := by
  have hb : isBlankOctet b = false := by
    rw [← Bool.not_eq_true]
    intro hb
    simp only [isBlankOctet, Bool.or_eq_true, beq_iff_eq] at hb
    rcases hb with ((rfl | rfl) | rfl) | rfl <;> simp [opensValue, isDigitOctet] at h
  simp [skipBlanks, hb]

theorem not_null_of_opens {b : UInt8} (h : opensValue b = true) : b ≠ 0x6E := by
  rintro rfl
  simp [opensValue, isDigitOctet] at h

section Strings

theorem readCode_control {n : Nat} (h : n < 0x20) (s : Bytes) :
    readCode (0x30 :: 0x30 :: hexDigit (n / 16) :: hexDigit (n % 16) :: s) =
      .ok (Char.ofNat n, s) := by
  have hhigh : hexValue? (hexDigit (n / 16)) = some (n / 16) := by
    revert n
    decide
  have hlow : hexValue? (hexDigit (n % 16)) = some (n % 16) := by
    revert n
    decide
  have hzero : hexValue? 0x30 = some 0 := by decide
  have hlead : isLead n = false := by
    simp only [isLead, Bool.and_eq_false_iff, decide_eq_false_iff_not]
    omega
  have htrail : isTrail n = false := by
    simp only [isTrail, Bool.and_eq_false_iff, decide_eq_false_iff_not]
    omega
  simp [readCode, readHex, hzero, hhigh, hlow, Nat.div_add_mod', hlead, htrail]

theorem utf8_control {n : Nat} (h : n < 0x20) :
    utf8 (String.singleton (Char.ofNat n)) = [n.toUInt8] := by
  revert n
  decide +kernel

/-- One octet of a text costs the reader one unit of fuel, escaped or not. -/
theorem readStringOctets_escape (x b : UInt8) (fuel done s : Bytes) :
    readStringOctets (x :: fuel) done (escape b ++ s) = readStringOctets fuel (b :: done) s := by
  by_cases hshort : b = 0x22 ∨ b = 0x5C ∨ b = 0x08 ∨ b = 0x0C ∨ b = 0x0A ∨ b = 0x0D ∨ b = 0x09
  · rcases hshort with rfl | rfl | rfl | rfl | rfl | rfl | rfl <;> rfl
  · simp only [not_or] at hshort
    obtain ⟨h22, h5C, h08, h0C, h0A, h0D, h09⟩ := hshort
    by_cases hcontrol : b < 0x20
    · have hb : b.toNat < 0x20 := UInt8.lt_iff_toNat_lt.mp hcontrol
      have hescape : escape b ++ s =
          0x5C :: 0x75 :: 0x30 :: 0x30 :: hexDigit (b.toNat / 16) :: hexDigit (b.toNat % 16) :: s := by
        simp only [escape, beq_iff_eq, h22, h5C, h08, h0C, h0A, h0D, h09, hcontrol, if_true, if_false]
        rfl
      have hcode := readCode_control hb s
      rw [hescape, readStringOctets.eq_def]
      simp [hcode, utf8_control hb]
    · have hescape : escape b = [b] := by
        simp only [escape, beq_iff_eq, h22, h5C, h08, h0C, h0A, h0D, h09, hcontrol, if_false]
      rw [hescape, List.singleton_append, readStringOctets.eq_def]
      simp only [beq_iff_eq, h22, h5C, hcontrol, if_false]

theorem readStringOctets_flatMap_escape (bs s : Bytes) :
    ∀ {fuel : Bytes} (done : Bytes), bs.length < fuel.length →
      readStringOctets fuel done (bs.flatMap escape ++ 0x22 :: s) = .ok (bs.reverse ++ done, s) := by
  induction bs with
  | nil =>
    intro fuel done h
    cases fuel with
    | nil => simp at h
    | cons x fuel => rfl
  | cons b bs ih =>
    intro fuel done h
    cases fuel with
    | nil => simp at h
    | cons x fuel =>
      have hmore : bs.length < fuel.length := by simpa using h
      rw [List.flatMap_cons, List.append_assoc, readStringOctets_escape, ih (b :: done) hmore]
      simp

theorem length_le_flatMap_escape (bs : Bytes) : bs.length ≤ (bs.flatMap escape).length := by
  have hpos : ∀ b, 1 ≤ (escape b).length := by
    intro b
    unfold escape
    repeat' split
    all_goals first | decide | simp
  induction bs with
  | nil => simp
  | cons b bs ih =>
    have := hpos b
    simp only [List.flatMap_cons, List.length_append, List.length_cons]
    omega

theorem readString_append (text : String) (s : Bytes) :
    readString ((utf8 text).flatMap escape ++ 0x22 :: s) = .ok (text, s) := by
  have hfuel : (utf8 text).length < ((utf8 text).flatMap escape ++ 0x22 :: s).length := by
    have := length_le_flatMap_escape (utf8 text)
    simp only [List.length_append, List.length_cons]
    omega
  rw [readString, readStringOctets_flatMap_escape _ _ [] hfuel]
  simp [text?_utf8]

theorem writeString_append (text : String) (s : Bytes) :
    writeString text ++ s = 0x22 :: ((utf8 text).flatMap escape ++ 0x22 :: s) := by
  simp [writeString]

theorem readText_writeString (expected text : String) (s : Bytes) :
    readText expected (writeString text ++ s) = .ok (text, s) := by
  rw [writeString_append, readText, skipBlanks_of_opens rfl]
  exact readString_append text s

end Strings

section Numbers

/-- The digits of `n` have a first one, which is a zero only if it stands alone. -/
theorem digits_eq_cons (n : Nat) :
    ∃ d ds, digits n = d :: ds ∧ (∀ e ∈ d :: ds, isDigitOctet e = true) ∧
      (d = 0x30 → n = 0 ∧ ds = []) := by
  have hdigit : ∀ m < 10, isDigitOctet (0x30 + m).toUInt8 = true := by decide
  have hzero : ∀ m < 10, (0x30 + m).toUInt8 = 0x30 → m = 0 := by decide
  fun_induction digits n with
  | case1 n h =>
    exact ⟨_, [], rfl, by simpa using hdigit n h, fun hd => ⟨hzero n h hd, rfl⟩⟩
  | case2 n h ih =>
    obtain ⟨d, ds, hds, hall, hlead⟩ := ih
    have hlast := hdigit (n % 10) (Nat.mod_lt _ (by decide))
    refine ⟨d, ds ++ [(0x30 + n % 10).toUInt8], by rw [hds]; rfl, ?_, ?_⟩
    · intro e he
      rw [← List.cons_append, List.mem_append, List.mem_singleton] at he
      rcases he with he | rfl
      · exact hall e he
      · exact hlast
    · intro hd
      have := (hlead hd).1
      omega

/-- The number that digits continue. -/
def continued (n : Nat) (ds : Bytes) : Nat :=
  ds.foldl (fun n d => 10 * n + digitValue d) n

theorem le_continued (n : Nat) (ds : Bytes) : n ≤ continued n ds := by
  induction ds generalizing n with
  | nil => exact Nat.le_refl n
  | cons d ds ih =>
    have := ih (10 * n + digitValue d)
    show n ≤ continued (10 * n + digitValue d) ds
    omega

variable {negative : Bool}

theorem readDigits_of_stops {s : Bytes} (hs : Stops s) (n : Nat) :
    readDigits negative n s = readRemainder negative n s := by
  rcases hs with rfl | ⟨b, t, rfl, rfl | rfl | rfl⟩ <;> rfl

theorem readDigits_append {ds s : Bytes} (hs : Stops s) :
    ∀ n, (∀ d ∈ ds, isDigitOctet d = true) → continued n ds < UInt64.size →
      readDigits negative n (ds ++ s) = readRemainder negative (continued n ds) s := by
  induction ds with
  | nil => exact fun n _ _ => readDigits_of_stops hs n
  | cons d ds ih =>
    intro n hds hfits
    have hd : isDigitOctet d = true := hds d (by simp)
    have hmore : ∀ e ∈ ds, isDigitOctet e = true := fun e he => hds e (by simp [he])
    have hnext : 10 * n + digitValue d < UInt64.size :=
      Nat.lt_of_le_of_lt (le_continued _ ds) hfits
    rw [List.cons_append, readDigits, if_pos hd, if_pos hnext]
    exact ih _ hmore hfits

theorem readUnsigned_digits {n : Nat} (hn : n < UInt64.size) {s : Bytes} (hs : Stops s) :
    readUnsigned negative (digits n ++ s) = readRemainder negative n s := by
  obtain ⟨d, ds, hds, hall, hlead⟩ := digits_eq_cons n
  have hd : isDigitOctet d = true := hall d (by simp)
  have hvalue : continued (digitValue d) ds = n := by
    have := value_digits n
    rw [hds] at this
    simpa [value, continued] using this
  rw [hds]
  by_cases hzero : d = 0x30
  · obtain ⟨rfl, rfl⟩ := hlead hzero
    subst hzero
    rcases hs with rfl | ⟨b, t, rfl, rfl | rfl | rfl⟩ <;> rfl
  · have hmore : ∀ e ∈ ds, isDigitOctet e = true := fun e he => hall e (by simp [he])
    have hrun : readDigits negative _ _ = _ :=
      readDigits_append hs (digitValue d) hmore (by rw [hvalue]; exact hn)
    rw [List.cons_append, readUnsigned.eq_def]
    simp only [beq_iff_eq, hzero, hd, if_true, if_false, hrun, hvalue]

theorem readRemainder_natural {s : Bytes} (hs : Stops s) (n : Nat) :
    readRemainder false n s = .ok (.natural n, s) := by
  rcases hs with rfl | ⟨b, t, rfl, rfl | rfl | rfl⟩ <;> rfl

theorem readRemainder_negative {s : Bytes} (hs : Stops s) {n : Nat} (hpos : 0 < n)
    (hfits : n ≤ UInt64.size / 2) : readRemainder true n s = .ok (.negative n, s) := by
  have hsmall : (n == 0 || decide (n > UInt64.size / 2)) = false := by
    simp only [Bool.or_eq_false_iff, beq_eq_false_iff_ne, decide_eq_false_iff_not]
    omega
  rcases hs with rfl | ⟨b, t, rfl, rfl | rfl | rfl⟩ <;> simp [readRemainder, atExponent, hsmall]

theorem readNumber_negative {n : Nat} (hpos : 0 < n) (hfits : n ≤ UInt64.size / 2) {s : Bytes}
    (hs : Stops s) : readNumber (0x2D :: (digits n ++ s)) = .ok (.negative n, s) := by
  have hn : n < UInt64.size := by
    simp only [UInt64.size] at *
    omega
  rw [readNumber, readUnsigned_digits hn hs]
  exact readRemainder_negative hs hpos hfits

theorem readNumber_natural {n : Nat} (hn : n < UInt64.size) {s : Bytes} (hs : Stops s) :
    readNumber (digits n ++ s) = .ok (.natural n, s) := by
  obtain ⟨d, ds, hds, hall, -⟩ := digits_eq_cons n
  have hd : isDigitOctet d = true := hall d (by simp)
  have hminus : d ≠ 0x2D := by
    rintro rfl
    simp [isDigitOctet] at hd
  have hunsigned : readNumber (digits n ++ s) = readUnsigned false (digits n ++ s) := by
    rw [hds, List.cons_append, readNumber.eq_def]
    split
    · next h => exact absurd (List.cons.inj h).1 hminus
    · rfl
  rw [hunsigned, readUnsigned_digits hn hs]
  exact readRemainder_natural hs n

variable {α : Type} {kind : String} {fits? : Int → Option α} {toInt : α → Int}

theorem integer_readsBack {a : α} (hfits : fits? (toInt a) = some a)
    (hlow : -(UInt64.size / 2 : Int) ≤ toInt a) (hhigh : toInt a < UInt64.size) :
    (integer kind fits? toInt).ReadsBack a := by
  simp only [UInt64.size] at hlow hhigh
  by_cases hneg : toInt a < 0
  · have hwrite : (integer kind fits? toInt).write a = 0x2D :: digits (toInt a).natAbs :=
      if_pos hneg
    refine ⟨⟨_, _, hwrite, rfl⟩, fun s hs => ?_⟩
    have hread := readNumber_negative (n := (toInt a).natAbs) (by omega)
      (by simp only [UInt64.size]; omega) hs
    have hvalue : -((toInt a).natAbs : Int) = toInt a := by omega
    rw [hwrite, List.cons_append]
    simp only [integer, skipBlanks_of_opens (b := 0x2D) rfl, hread, integer.accept, hvalue, hfits]
    rfl
  · have hwrite : (integer kind fits? toInt).write a = digits (toInt a).natAbs := if_neg hneg
    obtain ⟨d, ds, hds, hall, -⟩ := digits_eq_cons (toInt a).natAbs
    have hd : isDigitOctet d = true := hall d (by simp)
    have hopens : opensValue d = true := by simp [opensValue, hd]
    refine ⟨⟨d, ds, hwrite.trans hds, hopens⟩, fun s hs => ?_⟩
    have hread := readNumber_natural (n := (toInt a).natAbs) (by simp only [UInt64.size]; omega) hs
    have hvalue : Int.ofNat (toInt a).natAbs = toInt a := by
      show ((toInt a).natAbs : Int) = toInt a
      omega
    rw [hds, List.cons_append] at hread
    rw [hwrite, hds, List.cons_append]
    simp only [integer, skipBlanks_of_opens hopens, hd, Bool.or_true, if_true, hread,
      integer.accept, hvalue, hfits]

theorem int32_readsBack (n : Int32) : int32.ReadsBack n := by
  have hlow : Int32.minValue.toInt ≤ n.toInt := n.minValue_le_toInt
  have hhigh : n.toInt ≤ Int32.maxValue.toInt := n.toInt_le
  have hmin : Int32.minValue.toInt = -2147483648 := by decide
  have hmax : Int32.maxValue.toInt = 2147483647 := by decide
  apply integer_readsBack
  · rw [if_pos ⟨hlow, hhigh⟩, Int32.ofInt_toInt]
  · simp only [UInt64.size]
    omega
  · simp only [UInt64.size]
    omega

theorem boundedNat_readsBack {size : Nat} {ofNat : Nat → α} {toNat : α → Nat} {a : α}
    (hback : ofNat (toNat a) = a) (hlt : toNat a < size) (hsize : size ≤ UInt64.size) :
    (boundedNat kind size ofNat toNat).ReadsBack a := by
  apply integer_readsBack
  · rw [if_pos (by omega), Int.toNat_natCast, hback]
  · simp only [UInt64.size] at hsize ⊢
    omega
  · omega

theorem uint8_readsBack (n : UInt8) : uint8.ReadsBack n :=
  boundedNat_readsBack UInt8.ofNat_toNat n.toNat_lt (by decide)

theorem uint16_readsBack (n : UInt16) : uint16.ReadsBack n :=
  boundedNat_readsBack UInt16.ofNat_toNat n.toNat_lt (by decide)

theorem uint32_readsBack (n : UInt32) : uint32.ReadsBack n :=
  boundedNat_readsBack UInt32.ofNat_toNat n.toNat_lt (by decide)

theorem uint64_readsBack (n : UInt64) : uint64.ReadsBack n :=
  boundedNat_readsBack UInt64.ofNat_toNat n.toNat_lt (by decide)

theorem size_readsBack (n : UInt64) : size.ReadsBack n :=
  boundedNat_readsBack UInt64.ofNat_toNat n.toNat_lt (by decide)

end Numbers

theorem text_readsBack (t : String) : text.ReadsBack t where
  opens := ⟨_, _, rfl, rfl⟩
  reads s _ := readText_writeString "a string" t s

theorem parsed_readsBack {α : Type} {expected : String} {parse : String → Except String α}
    {print : α → String} {a : α} (h : parse (print a) = .ok a) :
    (parsed expected parse print).ReadsBack a where
  opens := ⟨_, _, rfl, rfl⟩
  reads s _ := by
    show (parsed expected parse print).read (writeString (print a) ++ s) = _
    simp only [parsed, readText_writeString, h]

theorem variant_readsBack {α : Type} {names : List (String × α)} {name : α → String} {a : α}
    (h : names.lookup (name a) = some a) : (variant names name).ReadsBack a where
  opens := ⟨_, _, rfl, rfl⟩
  reads s _ := by
    show (variant names name).read (writeString (name a) ++ s) = _
    have hread : variant.readName names (writeString (name a) ++ s) = .ok (a, s) := by
      simp only [variant.readName, readText_writeString, h]
    rw [writeString_append] at hread ⊢
    simp only [variant, skipBlanks_of_opens (b := 0x22) rfl, hread]
    rfl

theorem nullable_readsBack {α : Type} {c : Codec α} {a : α} (h : c.ReadsBack a) :
    (nullable c).ReadsBack (some a) := by
  obtain ⟨b, t, hwrite, hopens⟩ := h.opens
  refine ⟨⟨b, t, hwrite, hopens⟩, fun s hs => ?_⟩
  have hread := h.reads s hs
  show (nullable c).read (c.write a ++ s) = _
  rw [hwrite, List.cons_append] at hread ⊢
  simp only [nullable, skipBlanks_of_opens hopens]
  split
  · next heq => exact absurd (List.cons.inj heq).1 (not_null_of_opens hopens)
  · simp [hread, Except.map]

end AggregateGateway.Json
