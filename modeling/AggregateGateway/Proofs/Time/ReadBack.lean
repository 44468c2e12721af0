import AggregateGateway.Proofs.Json.ReadBack
import AggregateGateway.Time.Rfc3339

/-!
Every instant is read back from its text: fractions of a second with however many places they are
written, leap seconds as second 60 and years outside four digits by their sign.
-/

namespace AggregateGateway.Time

open Text

section Digits

theorem isDigit_of_mem_padded {width n : Nat} {c : Char} (h : c ∈ padded width n) :
    c.isDigit = true := by
  rcases List.mem_append.mp h with h | h
  · rw [List.eq_of_mem_replicate h]
    decide
  · exact Nat.isDigit_of_mem_toDigits (by decide) (by decide) h

theorem length_padded (width n : Nat) :
    (padded width n).length = max width (Nat.toDigits 10 n).length := by
  simp only [padded, List.length_append, List.length_replicate]
  omega

theorem padded_eq_cons (width n : Nat) :
    ∃ d ds, padded width n = d :: ds ∧ d.isDigit = true := by
  cases hp : padded width n with
  | nil =>
    have hpos : 0 < (Nat.toDigits 10 n).length := Nat.length_toDigits_pos
    have hlength := length_padded width n
    simp only [hp, List.length_nil] at hlength
    omega
  | cons d ds => exact ⟨d, ds, rfl, isDigit_of_mem_padded (n := n) (by rw [hp]; simp)⟩

theorem ofDigitChars_padded (width n : Nat) : Nat.ofDigitChars 10 (padded width n) 0 = n := by
  rw [padded, Nat.ofDigitChars_append, Nat.ofDigitChars_replicate_zero, Nat.mul_zero,
    Nat.ofDigitChars_ten_toDigits]

/-- No digit stands in front. -/
def StartsNoDigit (cs : List Char) : Prop :=
  ∀ c ∈ cs.head?, c.isDigit = false

theorem takeWhile_isDigit {ds rest : List Char} (hds : ∀ c ∈ ds, c.isDigit = true)
    (hrest : StartsNoDigit rest) : (ds ++ rest).takeWhile Char.isDigit = ds := by
  rw [List.takeWhile_append_of_pos hds]
  cases rest with
  | nil => simp
  | cons c rest => simp [hrest c rfl]

theorem StartsNoDigit.take {rest : List Char} (h : StartsNoDigit rest) (k : Nat) :
    StartsNoDigit (rest.take k) := by
  cases rest <;> cases k <;> simp_all [StartsNoDigit]

theorem readDigits_padded {limit width n : Nat} {rest : List Char} (hn : n < UInt64.size / 2)
    (hlength : (padded width n).length ≤ limit)
    (hrest : (padded width n).length = limit ∨ StartsNoDigit rest) :
    readDigits limit (padded width n ++ rest) = .ok (n, rest) := by
  have hds : ∀ c ∈ padded width n, c.isDigit = true := fun c hc => isDigit_of_mem_padded hc
  have hstop : StartsNoDigit (rest.take (limit - (padded width n).length)) := by
    rcases hrest with h | h
    · rw [h, Nat.sub_self, List.take_zero]
      simp [StartsNoDigit]
    · exact h.take _
  have hrun : ((padded width n ++ rest).take limit).takeWhile Char.isDigit = padded width n := by
    rw [List.take_append, List.take_of_length_le hlength]
    exact takeWhile_isDigit hds hstop
  have hvalue : (padded width n).foldl (fun n d => 10 * n + (d.toNat - 0x30)) 0 = n :=
    ofDigitChars_padded width n
  obtain ⟨d, ds, hp, hd⟩ := padded_eq_cons width n
  rw [hp] at hrun hvalue ⊢
  simp only [List.cons_append] at hrun ⊢
  simp only [readDigits, hd, Bool.not_true, Bool.false_eq_true, if_false, hrun, hvalue, hn,
    if_true]
  rw [← List.cons_append, List.drop_left]

/-- Two digits are enough below a hundred. -/
theorem length_padded_two {n : Nat} (h : n < 100) : (padded 2 n).length = 2 := by
  have hlength : (Nat.toDigits 10 n).length ≤ 2 :=
    (Nat.length_toDigits_le_iff (by decide) (by decide)).mpr h
  rw [length_padded]
  omega

theorem isBlank_of_isDigit {c : Char} (h : c.isDigit = true) : isBlank c = false := by
  simp only [Char.isDigit, Bool.and_eq_true, decide_eq_true_eq] at h
  have hlow : 48 ≤ c.toNat := h.1
  have hhigh : c.toNat ≤ 57 := h.2
  simp only [isBlank, blankRanges, List.any_cons, List.any_nil, Bool.or_false,
    Bool.or_eq_false_iff, Bool.and_eq_false_imp, decide_eq_true_eq, decide_eq_false_iff_not]
  omega

theorem trimStart_padded (width n : Nat) (rest : List Char) :
    trimStart (padded width n ++ rest) = padded width n ++ rest := by
  obtain ⟨d, ds, hp, hd⟩ := padded_eq_cons width n
  rw [hp, List.cons_append, trimStart, List.dropWhile_cons_of_neg]
  simp [isBlank_of_isDigit hd]

theorem padded_append_ne_cons {width n : Nat} {rest cs : List Char} {c : Char}
    (h : c.isDigit = false) : padded width n ++ rest ≠ c :: cs := by
  intro heq
  obtain ⟨d, ds, hp, hd⟩ := padded_eq_cons width n
  rw [hp, List.cons_append] at heq
  rw [(List.cons.inj heq).1, h] at hd
  exact Bool.false_ne_true hd

theorem readField_padded {low high n : Nat} (hlow : low ≤ n) (hhigh : n ≤ high)
    (hn : n < 100) (rest : List Char) :
    readField 2 low high (padded 2 n ++ rest) = .ok (n, rest) := by
  have hlength := length_padded_two hn
  have hread : readDigits 2 (padded 2 n ++ rest) = .ok (n, rest) :=
    readDigits_padded (by simp only [UInt64.size]; omega) (Nat.le_of_eq hlength) (.inl hlength)
  simp [readField, trimStart_padded, hread, hlow, hhigh]

end Digits

section Date

theorem readYear_writeYear {year : Int} (hlow : firstYear ≤ year) (hhigh : year ≤ lastYear)
    (rest : List Char) :
    readYear (writeYear year ++ '-' :: rest) = .ok (year, '-' :: rest) := by
  have hdash : StartsNoDigit ('-' :: rest) := by simp [StartsNoDigit]
  have hsmall : year.natAbs < UInt64.size / 2 := by
    simp only [firstYear, lastYear, UInt64.size] at *
    omega
  have hrange : Int32.minValue.toInt ≤ year ∧ year ≤ Int32.maxValue.toInt := by
    have hmin : Int32.minValue.toInt = -2147483648 := by decide
    have hmax : Int32.maxValue.toInt = 2147483647 := by decide
    simp only [firstYear, lastYear] at *
    omega
  by_cases hplain : 0 ≤ year ∧ year ≤ 9999
  · have hlength : (padded 4 year.natAbs).length = 4 := by
      have : (Nat.toDigits 10 year.natAbs).length ≤ 4 :=
        (Nat.length_toDigits_le_iff (by decide) (by decide)).mpr
          (show year.natAbs < 10000 by omega)
      rw [length_padded]
      omega
    have hread := readDigits_padded hsmall (Nat.le_of_eq hlength) (.inr hdash)
    have hvalue : (year.natAbs : Int) = year := by omega
    rw [writeYear, if_pos hplain, readYear, trimStart_padded]
    split
    · next h => exact absurd h (padded_append_ne_cons (by decide))
    · next h => exact absurd h (padded_append_ne_cons (by decide))
    · simp only [hread, Except.bind, hvalue, if_pos hrange]
  · have hlength : (padded 4 year.natAbs).length ≤ (padded 4 year.natAbs ++ '-' :: rest).length := by
      simp
    have hread := readDigits_padded hsmall hlength (.inr hdash)
    by_cases hneg : year < 0
    · have hvalue : -(year.natAbs : Int) = year := by omega
      rw [writeYear, if_neg hplain, if_pos hneg]
      show (readDigits (padded 4 year.natAbs ++ '-' :: rest).length
        (padded 4 year.natAbs ++ '-' :: rest)).bind _ = _
      simp only [hread, Except.bind, hvalue, if_pos hrange]
    · have hvalue : (year.natAbs : Int) = year := by omega
      rw [writeYear, if_neg hplain, if_neg hneg]
      show (readDigits (padded 4 year.natAbs ++ '-' :: rest).length
        (padded 4 year.natAbs ++ '-' :: rest)).bind _ = _
      simp only [hread, Except.bind, hvalue, if_pos hrange]

theorem readMark_cons {mark : Char} (h : isBlank mark = false) (cs : List Char) :
    readMark mark (mark :: cs) = .ok cs := by
  simp [readMark, trimStart, h]

theorem readDate_write (d : Date) (rest : List Char) :
    readDate (writeYear d.year ++ '-' :: (padded 2 d.month ++ '-' :: (padded 2 d.day ++ rest))) =
      .ok ((d.year, d.month, d.day), rest) := by
  have hday : d.day ≤ 31 := by
    have := d.day_le
    unfold daysIn at this
    split at this <;> (try split at this) <;> omega
  have hmonth := readField_padded d.month_pos d.month_le (Nat.lt_of_le_of_lt d.month_le (by decide))
    ('-' :: (padded 2 d.day ++ rest))
  have hfield := readField_padded d.day_pos hday (by omega) rest
  have hmark : isBlank '-' = false := by decide
  simp only [readDate, bind, Except.bind, readYear_writeYear d.year_ge d.year_le,
    readMark_cons hmark, hmonth, hfield, pure, Except.pure]

end Date

section Clock

theorem readFraction_padded {places n nano : Nat} {rest : List Char}
    (hdigits : (Nat.toDigits 10 n).length ≤ places) (hplaces : places ≤ 9) (hn : n < 1000000000)
    (hnano : n * Nat.pow 10 (9 - places) = nano) (hrest : StartsNoDigit rest) :
    readFraction ('.' :: (padded places n ++ rest)) = .ok (nano, rest) := by
  have hlength : (padded places n).length = places := by
    rw [length_padded]
    omega
  have hread : readDigits 9 (padded places n ++ rest) = .ok (n, rest) :=
    readDigits_padded (by simp only [UInt64.size]; omega) (by omega) (.inr hrest)
  have hcount : (padded places n ++ rest).length - rest.length = places := by
    rw [List.length_append, hlength, Nat.add_sub_cancel]
  have hend : rest.dropWhile Char.isDigit = rest := by
    cases rest with
    | nil => rfl
    | cons c rest => rw [List.dropWhile_cons_of_neg]; simp [hrest c rfl]
  simp only [readFraction, hread, Except.map, hcount, hend, hnano]

/-- The number of places is such that no digit of the fraction is lost. -/
theorem readFraction_writeFraction {nano : Nat} (h : nano < 1000000000) (cs : List Char) :
    readFraction (writeFraction nano ++ 'Z' :: cs) = .ok (nano, 'Z' :: cs) := by
  have hrest : StartsNoDigit ('Z' :: cs) := by simp [StartsNoDigit]
  unfold writeFraction
  split
  · next hzero =>
    subst hzero
    rfl
  split
  · next hmillis =>
    have hdigits : (Nat.toDigits 10 (nano / 1000000)).length ≤ 3 :=
      (Nat.length_toDigits_le_iff (by decide) (by decide)).mpr
        (show nano / 1000000 < 1000 by omega)
    have hnano : nano / 1000000 * Nat.pow 10 (9 - 3) = nano := by
      show nano / 1000000 * 1000000 = nano
      omega
    exact readFraction_padded hdigits (by decide) (by omega) hnano hrest
  split
  · next hmicros =>
    have hdigits : (Nat.toDigits 10 (nano / 1000)).length ≤ 6 :=
      (Nat.length_toDigits_le_iff (by decide) (by decide)).mpr
        (show nano / 1000 < 1000000 by omega)
    have hnano : nano / 1000 * Nat.pow 10 (9 - 6) = nano := by
      show nano / 1000 * 1000 = nano
      omega
    exact readFraction_padded hdigits (by decide) (by omega) hnano hrest
  · have hdigits : (Nat.toDigits 10 nano).length ≤ 9 :=
      (Nat.length_toDigits_le_iff (by decide) (by decide)).mpr h
    have hnano : nano * Nat.pow 10 (9 - 9) = nano := Nat.mul_one nano
    exact readFraction_padded hdigits (by decide) h hnano hrest

theorem readClock_write (t : Instant) (cs : List Char) :
    readClock (padded 2 t.hour ++ ':' :: (padded 2 t.minute ++ ':' :: (padded 2 t.second ++
      (writeFraction t.fraction ++ 'Z' :: cs)))) =
      .ok ((t.hour, t.minute, t.second, t.fraction), 'Z' :: cs) := by
  have hsecond := t.second_lt
  have hnano := t.nano_lt
  have hleap := t.leap
  simp only [secondsPerDay, nanosPerSecond] at hsecond hnano hleap
  have hhour : t.hour ≤ 23 := by
    simp only [Instant.hour]
    omega
  have hminute : t.minute ≤ 59 := by
    simp only [Instant.minute]
    omega
  have hshown : t.second ≤ 60 := by
    simp only [Instant.second, nanosPerSecond]
    omega
  have hfraction : t.fraction < 1000000000 := by
    simp only [Instant.fraction, nanosPerSecond]
    omega
  have hmark : isBlank ':' = false := by decide
  simp only [readClock, bind, Except.bind, readMark_cons hmark, pure, Except.pure,
    readField_padded (Nat.zero_le _) hhour (by omega),
    readField_padded (Nat.zero_le _) hminute (by omega),
    readField_padded (Nat.zero_le _) hshown (by omega), readFraction_writeFraction hfraction]

end Clock

theorem Date.of?_parts (d : Date) : Date.of? d.year d.month d.day = some d := by
  rw [Date.of?, dif_pos ⟨⟨d.year_ge, d.year_le⟩, ⟨d.month_pos, d.month_le⟩, d.day_pos, d.day_le⟩]

theorem Instant.of?_parts (t : Instant) :
    Instant.of? t.date t.secondOfDay t.nano = some t := by
  rw [Instant.of?, dif_pos ⟨t.second_lt, t.nano_lt, t.leap⟩]

theorem toList_write (t : Instant) :
    (write t).toList =
      writeYear t.date.year ++ '-' :: (padded 2 t.date.month ++ '-' :: (padded 2 t.date.day ++
        'T' :: (padded 2 t.hour ++ ':' :: (padded 2 t.minute ++ ':' :: (padded 2 t.second ++
          (writeFraction t.fraction ++ ['Z'])))))) := by
  simp [write, writeWith]

theorem readZone_utc : readZone ['Z'] = .ok (0, []) := by
  have hword : ((String.ofList ['Z']).toUpper == "UTC") = false := by decide +kernel
  simp [readZone, hword]

section Parts

variable (t : Instant)

/-- Only inside a leap second does a clock show a second 60. -/
theorem Instant.leap_of_second : (if t.second = 60 then 1 else 0) = t.nano / nanosPerSecond := by
  have hnano := t.nano_lt
  have hleap := t.leap
  simp only [nanosPerSecond] at hnano hleap
  have hsecond : t.second = t.secondOfDay % 60 + t.nano / 1000000000 := rfl
  by_cases h : t.second = 60
  · rw [if_pos h, nanosPerSecond]
    omega
  · rw [if_neg h, nanosPerSecond]
    omega

theorem Instant.wall_eq :
    (t.hour * 60 + t.minute) * 60 + (t.second - t.nano / nanosPerSecond) = t.secondOfDay := by
  simp only [Instant.hour, Instant.minute, Instant.second]
  omega

theorem Instant.nano_eq : t.fraction + t.nano / nanosPerSecond * nanosPerSecond = t.nano :=
  Nat.mod_add_div' t.nano nanosPerSecond

theorem Instant.dayOfWall : Int.fdiv ((t.secondOfDay : Int) - 0) secondsPerDay = 0 := by
  have hsecond := t.second_lt
  simp only [secondsPerDay] at hsecond ⊢
  rw [Int.sub_zero, Int.fdiv_eq_ediv_of_nonneg _ (Int.natCast_nonneg _)]
  omega

theorem Instant.secondOfWall :
    (Int.fmod ((t.secondOfDay : Int) - 0) secondsPerDay).toNat = t.secondOfDay := by
  have hsecond := t.second_lt
  simp only [secondsPerDay] at hsecond ⊢
  rw [Int.sub_zero, Int.fmod_eq_emod_of_nonneg _ (Int.natCast_nonneg _)]
  omega

end Parts

theorem read_write (t : Instant) : read (write t) = .ok t := by
  have hdate := readDate_write t.date ('T' :: (padded 2 t.hour ++ ':' :: (padded 2 t.minute ++
    ':' :: (padded 2 t.second ++ (writeFraction t.fraction ++ ['Z'])))))
  have hclock := readClock_write t []
  have hzone : trimStart ['Z'] = ['Z'] := rfl
  have hoffset : ¬ secondsPerDay ≤ Int.natAbs 0 := by decide
  simp only [read, bind, Except.bind, toList_write, hdate, beq_self_eq_true, Bool.true_or, if_true,
    pure, Except.pure, hclock, hzone, readZone_utc, Date.of?_parts, t.leap_of_second,
    t.wall_eq, t.nano_eq, t.dayOfWall, t.secondOfWall, if_neg hoffset]
  have hshift : t.date.shift? 0 = some t.date := rfl
  rw [hshift]
  simp [t.of?_parts, trimStart]

example :
    write ⟨⟨-44, 3, 15, by decide, by decide, by decide, by decide, by decide, by decide⟩,
      86399, 1500000000, by decide, by decide, by decide⟩ = "-0044-03-15T23:59:60.500Z" := by
  decide +kernel

theorem instant_readsBack (t : Instant) : Instant.codec.ReadsBack t :=
  Json.parsed_readsBack (by rw [read_write]; rfl)

end AggregateGateway.Time
