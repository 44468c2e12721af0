import AggregateGateway.Http.Uuid

/-! Which texts are read as an identifier. Case does not count in any spelling, so whatever is read
may first be put into lower case, and there an identifier has four spellings. -/

namespace AggregateGateway

namespace Text

theorem of_ascii {P : Char → Prop} (h : ∀ n < 128, P (Char.ofNat n)) {c : Char}
    (hc : c.toNat < 128) : P c := by
  have hp := h c.toNat hc
  rwa [Char.ofNat_toNat] at hp

theorem toLower_of_not_ascii {c : Char} (hc : ¬ c.toNat < 128) : c.toLower = c := by
  have h : ¬ (c.val ≥ 'A'.val ∧ c.val ≤ 'Z'.val) := by
    rintro ⟨-, h⟩
    exact hc (Nat.lt_of_le_of_lt (UInt32.le_iff_toNat_le.mp h) (by decide))
  exact dif_neg h

/-- Nothing but itself becomes a character that is not a letter. -/
theorem eq_of_toLower_eq {c d : Char} (hd : d = '-' ∨ d = '{' ∨ d = '}') (h : c.toLower = d) :
    c = d := by
  by_cases hc : c.toNat < 128
  · have hmarks : (c.toLower = '-' → c = '-') ∧ (c.toLower = '{' → c = '{') ∧
        (c.toLower = '}' → c = '}') :=
      of_ascii (P := fun c => (c.toLower = '-' → c = '-') ∧ (c.toLower = '{' → c = '{') ∧
        (c.toLower = '}' → c = '}')) (by decide +kernel) hc
    obtain rfl | rfl | rfl := hd
    · exact hmarks.1 h
    · exact hmarks.2.1 h
    · exact hmarks.2.2 h
  · rwa [toLower_of_not_ascii hc] at h

theorem toLower_comp_toLower : Char.toLower ∘ Char.toLower = Char.toLower := by
  funext c
  by_cases hc : c.toNat < 128
  · exact of_ascii (P := fun c => c.toLower.toLower = c.toLower) (by decide +kernel) hc
  · simp only [Function.comp_apply, toLower_of_not_ascii hc]

end Text

namespace Http.Uuid

open Text

/-- The spellings of an identifier in lower case: its digits alone, and the written form by itself,
in braces and as a name. -/
def spellings (u : Uuid) : List (List Char) :=
  [u.digits.map digit, u.text.toList, '{' :: u.text.toList ++ ['}'], urnStart ++ u.text.toList]

/-! ### The written form -/

def hexDigits : List Char :=
  ['0', '1', '2', '3', '4', '5', '6', '7', '8', '9', 'a', 'b', 'c', 'd', 'e', 'f']

/-- Groups of lower-case hexadecimal digits, as many in each as `ns` says, with hyphens between
them. -/
def IsGrouped (ns : List Nat) (cs : List Char) : Prop :=
  ∃ gs : List (List Char), gs.map List.length = ns ∧ (∀ g ∈ gs, ∀ c ∈ g, c ∈ hexDigits) ∧
    cs = ['-'].intercalate gs

theorem digit_mem_hexDigits (d : Fin 16) : digit d ∈ hexDigits := by
  revert d
  decide

theorem mem_hexDigits_of_mem {ds : List (Fin 16)} {c : Char} (h : c ∈ ds.map digit) :
    c ∈ hexDigits := by
  obtain ⟨d, -, rfl⟩ := List.mem_map.mp h
  exact digit_mem_hexDigits d

theorem writeGroups_isGrouped {ns : List Nat} {ds : List (Fin 16)}
    (h : ns.foldr (· + ·) 0 = ds.length) : IsGrouped ns (writeGroups ns ds) := by
  induction ns generalizing ds with
  | nil =>
    obtain rfl := List.length_eq_zero_iff.mp h.symm
    exact ⟨[], rfl, by simp, rfl⟩
  | cons n ns ih =>
    simp only [List.foldr_cons] at h
    cases ns with
    | nil =>
      refine ⟨[ds.map digit], ?_, ?_, ?_⟩
      · simpa using h.symm
      · intro g hg c hc
        obtain rfl := List.mem_singleton.mp hg
        exact mem_hexDigits_of_mem hc
      · exact List.intercalate_singleton.symm
    | cons m ns =>
      have hrest : (m :: ns).foldr (· + ·) 0 = (ds.drop n).length := by
        rw [List.length_drop, ← h, Nat.add_sub_cancel_left]
      obtain ⟨gs, hlengths, hdigits, hgs⟩ := ih hrest
      have hne : gs ≠ [] := by
        rintro rfl
        cases hlengths
      refine ⟨(ds.take n).map digit :: gs, ?_, ?_, ?_⟩
      · have hn : n ≤ ds.length := by omega
        rw [List.map_cons, hlengths, List.length_map, List.length_take, Nat.min_eq_left hn]
      · intro g hg c hc
        obtain rfl | hg := List.mem_cons.mp hg
        · exact mem_hexDigits_of_mem hc
        · exact hdigits g hg c hc
      · rw [List.intercalate_cons_of_ne_nil hne, ← hgs, List.append_assoc]
        rfl

theorem sum_groups (u : Uuid) : groups.foldr (· + ·) 0 = u.digits.length :=
  u.length_digits.symm

theorem text_isGrouped (u : Uuid) : IsGrouped groups u.text.toList := by
  rw [text, String.toList_ofList]
  exact writeGroups_isGrouped u.sum_groups

theorem length_text (u : Uuid) : u.text.toList.length = 36 := by
  rw [text, String.toList_ofList, length_writeGroups groups u.digits u.sum_groups, u.length_digits]
  rfl

theorem mem_of_isGrouped {ns : List Nat} {cs : List Char} (h : IsGrouped ns cs) {c : Char}
    (hc : c ∈ cs) : c ∈ '-' :: hexDigits := by
  obtain ⟨gs, -, hdigits, rfl⟩ := h
  induction gs with
  | nil => cases hc
  | cons g gs ih =>
    have hg : c ∈ g → c ∈ '-' :: hexDigits := fun hc =>
      List.mem_cons_of_mem _ (hdigits g List.mem_cons_self c hc)
    cases gs with
    | nil =>
      rw [List.intercalate_singleton] at hc
      exact hg hc
    | cons g' gs =>
      rw [List.intercalate_cons_cons, List.append_assoc, List.mem_append, List.mem_append,
        List.mem_singleton] at hc
      obtain hc | rfl | hc := hc
      · exact hg hc
      · exact List.mem_cons_self
      · exact ih (fun g hg => hdigits g (List.mem_cons_of_mem _ hg)) hc

/-! ### Case -/

theorem digit?_toLower (c : Char) : digit? c.toLower = digit? c := by
  by_cases hc : c.toNat < 128
  · exact of_ascii (P := fun c => digit? c.toLower = digit? c) (by decide +kernel) hc
  · rw [toLower_of_not_ascii hc]

theorem toLower_of_digit? {c : Char} {d : Fin 16} (h : digit? c = some d) :
    c.toLower = digit d := by
  by_cases hc : c.toNat < 128
  · exact of_ascii (P := fun c => ∀ d, digit? c = some d → c.toLower = digit d) (by decide +kernel)
      hc d h
  · simp [digit?, hc] at h

theorem mapM_digit?_map_toLower (cs : List Char) :
    (cs.map Char.toLower).mapM digit? = cs.mapM digit? := by
  induction cs with
  | nil => rfl
  | cons c cs ih => simp only [List.map_cons, List.mapM_cons, digit?_toLower, ih]

theorem readGroups_map_toLower (ns : List Nat) (cs : List Char) :
    readGroups ns (cs.map Char.toLower) = readGroups ns cs := by
  induction ns generalizing cs with
  | nil => exact mapM_digit?_map_toLower cs
  | cons n ns ih =>
    cases ns with
    | nil => exact mapM_digit?_map_toLower cs
    | cons m ns =>
      simp only [readGroups, ← List.map_drop, ← List.map_take, mapM_digit?_map_toLower]
      cases hrest : cs.drop n with
      | nil => rfl
      | cons c rest =>
        by_cases hc : c = '-'
        · subst hc
          simp only [List.map_cons, show Char.toLower '-' = '-' from rfl, ih]
        · have hlower : c.toLower ≠ '-' := fun h => hc (eq_of_toLower_eq (by simp) h)
          simp [hc, hlower]

theorem bare_cons {c : Char} (hc : c ≠ '{') (cs : List Char) :
    bare (c :: cs) =
      if ((c :: cs).take urnStart.length).map Char.toLower = urnStart
      then (c :: cs).drop urnStart.length else c :: cs := by
  unfold bare
  split
  · next h => exact absurd (List.cons.inj h).1 hc
  · rfl

theorem bare_map_toLower (cs : List Char) :
    bare (cs.map Char.toLower) = (bare cs).map Char.toLower := by
  cases cs with
  | nil => rfl
  | cons c cs =>
    by_cases hc : c = '{'
    · subst hc
      have hlast : (cs.map Char.toLower).getLast? = some '}' ↔ cs.getLast? = some '}' := by
        rw [List.getLast?_map, Option.map_eq_some_iff]
        constructor
        · rintro ⟨d, hd, hlower⟩
          rw [hd, eq_of_toLower_eq (by simp) hlower]
        · exact fun h => ⟨_, h, rfl⟩
      simp only [List.map_cons, bare, show Char.toLower '{' = '{' from rfl, hlast]
      split
      · exact (List.map_dropLast).symm
      · rfl
    · have hlower : c.toLower ≠ '{' := fun h => hc (eq_of_toLower_eq (by simp) h)
      rw [List.map_cons, bare_cons hlower, bare_cons hc, ← List.map_cons, ← List.map_take,
        List.map_map, toLower_comp_toLower]
      split
      · exact (List.map_drop).symm
      · rfl

theorem read?_toLower (s : String) :
    read? (String.ofList (s.toList.map Char.toLower)) = read? s := by
  simp only [read?, String.toList_ofList, List.length_map, mapM_digit?_map_toLower,
    bare_map_toLower, readGroups_map_toLower]

/-! ### What is read -/

theorem map_digit_of_mapM_digit? {cs : List Char} {ds : List (Fin 16)}
    (h : cs.mapM digit? = some ds) : cs.map Char.toLower = ds.map digit := by
  induction cs generalizing ds with
  | nil =>
    cases h
    rfl
  | cons c cs ih =>
    simp only [List.mapM_cons, Option.bind_eq_bind, Option.bind_eq_some_iff] at h
    obtain ⟨d, hd, es, hes, h⟩ := h
    cases h
    rw [List.map_cons, List.map_cons, toLower_of_digit? hd, ih hes]

theorem writeGroups_of_readGroups {ns : List Nat} {cs : List Char} {ds : List (Fin 16)}
    (h : readGroups ns cs = some ds) : cs.map Char.toLower = writeGroups ns ds := by
  induction ns generalizing cs ds with
  | nil => exact map_digit_of_mapM_digit? h
  | cons n ns ih =>
    cases ns with
    | nil => exact map_digit_of_mapM_digit? h
    | cons m ns =>
      simp only [readGroups] at h
      split at h
      · next rest hrest =>
        split at h
        · next ds es hds hes =>
          cases h
          have hcs : cs = cs.take n ++ '-' :: rest := by rw [← hrest, List.take_append_drop]
          have hmap := map_digit_of_mapM_digit? hds
          -- a hyphen behind the group means that the group was not cut short
          have hlength : ds.length = n := by
            have hn : n < cs.length := by
              by_cases hn : n < cs.length
              · exact hn
              · rw [List.drop_eq_nil_of_le (Nat.le_of_not_lt hn)] at hrest
                cases hrest
            have hlengths := congrArg List.length hmap
            simp only [List.length_map, List.length_take] at hlengths
            omega
          rw [hcs, List.map_append, List.map_cons, hmap, ih hes, writeGroups,
            List.take_left' hlength, List.drop_left' hlength]
          rfl
        · cases h
      · cases h

theorem ofDigits?_eq_some_iff {ds : List (Fin 16)} {u : Uuid} :
    ofDigits? ds = some u ↔ ds = u.digits := by
  obtain ⟨es, hes⟩ := u
  simp only [ofDigits?]
  split
  · simp
  · next h =>
    refine ⟨fun hnone => (by cases hnone), ?_⟩
    rintro rfl
    exact absurd hes h

theorem eq_bare (cs : List Char) :
    cs = bare cs ∨ cs = '{' :: bare cs ++ ['}'] ∨
      cs.map Char.toLower = urnStart ++ (bare cs).map Char.toLower := by
  cases cs with
  | nil => exact .inl rfl
  | cons c cs =>
    by_cases hc : c = '{'
    · subst hc
      by_cases hlast : cs.getLast? = some '}'
      · obtain ⟨inner, rfl⟩ := List.getLast?_eq_some_iff.mp hlast
        refine .inr (.inl ?_)
        simp [bare]
      · refine .inl ?_
        simp only [bare, hlast, if_false]
    · rw [bare_cons hc]
      split
      · next hstart =>
        refine .inr (.inr ?_)
        calc (c :: cs).map Char.toLower
          _ = ((c :: cs).take urnStart.length ++ (c :: cs).drop urnStart.length).map
                Char.toLower := by rw [List.take_append_drop]
          _ = urnStart ++ ((c :: cs).drop urnStart.length).map Char.toLower := by
            rw [List.map_append, hstart]
      · exact .inl rfl

theorem read?_of_bare {u : Uuid} {cs : List Char} (hlength : cs.length ≠ 32)
    (hbare : bare cs = u.text.toList) : read? (String.ofList cs) = some u := by
  simp only [read?, String.toList_ofList, if_neg hlength, hbare, text,
    readGroups_writeGroups groups u.digits u.sum_groups, Option.bind_some, ofDigits?_eq_some_iff]

/-- Exactly the spellings of an identifier are read as it, with their letters in either case. -/
theorem read?_eq_some_iff {s : String} {u : Uuid} :
    read? s = some u ↔ s.toList.map Char.toLower ∈ u.spellings := by
  have hspellings {cs : List Char} : cs ∈ u.spellings ↔
      cs = u.digits.map digit ∨ cs = u.text.toList ∨ cs = '{' :: u.text.toList ++ ['}'] ∨
        cs = urnStart ++ u.text.toList := by
    simp only [spellings, List.mem_cons, List.not_mem_nil, or_false]
  constructor
  · intro h
    rw [hspellings]
    by_cases hlength : s.toList.length = 32
    · simp only [read?, if_pos hlength, Option.bind_eq_some_iff] at h
      obtain ⟨ds, hds, hu⟩ := h
      exact .inl (ofDigits?_eq_some_iff.mp hu ▸ map_digit_of_mapM_digit? hds)
    · simp only [read?, if_neg hlength, Option.bind_eq_some_iff] at h
      obtain ⟨ds, hds, hu⟩ := h
      have hgrouped : (bare s.toList).map Char.toLower = u.text.toList := by
        rw [writeGroups_of_readGroups hds, ofDigits?_eq_some_iff.mp hu, text, String.toList_ofList]
      refine .inr ?_
      obtain hbare | hbare | hbare := eq_bare s.toList
      · exact .inl ((congrArg (List.map Char.toLower) hbare).trans hgrouped)
      · refine .inr (.inl ?_)
        rw [hbare, List.map_append, List.map_cons, hgrouped]
        rfl
      · exact .inr (.inr (hbare.trans (by rw [hgrouped])))
  · intro h
    -- case does not count, so it is enough to read the spellings themselves
    rw [← read?_toLower]
    obtain h | h | h | h := hspellings.mp h <;> rw [h]
    · simp only [read?, String.toList_ofList, List.length_map, u.length_digits, if_true,
        mapM_digit?_map_digit, Option.bind_some, ofDigits?_eq_some_iff]
    · rw [String.ofList_toList, read?_text]
    · refine read?_of_bare ?_ ?_
      · simp [length_text]
      · simp [bare]
    · refine read?_of_bare ?_ ?_
      · rw [List.length_append, length_text]
        decide
      · rfl

end Http.Uuid

end AggregateGateway
