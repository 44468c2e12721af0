import AggregateGateway.Metrics

/-! What a registry has counted is how often each count was reported to it, and the state that it
shows of a breaker is the one that was reported last. One metric can be left out of it. -/

namespace AggregateGateway.Metrics

theorem lookup_update {κ ν : Type} [BEq κ] [LawfulBEq κ] (key k : κ) (change : ν → ν) (fresh : ν)
    (entries : List (κ × ν)) :
    (update key change fresh entries).lookup k =
      if k == key then some (change ((entries.lookup key).getD fresh)) else entries.lookup k := by
  induction entries with
  | nil => by_cases hk : k = key <;> simp [update, hk]
  | cons entry entries ih =>
    obtain ⟨k', v⟩ := entry
    by_cases hkey : k' = key
    · subst hkey
      cases hk : k == k' <;> simp [update, List.lookup_cons, hk]
    · have hkey' : (key == k') = false := by simpa using Ne.symm hkey
      cases hk : k == k' with
      | true =>
        obtain rfl := LawfulBEq.eq_of_beq hk
        simp [update, hkey]
      | false => simp [update, hkey, List.lookup_cons, hk, hkey', ih]

section Filter

variable {κ ν : Type} [BEq κ] [LawfulBEq κ] (keep : κ → Bool) (key : κ)

theorem filter_update (change : ν → ν) (fresh : ν) (entries : List (κ × ν)) :
    (update key change fresh entries).filter (fun entry => keep entry.1) =
      let kept := entries.filter fun entry => keep entry.1
      if keep key then update key change fresh kept else kept := by
  induction entries with
  | nil => cases hkey : keep key <;> simp [update, hkey]
  | cons entry entries ih =>
    obtain ⟨k, v⟩ := entry
    by_cases hk : k = key
    · subst hk
      cases hkeep : keep k <;> simp [update, hkeep]
    · have hne : (k == key) = false := by simpa using hk
      cases hkeep : keep k <;> cases hkey : keep key <;>
        simp_all [update]

theorem lookup_filter (entries : List (κ × ν)) (hkeep : keep key = true) :
    (entries.filter fun entry => keep entry.1).lookup key = entries.lookup key := by
  induction entries with
  | nil => rfl
  | cons entry entries ih =>
    obtain ⟨k, v⟩ := entry
    by_cases hk : key = k
    · subst hk
      simp [hkeep]
    · have hne : (key == k) = false := by simpa using hk
      cases hkept : keep k <;> simp [hkept, List.lookup_cons, hne, ih]

end Filter

namespace Registry

theorem recordAll_append (r : Registry) (ms later : List Measurement) :
    r.recordAll (ms ++ later) = (r.recordAll ms).recordAll later :=
  List.foldl_append

theorem count_singleton (metric metric' : Metric) (label label' : String) :
    [Measurement.count metric' label'].count (.count metric label) =
      if metric = metric' ∧ label = label' then 1 else 0 := by
  by_cases h : metric = metric' ∧ label = label'
  · obtain ⟨rfl, rfl⟩ := h
    simp
  · have hne : Measurement.count metric' label' ≠ .count metric label := by
      intro heq
      obtain ⟨rfl, rfl⟩ := Measurement.count.inj heq
      exact h ⟨rfl, rfl⟩
    simp [h, hne]

theorem count_record (r : Registry) (m : Measurement) (metric : Metric) (label : String) :
    (r.record m).count metric label =
      r.count metric label + [m].count (.count metric label) := by
  cases m with
  | count metric' label' =>
    by_cases h : metric = metric' ∧ label = label'
    · obtain ⟨rfl, rfl⟩ := h
      simp [count, record, lookup_update]
    · have hkey : ((metric, label) == (metric', label')) = false := by simpa using h
      have hne : Measurement.count metric' label' ≠ .count metric label := by
        rintro heq
        injection heq with hm hl
        exact h ⟨hm.symm, hl.symm⟩
      simp [count, record, lookup_update, hkey, hne]
  | state breaker value => simp [count, record]
  | duration topic nanos => simp [count, record]

theorem count_recordAll (r : Registry) (ms : List Measurement) (metric : Metric)
    (label : String) :
    (r.recordAll ms).count metric label =
      r.count metric label + ms.count (.count metric label) := by
  induction ms generalizing r with
  | nil => rfl
  | cons m ms ih =>
    have hcons : (m :: ms).count (.count metric label) =
        [m].count (.count metric label) + ms.count (.count metric label) := by
      rw [← List.count_append]
      rfl
    change ((r.record m).recordAll ms).count metric label = _
    rw [ih, count_record, hcons, Nat.add_assoc]

theorem state?_record (r : Registry) (m : Measurement) (breaker : String) :
    (r.record m).state? breaker =
      match m with
      | .state reported value => if breaker == reported then some value else r.state? breaker
      | .count .. | .duration .. => r.state? breaker := by
  cases m with
  | state reported value => exact lookup_update reported breaker _ value r.states
  | count metric label => rfl
  | duration topic nanos => rfl

/-! ### All but one metric -/

def without (metric : Metric) (r : Registry) : Registry :=
  { r with counts := r.counts.filter fun entry => entry.1.1 != metric }

theorem without_record_self (r : Registry) (metric : Metric) (label : String) :
    (r.record (.count metric label)).without metric = r.without metric := by
  have hcounts := filter_update (fun key : Metric × String => key.1 != metric) (metric, label)
    (· + 1) 0 r.counts
  rw [if_neg (by simp)] at hcounts
  simp only [record, without, hcounts]

theorem without_record_other {m : Measurement} {metric : Metric}
    (h : ∀ label, m ≠ .count metric label) (r : Registry) :
    (r.record m).without metric = (r.without metric).record m := by
  cases m with
  | count metric' label =>
    have hne : metric' ≠ metric := by
      rintro rfl
      exact h label rfl
    have hcounts := filter_update (fun key : Metric × String => key.1 != metric) (metric', label)
      (· + 1) 0 r.counts
    rw [if_pos (by simpa using hne)] at hcounts
    simp only [record, without, hcounts]
  | state breaker value => rfl
  | duration topic nanos => rfl

theorem without_recordAll_self (r : Registry) {ms : List Measurement} {metric : Metric}
    (h : ∀ m ∈ ms, ∃ label, m = .count metric label) :
    (r.recordAll ms).without metric = r.without metric := by
  induction ms generalizing r with
  | nil => rfl
  | cons m ms ih =>
    obtain ⟨label, rfl⟩ := h m List.mem_cons_self
    have hlater := ih (r.record (.count metric label)) fun m hm => h m (List.mem_cons_of_mem _ hm)
    exact hlater.trans (without_record_self r metric label)

theorem without_recordAll_other (r : Registry) {ms : List Measurement} {metric : Metric}
    (h : ∀ label, ms.count (.count metric label) = 0) :
    (r.recordAll ms).without metric = (r.without metric).recordAll ms := by
  induction ms generalizing r with
  | nil => rfl
  | cons m ms ih =>
    have hfirst : ∀ label, m ≠ .count metric label := by
      rintro label rfl
      exact List.count_eq_zero.mp (h label) List.mem_cons_self
    have hrest : ∀ label, ms.count (.count metric label) = 0 := fun label =>
      List.count_eq_zero.mpr fun hm =>
        List.count_eq_zero.mp (h label) (List.mem_cons_of_mem m hm)
    have hlater := ih (r.record m) hrest
    rw [without_record_other hfirst] at hlater
    exact hlater

theorem without_without (r : Registry) (metric : Metric) :
    (r.without metric).without metric = r.without metric := by
  simp [without]

/-- What was counted before under the metric makes no difference later on. -/
theorem without_recordAll (r : Registry) (ms : List Measurement) (metric : Metric) :
    (r.recordAll ms).without metric = ((r.without metric).recordAll ms).without metric := by
  induction ms generalizing r with
  | nil => exact (r.without_without metric).symm
  | cons m ms ih =>
    have hfirst : (r.record m).without metric = ((r.without metric).record m).without metric := by
      by_cases h : ∃ label, m = .count metric label
      · obtain ⟨label, rfl⟩ := h
        rw [without_record_self, without_record_self, without_without]
      · rw [not_exists] at h
        rw [without_record_other h, without_record_other h, without_without]
    show ((r.record m).recordAll ms).without metric =
      (((r.without metric).record m).recordAll ms).without metric
    rw [ih, hfirst, ← ih]

theorem count_without {metric metric' : Metric} (h : metric' ≠ metric) (r : Registry)
    (label : String) : (r.without metric).count metric' label = r.count metric' label := by
  have hlookup := lookup_filter (fun key : Metric × String => key.1 != metric) (metric', label)
    r.counts (by simpa using h)
  simp only [count, without, hlookup]

end Registry

end AggregateGateway.Metrics
