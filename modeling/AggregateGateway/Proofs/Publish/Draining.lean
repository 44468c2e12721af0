import AggregateGateway.Proofs.Publish.QueuedJobs
import AggregateGateway.Proofs.Publish.Receipts

/-! Draining a pool. While the workers get their turns and the channel deals with what they
publish, every accepted job is finished unless its worker breaks down first. More submissions may
come in meanwhile, or the pool may be closed. -/

namespace AggregateGateway.Publish

variable {β : Type} {publish : Publishing β} {count i : Nat} {t : Traffic β}

/-! ### One turn -/

namespace Traffic

def IsServed (publish : Publishing β) (t : Traffic β) (i : Nat) : Prop :=
  ∀ job, (t.pool.worker i).current = some job → (publish job t.channel).isSome = true

/-- A job makes progress when it is handed to the channel and when the channel has dealt with it. -/
def progress (t : Traffic β) (i : Nat) : Nat :=
  (offeredBy i t.history).length + (finishedBy i t.history).length

theorem progress_mono {u : Traffic β} (h : t.history <+: u.history) (i : Nat) :
    t.progress i ≤ u.progress i := by
  have ho : offeredBy i t.history <+: offeredBy i u.history := ((h.filterMap _).filter _).map _
  have hf : finishedBy i t.history <+: finishedBy i u.history := h.filterMap _
  exact Nat.add_le_add ho.length_le hf.length_le

theorem step_work_ne {k : Work β} (hi : i < t.pool.workers.length)
    (hk : (t.work i).step publish = some k) : t.step publish (.work i) ≠ t := by
  intro he
  have hlt := Work.movesLeft_step hk
  have hput := work_put k (t.history ++ (t.pool.worker i).occurrences publish i t.channel) hi
  rw [← step_work_some hk, he] at hput
  rw [hput] at hlt
  exact Nat.lt_irrefl _ hlt

end Traffic

theorem Traffic.progress_turn (hw : (t.pool.worker i).isAlive = true)
    (hheld : (t.pool.worker i).held ≠ []) (hserved : t.IsServed publish i) :
    let u := t.step publish (.work i)
    (u.pool.worker i).isAlive = false ∨ u.progress i = t.progress i + 1 := by
  intro u
  have hi : i < t.pool.workers.length := Pool.lt_of_alive hw
  have hmoves : ∃ k, (t.work i).step publish = some k := by
    cases hk : (t.work i).step publish with
    | some k => exact ⟨k, rfl⟩
    | none =>
      rcases Work.stopped hk with hdead | ⟨hqueue, hcurrent⟩ | ⟨job, hc, hp⟩
      · exact absurd (hw.symm.trans hdead) Bool.noConfusion
      · have hidle : (t.pool.worker i).current.toList ++ (t.pool.worker i).queue = [] := by
          rw [show (t.pool.worker i).current = none from hcurrent,
            show (t.pool.worker i).queue = [] from hqueue]
          rfl
        exact absurd hidle hheld
      · have hsome := hserved job hc
        rw [show publish job t.channel = none from hp] at hsome
        exact absurd hsome Bool.false_ne_true
  obtain ⟨k, hk⟩ := hmoves
  rcases t.work_cases publish i with he | ⟨job, queue, -, he⟩ | ⟨job, v, channel, hc, -, he⟩
  · exact absurd he (Traffic.step_work_ne hi hk)
  · right
    have ho : offeredBy i [.offered i job] = [job] := by simp [offeredBy, offered]
    have hf : finishedBy i [.offered i job] = [] := rfl
    simp only [u, he, Traffic.progress, offeredBy_append, finishedBy_append, ho, hf,
      List.length_append, List.length_singleton, List.length_nil]
    omega
  · by_cases hv : v = .crashed
    · left
      simp only [u, he, Pool.worker_setWorker_self _ hi, hv, Worker.settle]
    · right
      have ho : offeredBy i [.settled i job v] = [] := rfl
      have hf : finishedBy i [.settled i job v] = [job] := by simp [finishedBy, hv]
      simp only [u, he, Traffic.progress, offeredBy_append, finishedBy_append, ho, hf,
        List.length_append, List.length_singleton, List.length_nil]
      omega

/-! ### What is known at any time -/

structure Traffic.Sound (count : Nat) (t : Traffic β) : Prop where
  ordered : Ordered count t
  answered : Answered count t
  receipted : Receipted (fun _ => True) t

namespace Traffic.Sound

theorem start (s : Sizing) (channel : β) : Sound s.workerCount (.start s channel) :=
  ⟨.start s channel, .start s channel, .start s channel⟩

theorem step (h : Sound count t) (a : Action β) : Sound count (t.step publish a) :=
  ⟨h.ordered.step a, h.answered.step h.ordered a,
    h.receipted.step h.ordered h.answered fun _ _ => trivial⟩

theorem offered_once (h : Sound count t) {job : Job} (hj : job ∈ offeredBy i t.history) :
    ((offered t.history).map Prod.snd).count job = 1 := by
  have haccepted := (h.ordered.inOrder i).offered_isPrefix.subset hj
  have hshard : ∀ j ∈ [job], Pool.shardOf count j.message.key = i := by
    intro j hmem
    rw [List.mem_singleton.mp hmem]
    exact (mem_acceptedFor.mp haccepted).2
  have hnodup : (offeredBy i t.history).Nodup :=
    (h.answered.acceptedFor_nodup i).sublist (h.ordered.inOrder i).offered_isPrefix.sublist
  calc ((offered t.history).map Prod.snd).count job
      = (offeredOf [job] t.history).count job := (List.count_filter (by simp)).symm
    _ = ((offeredBy i t.history).filter (· ∈ [job])).count job := by
      rw [h.ordered.offeredOf_eq hshard]
    _ = (offeredBy i t.history).count job := List.count_filter (by simp)
    _ = 1 := List.count_eq_one_of_mem hnodup hj

theorem offered_of_finished (h : Sound count t) (hw : (t.pool.worker i).isAlive = true) {job : Job}
    (hj : job ∈ finishedBy i t.history) : job ∈ offeredBy i t.history := by
  rw [(h.ordered.inOrder i).offered_eq hw]
  exact List.mem_append_left _ hj

/-- A submission that its worker no longer holds has one answer. -/
theorem resolved (h : Sound count t) {job : Job} (hj : job ∈ accepted t.history)
    (hheld : job ∉ (t.pool.worker (Pool.shardOf count job.message.key)).held) :
    ∃! r, ⟨job.number, r⟩ ∈ t.acknowledgements := by
  have hshard : job ∈ acceptedFor count (Pool.shardOf count job.message.key) t.history :=
    mem_acceptedFor.mpr ⟨hj, rfl⟩
  obtain ⟨r, hr⟩ := (Answered.held_or_fate h.ordered hshard).resolve_left hheld
  have hanswer := h.answered.answer_of_fate hshard hr
  refine ⟨r, hanswer, ?_⟩
  intro r' hr'
  have hsame := h.answered.find?_eq_some_iff.mpr hr'
  rw [h.answered.find?_eq_some_iff.mpr hanswer] at hsame
  simpa using hsame.symm

theorem not_held_of_finished (h : Sound count t) (hw : (t.pool.worker i).isAlive = true) {job : Job}
    (hj : job ∈ finishedBy i t.history) : job ∉ (t.pool.worker i).held := by
  have hnodup := h.answered.acceptedFor_nodup i
  rw [h.ordered.accepted_eq_finished_held hw] at hnodup
  obtain ⟨-, -, hdisjoint⟩ := List.nodup_append.mp hnodup
  exact fun hheld => hdisjoint job hj job hheld rfl

theorem not_held_of_dead (h : Sound count t) (hw : (t.pool.worker i).isAlive = false) (job : Job) :
    job ∉ (t.pool.worker i).held := by
  rw [(h.ordered.inOrder i).dead hw]
  exact List.not_mem_nil

end Traffic.Sound

/-! ### A course of events -/

/-- The state of a pool moment by moment. At each moment something happens to it or nothing; each
worker gets turns again and again, for as long as it is alive, at which the channel deals with what
it publishes. -/
structure Course (publish : Publishing β) (σ : Nat → Traffic β) : Prop where
  next : ∀ n, σ (n + 1) = σ n ∨ ∃ a, σ (n + 1) = (σ n).step publish a
  turn : ∀ i n, ∃ m, n ≤ m ∧ (((σ m).pool.worker i).isAlive = false ∨
    σ (m + 1) = (σ m).step publish (.work i) ∧ (σ m).IsServed publish i)

namespace Course

variable {σ : Nat → Traffic β}

theorem kept (h : Course publish σ) {P : Traffic β → Prop}
    (step : ∀ t a, P t → P (t.step publish a)) {n m : Nat} (hnm : n ≤ m) (hn : P (σ n)) :
    P (σ m) := by
  induction m, hnm using Nat.le_induction with
  | base => exact hn
  | succ m _ ih =>
    rcases h.next m with he | ⟨a, he⟩
    · exact he ▸ ih
    · exact he ▸ step (σ m) a ih

theorem history_isPrefix (h : Course publish σ) {n m : Nat} (hnm : n ≤ m) :
    (σ n).history <+: (σ m).history :=
  h.kept (P := fun t => (σ n).history <+: t.history)
    (fun t a ht => ht.trans (t.history_isPrefix_step a)) hnm List.prefix_rfl

theorem acceptedFor_isPrefix (h : Course publish σ) (count i : Nat) {n m : Nat} (hnm : n ≤ m) :
    acceptedFor count i (σ n).history <+: acceptedFor count i (σ m).history :=
  ((h.history_isPrefix hnm).filterMap _).filter _

theorem finishes_many (h : Course publish σ) (ho : ∀ n, Ordered count (σ n)) (i n goal : Nat)
    (hgoal : goal ≤ (acceptedFor count i (σ n).history).length) :
    ∃ m, n ≤ m ∧ (((σ m).pool.worker i).isAlive = false ∨
      goal ≤ (finishedBy i (σ m).history).length) := by
  -- two steps of progress for each job that is to be finished
  generalize hd : 2 * goal - (σ n).progress i = remaining
  induction remaining using Nat.strongRecOn generalizing n with
  | ind remaining ih =>
    obtain ⟨m, hnm, hdead | ⟨hturn, hserved⟩⟩ := h.turn i n
    · exact ⟨m, hnm, .inl hdead⟩
    cases hw : ((σ m).pool.worker i).isAlive with
    | false => exact ⟨m, hnm, .inl hw⟩
    | true =>
      by_cases hdone : goal ≤ (finishedBy i (σ m).history).length
      · exact ⟨m, hnm, .inr hdone⟩
      have hmore := (h.acceptedFor_isPrefix count i hnm).length_le
      have hsplit := congrArg List.length ((ho m).accepted_eq_finished_held hw)
      have hheld : ((σ m).pool.worker i).held ≠ [] := by
        intro hnil
        simp only [hnil, List.append_nil] at hsplit
        omega
      have hearlier := Traffic.progress_mono (h.history_isPrefix hnm) i
      rcases Traffic.progress_turn hw hheld hserved with hdead | hprogress
      · exact ⟨m + 1, by omega, .inl (hturn ▸ hdead)⟩
      rw [← hturn] at hprogress
      -- a living worker has offered at most one job more than it has finished
      have hoffered := congrArg List.length (((ho m).inOrder i).offered_eq hw)
      have hless : 2 * goal - (σ (m + 1)).progress i < remaining := by
        have hone : ((σ m).pool.worker i).current.toList.length ≤ 1 := by
          cases ((σ m).pool.worker i).current <;> simp
        simp only [List.length_append] at hoffered
        simp only [Traffic.progress] at hd hearlier hprogress ⊢
        omega
      have hgoal' : goal ≤ (acceptedFor count i (σ (m + 1)).history).length :=
        hgoal.trans (h.acceptedFor_isPrefix count i (by omega)).length_le
      obtain ⟨l, hl, hdone⟩ := ih _ hless (m + 1) hgoal' rfl
      exact ⟨l, by omega, hdone⟩

/-- Whatever a worker has been given it finishes in the end, if it does not break down. -/
theorem finishes (h : Course publish σ) (ho : ∀ n, Ordered count (σ n)) (i n : Nat) :
    ∃ m, n ≤ m ∧ (((σ m).pool.worker i).isAlive = false ∨
      acceptedFor count i (σ n).history <+: finishedBy i (σ m).history) := by
  obtain ⟨m, hnm, hm⟩ := h.finishes_many ho i n _ (Nat.le_refl _)
  refine ⟨m, hnm, ?_⟩
  cases hw : ((σ m).pool.worker i).isAlive with
  | false => exact .inl rfl
  | true =>
    have hlong := hm.resolve_left (by simp [hw])
    have hfinished : finishedBy i (σ m).history <+: acceptedFor count i (σ m).history :=
      ⟨_, ((ho m).accepted_eq_finished_held hw).symm⟩
    exact .inr (List.prefix_of_prefix_length_le (h.acceptedFor_isPrefix count i hnm) hfinished
      hlong)

/-- No accepted job is lost while the workers get their turns: unless its worker breaks down it is
handed to the channel once and dealt with, and either way the submission is answered. -/
theorem delivers (h : Course publish σ) (hs : (σ 0).Sound count) (n : Nat) {job : Job}
    (hj : job ∈ accepted (σ n).history) :
    ∃ m, n ≤ m ∧
      (((σ m).pool.worker (Pool.shardOf count job.message.key)).isAlive = false ∨
        job ∈ finishedBy (Pool.shardOf count job.message.key) (σ m).history ∧
        ((offered (σ m).history).map Prod.snd).count job = 1) ∧
      ∃! r, ⟨job.number, r⟩ ∈ (σ m).acknowledgements := by
  have hsound (m : Nat) : (σ m).Sound count := h.kept (fun _ a ht => ht.step a) (Nat.zero_le m) hs
  obtain ⟨m, hnm, hm⟩ := h.finishes (fun k => (hsound k).ordered)
    (Pool.shardOf count job.message.key) n
  have hjm : job ∈ accepted (σ m).history :=
    ((h.history_isPrefix hnm).filterMap _).subset hj
  cases hw : ((σ m).pool.worker (Pool.shardOf count job.message.key)).isAlive with
  | false =>
    have hheld := (hsound m).not_held_of_dead hw job
    exact ⟨m, hnm, .inl hw, (hsound m).resolved hjm hheld⟩
  | true =>
    have hall := hm.resolve_left (by simp [hw])
    have hfinished := hall.subset (mem_acceptedFor.mpr ⟨hj, rfl⟩)
    have hoffered := (hsound m).offered_of_finished hw hfinished
    have hheld := (hsound m).not_held_of_finished hw hfinished
    exact ⟨m, hnm, .inr ⟨hfinished, (hsound m).offered_once hoffered⟩,
      (hsound m).resolved hjm hheld⟩

end Course

/-! ### A pool that has nothing left to do -/

/-- Every job of a worker that has not broken down was handed to the channel once and dealt with;
any worker has offered its jobs in order, and the receipts that are held are answered. -/
structure Traffic.Drained (count : Nat) (t : Traffic β) : Prop where
  once : ∀ job ∈ accepted t.history,
    (t.pool.worker (Pool.shardOf count job.message.key)).isAlive = true →
      ((offered t.history).map Prod.snd).count job = 1
  inOrder : ∀ i, offeredBy i t.history <+: acceptedFor count i t.history
  finished : ∀ i, (t.pool.worker i).isAlive = true →
    (t.pool.worker i).held = [] ∧ offeredBy i t.history = acceptedFor count i t.history ∧
      finishedBy i t.history = acceptedFor count i t.history
  resolved : ∀ n ∈ t.receipts, ∃! r, ⟨n, r⟩ ∈ t.acknowledgements

theorem Traffic.Sound.drained (h : t.Sound count) (hheld : ∀ i, (t.pool.worker i).held = []) :
    t.Drained count := by
  have hfinished (i : Nat) (hw : (t.pool.worker i).isAlive = true) :
      finishedBy i t.history = acceptedFor count i t.history := by
    rw [h.ordered.accepted_eq_finished_held hw, hheld i, List.append_nil]
  have hoffered (i : Nat) (hw : (t.pool.worker i).isAlive = true) :
      offeredBy i t.history = acceptedFor count i t.history := by
    have hcurrent := (List.append_eq_nil_iff.mp (hheld i)).1
    rw [(h.ordered.inOrder i).offered_eq hw, hcurrent, List.append_nil, hfinished i hw]
  refine ⟨?_, fun i => (h.ordered.inOrder i).offered_isPrefix,
    fun i hw => ⟨hheld i, hoffered i hw, hfinished i hw⟩, ?_⟩
  · intro job hj hw
    apply h.offered_once
    rw [hoffered _ hw]
    exact mem_acceptedFor.mpr ⟨hj, rfl⟩
  · intro n hn
    obtain ⟨job, hj, rfl⟩ := List.mem_map.mp (h.receipted.receipt n hn)
    exact h.resolved hj (by simp [hheld])

end AggregateGateway.Publish
