import AggregateGateway.Proofs.Publish.Draining
import Mathlib.Data.List.TakeWhile

/-! Shutting a publish pool down. The pool belongs to the publishers that have a handle to it, and
the states of a service share one publisher. A publisher that is shut down gives its handle back;
if that was the last one, the pool is closed and the end of its workers is awaited, one after the
other. -/

namespace AggregateGateway.Publish

variable {β : Type} {publish : Publishing β} {count i : Nat}

namespace Traffic

def closed (t : Traffic β) : Traffic β := { t with isOpen := false }

/-- A worker ends by breaking down, or when the pool is closed and it has nothing left to do. -/
def hasEnded (t : Traffic β) (i : Nat) : Bool :=
  !(t.pool.worker i).isAlive || (!t.isOpen && (t.pool.worker i).held.isEmpty)

end Traffic

structure Shared (β : Type) where
  traffic : Traffic β
  /-- The publishers outside the states of the service. -/
  publishers : Nat
  states : Nat
  /-- The workers whose end is still awaited, if the pool is being shut down. -/
  awaited : Option (List Nat)

inductive Shared.Deed (β : Type) where
  /-- Something happens to the pool, which does not close by itself. -/
  | act (a : Action β)
  | clonePublisher
  | dropPublisher
  | cloneState
  | dropState
  | shutDown
  /-- The service is shut down: its state is dropped and its publisher shut down. -/
  | shutDownService
  /-- Whoever shuts the pool down looks whether the worker that is awaited has ended. -/
  | await

namespace Shared

def handles (h : Shared β) : Nat :=
  h.publishers + if h.states = 0 then 0 else 1

/-- A service as it is put together: a state and a publisher of its own. -/
def start (s : Sizing) (channel : β) : Shared β :=
  ⟨.start s channel, 1, 1, none⟩

def letGo (h : Shared β) : Shared β :=
  if h.handles = 0 then { h with traffic := h.traffic.closed } else h

def dropState (h : Shared β) : Shared β :=
  if h.states = 0 then h else letGo { h with states := h.states - 1 }

def shutDown (h : Shared β) : Shared β :=
  if h.publishers = 0 then h
  else
    let rest := { h with publishers := h.publishers - 1 }
    if rest.handles = 0 then
      { rest with
        traffic := h.traffic.closed
        awaited := some (List.range h.traffic.pool.workers.length) }
    else rest

def step (publish : Publishing β) (h : Shared β) : Deed β → Shared β
  | .act .close => h
  | .act a => { h with traffic := h.traffic.step publish a }
  | .clonePublisher => if h.handles = 0 then h else { h with publishers := h.publishers + 1 }
  | .dropPublisher =>
    if h.publishers = 0 then h else letGo { h with publishers := h.publishers - 1 }
  | .cloneState => if h.states = 0 then h else { h with states := h.states + 1 }
  | .dropState => h.dropState
  | .shutDown => h.shutDown
  | .shutDownService => if h.states = 0 ∨ h.publishers = 0 then h else h.dropState.shutDown
  | .await => { h with awaited := h.awaited.map (List.dropWhile h.traffic.hasEnded) }

def run (publish : Publishing β) (h : Shared β) (deeds : List (Deed β)) : Shared β :=
  deeds.foldl (step publish) h

def after (publish : Publishing β) (h : Shared β) (later : Nat → Deed β) : Nat → Shared β
  | 0 => h
  | n + 1 => (h.after publish later n).step publish (later n)

/-- Each living worker gets a turn again and again at which the channel deals with what it
publishes, be it by an answer or by breaking the worker; and whoever shuts the pool down looks
again and again. -/
structure Fair (publish : Publishing β) (h : Shared β) (later : Nat → Deed β) : Prop where
  turn : ∀ i n, ∃ m, n ≤ m ∧
    (((h.after publish later m).traffic.pool.worker i).isAlive = false ∨
      later m = .act (.work i) ∧ (h.after publish later m).traffic.IsServed publish i)
  await : ∀ n, ∃ m, n ≤ m ∧ later m = .await

/-! ### What a deed does to the pool -/

theorem letGo_of_handles {h : Shared β} (hh : h.handles ≠ 0) : h.letGo = h :=
  if_neg hh

theorem handles_ne_zero {h : Shared β} (hp : h.publishers ≠ 0) : h.handles ≠ 0 := by
  unfold handles
  omega

theorem dropState_eq {h : Shared β} (hs : h.states ≠ 0) (hp : h.publishers ≠ 0) :
    h.dropState = { h with states := h.states - 1 } := by
  rw [dropState, if_neg hs]
  exact letGo_of_handles (handles_ne_zero hp)

theorem shutDown_last {h : Shared β} (hp : h.publishers ≠ 0) (hh : h.handles = 1) :
    h.shutDown = { h with
      publishers := 0
      traffic := h.traffic.closed
      awaited := some (List.range h.traffic.pool.workers.length) } := by
  have hone : h.publishers - 1 = 0 := by
    unfold handles at hh
    omega
  have hrest : ({ h with publishers := h.publishers - 1 } : Shared β).handles = 0 := by
    unfold handles at hh ⊢
    simp only
    omega
  simp only [shutDown, if_neg hp, if_pos hrest]
  rw [hone]

theorem shutDown_shared {h : Shared β} (hp : h.publishers ≠ 0) (hh : 1 < h.handles) :
    h.shutDown = { h with publishers := h.publishers - 1 } := by
  have hrest : ({ h with publishers := h.publishers - 1 } : Shared β).handles ≠ 0 := by
    unfold handles at hh ⊢
    simp only
    omega
  simp only [shutDown, if_neg hp, if_neg hrest]

theorem shutDownService_eq {h : Shared β} (hs : h.states ≠ 0) (hp : h.publishers ≠ 0) :
    h.step publish .shutDownService = { h with states := h.states - 1 }.shutDown := by
  have hboth : ¬ (h.states = 0 ∨ h.publishers = 0) := by simp [hs, hp]
  simp only [step, if_neg hboth, dropState_eq hs hp]

theorem step_act (publish : Publishing β) (h : Shared β) {a : Action β} (ha : a ≠ .close) :
    h.step publish (.act a) = { h with traffic := h.traffic.step publish a } := by
  cases a with
  | close => exact absurd rfl ha
  | submit | work | shift | drop => rfl

theorem traffic_letGo (h : Shared β) :
    h.letGo.traffic = h.traffic ∨ h.letGo.traffic = h.traffic.closed := by
  unfold letGo
  split
  · exact .inr rfl
  · exact .inl rfl

theorem traffic_shutDown (h : Shared β) :
    h.shutDown.traffic = h.traffic ∨ h.shutDown.traffic = h.traffic.closed := by
  simp only [shutDown]
  split
  · exact .inl rfl
  · split
    · exact .inr rfl
    · exact .inl rfl

/-- A deed makes at most one thing happen to the pool. -/
theorem traffic_step (publish : Publishing β) (h : Shared β) (d : Deed β) :
    (h.step publish d).traffic = h.traffic ∨
      ∃ a, (h.step publish d).traffic = h.traffic.step publish a := by
  have hclosed : h.traffic.closed = h.traffic.step publish .close := rfl
  cases d with
  | act a =>
    by_cases ha : a = .close
    · exact .inl (by rw [ha]; rfl)
    · exact .inr ⟨a, by rw [step_act publish h ha]⟩
  | clonePublisher | cloneState =>
    simp only [step]
    split <;> exact .inl rfl
  | dropPublisher =>
    simp only [step]
    split
    · exact .inl rfl
    · exact (traffic_letGo _).imp_right fun he => ⟨.close, he⟩
  | dropState =>
    simp only [step, dropState]
    split
    · exact .inl rfl
    · exact (traffic_letGo _).imp_right fun he => ⟨.close, he⟩
  | shutDown => exact (traffic_shutDown h).imp_right fun he => ⟨.close, he⟩
  | shutDownService =>
    by_cases hboth : h.states = 0 ∨ h.publishers = 0
    · simp only [step, if_pos hboth, true_or]
    · rw [not_or] at hboth
      rw [shutDownService_eq hboth.1 hboth.2]
      exact (traffic_shutDown _).imp_right fun he => ⟨.close, he⟩
  | await => exact .inl rfl

end Shared

/-! ### The end of a worker is final -/

namespace Traffic

variable {t : Traffic β}

theorem Sound.close (h : t.Sound count) : t.closed.Sound count := by
  have hstep : (t.step (fun _ _ => none) .close).Sound count := h.step .close
  exact hstep

theorem closed_step (hc : t.isOpen = false) (a : Action β) :
    (t.step publish a).isOpen = false ∧
      accepted (t.step publish a).history = accepted t.history := by
  cases a with
  | submit topic m =>
    simp only [step, hc, Bool.false_eq_true, if_false]
    exact ⟨trivial, trivial⟩
  | work i =>
    rcases t.work_cases publish i with he | ⟨job, queue, -, he⟩ | ⟨job, v, channel, -, -, he⟩
    · rw [he]
      exact ⟨hc, rfl⟩
    · rw [he]
      exact ⟨hc, by simp [accepted]⟩
    · rw [he]
      exact ⟨hc, by simp [accepted]⟩
  | shift channel => exact ⟨hc, rfl⟩
  | drop n => exact ⟨hc, rfl⟩
  | close => exact ⟨rfl, rfl⟩

theorem isOpen_step {a : Action β} (ha : a ≠ .close) :
    (t.step publish a).isOpen = t.isOpen := by
  cases a with
  | submit topic m =>
    simp only [step]
    split <;> rfl
  | work i =>
    rcases t.work_cases publish i with he | ⟨job, queue, -, he⟩ | ⟨job, v, channel, -, -, he⟩ <;>
      rw [he]
  | shift channel => rfl
  | drop n => rfl
  | close => exact absurd rfl ha

theorem hasEnded_iff {i : Nat} : t.hasEnded i = true ↔
    (t.pool.worker i).isAlive = false ∨ t.isOpen = false ∧ (t.pool.worker i).held = [] := by
  simp [hasEnded]

theorem held_step (hc : t.isOpen = false) (hheld : (t.pool.worker i).held = []) (a : Action β) :
    ((t.step publish a).pool.worker i).held = [] := by
  cases a with
  | submit topic m =>
    simp only [step, hc, Bool.false_eq_true, if_false]
    exact hheld
  | work j =>
    rcases t.work_cases publish j with he | ⟨job, queue, hw, he⟩ | ⟨job, v, channel, hcur, -, he⟩
    · rw [he]
      exact hheld
    · have hj : j ≠ i := by
        rintro rfl
        simp [Worker.held, hw] at hheld
      rw [he, Pool.worker_setWorker_other _ _ hj]
      exact hheld
    · have hj : j ≠ i := by
        rintro rfl
        simp [Worker.held, hcur] at hheld
      rw [he, Pool.worker_setWorker_other _ _ hj]
      exact hheld
  | shift channel => exact hheld
  | drop n => exact hheld
  | close => exact hheld

theorem hasEnded_step (ho : Ordered count t) (h : t.hasEnded i = true) (a : Action β) :
    (t.step publish a).hasEnded i = true := by
  rw [hasEnded_iff] at h ⊢
  rcases h with hdead | ⟨hc, hheld⟩
  · have hstill : (t.step publish a).pool.worker i = ⟨[], none, false⟩ :=
      (Ordered.dead_step ((ho.inOrder i).dead hdead) a).1
    exact .inl (by rw [hstill])
  · exact .inr ⟨(closed_step hc a).1, held_step hc hheld a⟩

theorem Sound.held_of_ended (h : t.Sound count) (he : t.hasEnded i = true) :
    (t.pool.worker i).held = [] := by
  rcases hasEnded_iff.mp he with hdead | ⟨-, hheld⟩
  · rw [(h.ordered.inOrder i).dead hdead]
    rfl
  · exact hheld

end Traffic

/-! ### What is known at any time -/

namespace Shared

/-- The pool is open as long as it has a handle, and whoever shuts it down still waits for every
worker that has not ended. -/
structure Kept (count : Nat) (h : Shared β) : Prop where
  sound : h.traffic.Sound count
  isOpen : h.traffic.isOpen = true ↔ h.handles ≠ 0
  awaited : ∀ l, h.awaited = some l →
    h.traffic.isOpen = false ∧ ∀ i, i ∉ l → h.traffic.hasEnded i = true

namespace Kept

variable {h : Shared β}

theorem start (s : Sizing) (channel : β) : Kept s.workerCount (.start s channel) where
  sound := .start s channel
  isOpen := ⟨fun _ => by simp [Shared.start, handles], fun _ => rfl⟩
  awaited := nofun

theorem not_awaited (k : Kept count h) (ho : h.handles ≠ 0) : h.awaited = none := by
  have hopen := k.isOpen.mpr ho
  cases ha : h.awaited with
  | none => rfl
  | some l => exact absurd (hopen.symm.trans (k.awaited l ha).1) Bool.noConfusion

theorem without_handles (k : Kept count h) {l : List Nat} (ha : h.awaited = some l) :
    h.publishers = 0 ∧ h.states = 0 := by
  have hno : ¬ h.handles ≠ 0 := by
    rw [← k.isOpen, (k.awaited l ha).1]
    exact Bool.false_ne_true
  unfold handles at hno
  by_cases hs : h.states = 0
  · simp only [hs, if_true] at hno
    omega
  · simp only [hs, if_false] at hno
    omega

theorem regroup (k : Kept count h) {h' : Shared β} (ht : h'.traffic = h.traffic)
    (ha : h'.awaited = h.awaited) (hh : h'.handles ≠ 0 ↔ h.handles ≠ 0) : Kept count h' := by
  refine ⟨?_, ?_, ?_⟩
  · rw [ht]
    exact k.sound
  · rw [ht, hh]
    exact k.isOpen
  · rw [ht, ha]
    exact k.awaited

theorem letGo (k : Kept count h) {h' : Shared β} (ht : h'.traffic = h.traffic)
    (ha : h'.awaited = h.awaited) (hh : h.handles ≠ 0) : Kept count h'.letGo := by
  by_cases hh' : h'.handles = 0
  · have hnone := k.not_awaited hh
    rw [Shared.letGo, if_pos hh']
    refine ⟨?_, ?_, ?_⟩
    · rw [ht]
      exact k.sound.close
    · exact ⟨fun hopen => absurd hopen Bool.false_ne_true, fun hne => absurd hh' hne⟩
    · intro l hl
      rw [show h'.awaited = some l from hl] at ha
      exact absurd (ha.trans hnone) nofun
  · rw [letGo_of_handles hh']
    exact k.regroup ht ha ⟨fun _ => hh, fun _ => hh'⟩

theorem dropState (k : Kept count h) : Kept count h.dropState := by
  by_cases hs : h.states = 0
  · rw [Shared.dropState, if_pos hs]
    exact k
  · have hh : h.handles ≠ 0 := by simp [handles, hs]
    rw [Shared.dropState, if_neg hs]
    exact k.letGo rfl rfl hh

theorem shutDown (k : Kept count h) : Kept count h.shutDown := by
  by_cases hp : h.publishers = 0
  · rw [Shared.shutDown, if_pos hp]
    exact k
  by_cases hh : h.handles = 1
  · have hstates : h.states = 0 := by
      unfold handles at hh
      by_contra hs
      simp only [hs, if_false] at hh
      omega
    rw [shutDown_last hp hh]
    refine ⟨k.sound.close, ?_, ?_⟩
    · simp [handles, hstates, Traffic.closed]
    · rintro l hl
      obtain rfl : List.range h.traffic.pool.workers.length = l := Option.some.inj hl
      refine ⟨rfl, ?_⟩
      intro i hi
      rw [List.mem_range, Nat.not_lt] at hi
      exact Traffic.hasEnded_iff.mpr
        (.inl (by simp [Traffic.closed, Pool.worker, List.getElem?_eq_none hi]))
  · have hmore : 1 < h.handles := by
      have hne := handles_ne_zero hp
      omega
    rw [shutDown_shared hp hmore]
    refine k.regroup rfl rfl ⟨fun _ => handles_ne_zero hp, fun _ => ?_⟩
    unfold handles at hmore ⊢
    simp only
    omega

theorem step (k : Kept count h) (d : Deed β) : Kept count (h.step publish d) := by
  cases d with
  | act a =>
    by_cases ha : a = .close
    · rw [ha]
      exact k
    · rw [step_act publish h ha]
      refine ⟨k.sound.step a, ?_, ?_⟩
      · simp only [Traffic.isOpen_step ha]
        exact k.isOpen
      · intro l hl
        obtain ⟨hc, hended⟩ := k.awaited l hl
        exact ⟨(Traffic.closed_step hc a).1,
          fun i hi => Traffic.hasEnded_step k.sound.ordered (hended i hi) a⟩
  | clonePublisher =>
    by_cases hh : h.handles = 0
    · rw [Shared.step, if_pos hh]
      exact k
    · rw [Shared.step, if_neg hh]
      exact k.regroup rfl rfl ⟨fun _ => hh, fun _ => by simp [handles]⟩
  | dropPublisher =>
    by_cases hp : h.publishers = 0
    · rw [Shared.step, if_pos hp]
      exact k
    · rw [Shared.step, if_neg hp]
      exact k.letGo rfl rfl (handles_ne_zero hp)
  | cloneState =>
    by_cases hs : h.states = 0
    · rw [Shared.step, if_pos hs]
      exact k
    · rw [Shared.step, if_neg hs]
      exact k.regroup rfl rfl (by simp [handles, hs])
  | dropState => exact k.dropState
  | shutDown => exact k.shutDown
  | shutDownService =>
    by_cases hboth : h.states = 0 ∨ h.publishers = 0
    · rw [Shared.step, if_pos hboth]
      exact k
    · rw [Shared.step, if_neg hboth]
      exact k.dropState.shutDown
  | await =>
    refine ⟨k.sound, k.isOpen, ?_⟩
    intro l hl
    obtain ⟨l', hl', rfl⟩ := Option.map_eq_some_iff.mp hl
    obtain ⟨hc, hended⟩ := k.awaited l' hl'
    refine ⟨hc, ?_⟩
    intro i hi
    by_cases hmem : i ∈ l'
    · rw [← List.takeWhile_append_dropWhile (p := h.traffic.hasEnded) (l := l'),
        List.mem_append] at hmem
      exact List.mem_takeWhile_imp (hmem.resolve_right hi)
    · exact hended i hmem

theorem run (k : Kept count h) (deeds : List (Deed β)) : Kept count (h.run publish deeds) :=
  List.foldlRecOn deeds _ k fun _ k' d _ => k'.step d

theorem after (k : Kept count h) (publish : Publishing β) (later : Nat → Deed β) (n : Nat) :
    Kept count (h.after publish later n) := by
  induction n with
  | zero => exact k
  | succ n ih => exact ih.step (later n)

/-- When the wait is over, no worker holds anything. -/
theorem drained (k : Kept count h) (ha : h.awaited = some []) : h.traffic.Drained count :=
  k.sound.drained fun i => k.sound.held_of_ended ((k.awaited [] ha).2 i List.not_mem_nil)

end Kept

/-! ### The wait comes to its end -/

variable {h : Shared β} {later : Nat → Deed β}

theorem Fair.course (hf : Fair publish h later) :
    Course publish fun n => (h.after publish later n).traffic where
  next n := traffic_step publish _ _
  turn i n := by
    obtain ⟨m, hnm, hdead | ⟨hwork, hserved⟩⟩ := hf.turn i n
    · exact ⟨m, hnm, .inl hdead⟩
    · refine ⟨m, hnm, .inr ⟨?_, hserved⟩⟩
      simp only [after, hwork]
      rfl

theorem Kept.ends (k : Kept count h) (hf : Fair publish h later) {n : Nat}
    (hc : (h.after publish later n).traffic.isOpen = false) (i : Nat) :
    ∃ m, n ≤ m ∧ (h.after publish later m).traffic.hasEnded i = true := by
  have hsound (m : Nat) := (k.after publish later m).sound
  obtain ⟨m, hnm, hm⟩ := hf.course.finishes (fun m => (hsound m).ordered) i n
  obtain ⟨hcm, haccepted⟩ : (h.after publish later m).traffic.isOpen = false ∧
      accepted (h.after publish later m).traffic.history =
        accepted (h.after publish later n).traffic.history :=
    hf.course.kept (P := fun t : Traffic β => t.isOpen = false ∧
        accepted t.history = accepted (h.after publish later n).traffic.history)
      (fun t a ⟨ht, he⟩ => ⟨(Traffic.closed_step ht a).1, (Traffic.closed_step ht a).2.trans he⟩)
      hnm ⟨hc, rfl⟩
  refine ⟨m, hnm, Traffic.hasEnded_iff.mpr ?_⟩
  cases hw : ((h.after publish later m).traffic.pool.worker i).isAlive with
  | false => exact .inl rfl
  | true =>
    -- all that the worker was ever given is finished, so that it holds nothing
    obtain ⟨rest, hrest⟩ := hm.resolve_left (by simp [hw])
    have hsplit := (hsound m).ordered.accepted_eq_finished_held hw
    rw [acceptedFor, haccepted, ← acceptedFor, ← hrest, List.append_assoc] at hsplit
    have hnil := List.self_eq_append_right.mp hsplit
    exact .inr ⟨hcm, (List.append_eq_nil_iff.mp hnil).2⟩

theorem Kept.hasEnded_after (k : Kept count h) (hf : Fair publish h later) {n m : Nat}
    (hnm : n ≤ m) (he : (h.after publish later n).traffic.hasEnded i = true) :
    (h.after publish later m).traffic.hasEnded i = true := by
  have hkept : Ordered count (h.after publish later m).traffic ∧
      (h.after publish later m).traffic.hasEnded i = true :=
    hf.course.kept (P := fun t : Traffic β => Ordered count t ∧ t.hasEnded i = true)
      (fun t a ⟨ho, ht⟩ => ⟨ho.step a, Traffic.hasEnded_step ho ht a⟩) hnm
      ⟨(k.after publish later n).sound.ordered, he⟩
  exact hkept.2

theorem Kept.awaited_step (k : Kept count h) {l : List Nat} (ha : h.awaited = some l)
    (d : Deed β) :
    (h.step publish d).awaited = some l ∨
      (h.step publish d).awaited = some (l.dropWhile h.traffic.hasEnded) := by
  obtain ⟨hp, hs⟩ := k.without_handles ha
  cases d with
  | act a =>
    by_cases hclose : a = .close
    · exact .inl (by rw [hclose]; exact ha)
    · exact .inl (by rw [step_act publish h hclose]; exact ha)
  | await => exact .inr (by simp only [Shared.step, ha, Option.map_some])
  | clonePublisher | dropPublisher | cloneState | dropState | shutDown | shutDownService =>
    simp [Shared.step, Shared.dropState, Shared.shutDown, handles, hp, hs, ha]

theorem Kept.awaited_isSuffix (k : Kept count h) {l : List Nat} {n m : Nat} (hnm : n ≤ m)
    (ha : (h.after publish later n).awaited = some l) :
    ∃ l', (h.after publish later m).awaited = some l' ∧ l' <:+ l := by
  induction m, hnm using Nat.le_induction with
  | base => exact ⟨l, ha, List.suffix_rfl⟩
  | succ m _ ih =>
    obtain ⟨l', ha', hl'⟩ := ih
    rcases (k.after publish later m).awaited_step ha' (later m) with he | he
    · exact ⟨l', he, hl'⟩
    · exact ⟨_, he, (List.dropWhile_suffix _).trans hl'⟩

/-- Dead workers are passed over, and the others have ended sooner or later. -/
theorem Kept.wait_ends (k : Kept count h) (hf : Fair publish h later) (n : Nat) (l : List Nat)
    (ha : (h.after publish later n).awaited = some l) :
    ∃ m, n ≤ m ∧ (h.after publish later m).awaited = some [] := by
  -- fewer workers are awaited after each look at the first of them that finds it ended
  generalize hlength : l.length = length
  induction length using Nat.strongRecOn generalizing n l with
  | ind length ih =>
    cases l with
    | nil => exact ⟨n, Nat.le_refl n, ha⟩
    | cons i rest =>
      have hc := ((k.after publish later n).awaited _ ha).1
      obtain ⟨ended, hn, hended⟩ := k.ends hf hc i
      obtain ⟨look, hlook, hawait⟩ := hf.await ended
      obtain ⟨l, hl, hsuffix⟩ := k.awaited_isSuffix (hn.trans hlook) ha
      have hgone : (h.after publish later look).traffic.hasEnded i = true :=
        k.hasEnded_after hf hlook hended
      have hnext : (h.after publish later (look + 1)).awaited =
          some (l.dropWhile (h.after publish later look).traffic.hasEnded) := by
        simp only [Shared.after, hawait, Shared.step, hl, Option.map_some]
      have hshorter : (l.dropWhile (h.after publish later look).traffic.hasEnded).length <
          length := by
        simp only [List.length_cons] at hlength
        rcases List.suffix_cons_iff.mp hsuffix with rfl | hrest
        · rw [List.dropWhile_cons_of_pos hgone]
          have hle := (List.dropWhile_suffix
            (h.after publish later look).traffic.hasEnded (l := rest)).length_le
          omega
        · have hle := ((List.dropWhile_suffix
            (h.after publish later look).traffic.hasEnded).trans hrest).length_le
          omega
      obtain ⟨m, hm, hdone⟩ := ih _ hshorter (look + 1) _ hnext rfl
      exact ⟨m, by omega, hdone⟩

/-! ### A fair course -/

def roundRobin (count n : Nat) : Deed β :=
  if n % (count + 1) = count then .await else .act (.work (n % (count + 1)))

theorem roundRobin_add {count i : Nat} (hi : i ≤ count) (n : Nat) :
    roundRobin (β := β) count ((count + 1) * n + i) =
      if i = count then .await else .act (.work i) := by
  have hmod : ((count + 1) * n + i) % (count + 1) = i := by
    rw [Nat.mul_add_mod, Nat.mod_eq_of_lt (by omega)]
  rw [roundRobin, hmod]

theorem Kept.fair_roundRobin (k : Kept count h)
    (hanswers : ∀ job c, (publish job c).isSome = true) :
    Fair publish h (roundRobin count) := by
  have hround (n i : Nat) : n ≤ (count + 1) * n + i := by
    have hle := Nat.le_mul_of_pos_left n (show 0 < count + 1 by omega)
    omega
  refine ⟨fun i n => ⟨(count + 1) * n + i, hround n i, ?_⟩,
    fun n => ⟨(count + 1) * n + count, hround n count, ?_⟩⟩
  · rcases Nat.lt_or_ge i count with hi | hi
    · refine .inr ⟨?_, fun job _ => hanswers job _⟩
      rw [roundRobin_add (by omega), if_neg (by omega)]
    · -- there is no such worker
      have ho := (k.after publish (roundRobin count) ((count + 1) * n + i)).sound.ordered
      exact .inl (by simp [Pool.worker, List.getElem?_eq_none (ho.workers ▸ hi)])
  · rw [roundRobin_add (Nat.le_refl count), if_pos rfl]

end Shared

/-- Shutting down loses nothing. When the wait for the workers is over, every accepted job whose
worker has not broken down was handed to the channel once, in order, and all receipts are answered;
and the wait is over sooner or later, also if workers have broken down. While there is another
handle, to shut a publisher or the service down is only to give handles back: the pool stays open,
nothing is waited for, and no accepted job is lost. -/
theorem shutdown_loses_nothing (publish : Publishing β) (s : Sizing) (channel : β)
    (deeds : List (Shared.Deed β)) :
    let h := (Shared.start s channel).run publish deeds
    let shard (job : Job) := Pool.shardOf s.workerCount job.message.key
    (h.awaited = some [] → h.traffic.Drained s.workerCount) ∧
    (h.publishers = 1 → h.states = 0 →
      (h.step publish .shutDown).awaited = some (List.range s.workerCount) ∧
        (h.step publish .shutDown).traffic = h.traffic.closed) ∧
    (h.publishers = 1 → h.states = 1 →
      (h.step publish .shutDownService).awaited = some (List.range s.workerCount) ∧
        (h.step publish .shutDownService).traffic = h.traffic.closed) ∧
    (∀ later, h.Fair publish later → h.awaited ≠ none →
      ∃ n, (h.after publish later n).awaited = some [] ∧
        (h.after publish later n).traffic.Drained s.workerCount) ∧
    (h.publishers ≠ 0 → 1 < h.handles →
      h.step publish .shutDown = { h with publishers := h.publishers - 1 } ∧
        h.traffic.isOpen = true ∧ h.awaited = none) ∧
    (h.publishers ≠ 0 → h.states ≠ 0 → 1 < h.publishers ∨ 1 < h.states →
      h.step publish .shutDownService =
          { h with publishers := h.publishers - 1, states := h.states - 1 } ∧
        h.traffic.isOpen = true ∧ h.awaited = none) ∧
    ∀ later, h.Fair publish later → ∀ job ∈ accepted h.traffic.history, ∃ n,
      let t := (h.after publish later n).traffic
      ((t.pool.worker (shard job)).isAlive = false ∨
        job ∈ finishedBy (shard job) t.history ∧
          ((offered t.history).map Prod.snd).count job = 1) ∧
      ∃! r, ⟨job.number, r⟩ ∈ t.acknowledgements := by
  intro h shard
  have k : h.Kept s.workerCount := (Shared.Kept.start s channel).run deeds
  have hworkers : h.traffic.pool.workers.length = s.workerCount := k.sound.ordered.workers
  refine ⟨k.drained, ?_, ?_, ?_, ?_, ?_, ?_⟩
  · intro hp hs
    have hone : h.handles = 1 := by simp [Shared.handles, hp, hs]
    rw [Shared.step, Shared.shutDown_last (by omega) hone, hworkers]
    exact ⟨rfl, rfl⟩
  · intro hp hs
    have hone : ({ h with states := h.states - 1 } : Shared β).handles = 1 := by
      simp [Shared.handles, hp, hs]
    rw [Shared.shutDownService_eq (by omega) (by omega), Shared.shutDown_last (by simp [hp]) hone]
    simp only [hworkers]
    exact ⟨trivial, trivial⟩
  · intro later hf hne
    obtain ⟨l, hl⟩ := Option.ne_none_iff_exists'.mp hne
    obtain ⟨n, -, hn⟩ := k.wait_ends hf 0 l hl
    exact ⟨n, hn, (k.after publish later n).drained hn⟩
  · intro hp hh
    have hhandles := Shared.handles_ne_zero hp
    exact ⟨Shared.shutDown_shared hp hh, k.isOpen.mpr hhandles, k.not_awaited hhandles⟩
  · intro hp hs hmore
    have hhandles := Shared.handles_ne_zero hp
    have hshared : 1 < ({ h with states := h.states - 1 } : Shared β).handles := by
      unfold Shared.handles
      simp only
      split <;> omega
    refine ⟨?_, k.isOpen.mpr hhandles, k.not_awaited hhandles⟩
    rw [Shared.shutDownService_eq hs hp, 
      Shared.shutDown_shared (h := { h with states := h.states - 1 }) hp hshared]
  · intro later hf job hj
    obtain ⟨n, -, hn⟩ := hf.course.delivers k.sound 0 hj
    exact ⟨n, hn⟩

/-- A worker breaks down and another has two jobs left. With a copy of the state around the service
is shut down at once; without it, the end of both workers is awaited. -/
theorem shutdown_loses_nothing_after_crash :
    let publish : Publishing Unit := fun job _ =>
      some (if job.number = 2 then .crashed else .accepted, ())
    let job (n : Nat) (key : String) : Job := ⟨n, "items", ⟨key, "CREATE", []⟩⟩
    let deeds : List (Shared.Deed Unit) := [job 0 "7", job 1 "7", job 2 "4", job 3 "4"].map fun j =>
      .act (.submit j.topic j.message)
    let shared := (Shared.start ⟨2, 4⟩ ()).run publish (deeds ++ [.cloneState])
    let alone := (Shared.start ⟨2, 4⟩ ()).run publish (deeds ++ [.dropState])
    let closing := (Shared.start ⟨2, 4⟩ ()).run publish (deeds ++ [.dropState, .shutDown])
    let closed := closing.after publish (Shared.roundRobin 2)
    ((shared.step publish .shutDownService).traffic = shared.traffic ∧
        shared.traffic.isOpen = true) ∧
      (∃ n, ∃! r, ⟨1, r⟩ ∈
        (shared.after publish (Shared.roundRobin 2) n).traffic.acknowledgements) ∧
      (alone.step publish .shutDown).awaited = some [0, 1] ∧
      (∃ n, (closed n).awaited = some [] ∧ (closed n).traffic.Drained 2) ∧
      ((closed 12).awaited = some [] ∧ ((closed 12).traffic.pool.worker 0).isAlive = false ∧
        offeredBy 1 (closed 12).traffic.history = [job 0 "7", job 1 "7"]) := by
  intro publish job deeds shared alone closing closed
  have hanswers : ∀ job c, (publish job c).isSome = true := fun _ _ => rfl
  have hfair (deeds : List (Shared.Deed Unit)) : Shared.Fair publish
      ((Shared.start ⟨2, 4⟩ ()).run publish deeds) (Shared.roundRobin 2) :=
    ((Shared.Kept.start ⟨2, 4⟩ ()).run deeds).fair_roundRobin hanswers
  obtain ⟨-, -, -, -, -, hservice, hdelivers⟩ :=
    shutdown_loses_nothing publish ⟨2, 4⟩ () (deeds ++ [.cloneState])
  obtain ⟨-, hlast, -, -, -, -, -⟩ :=
    shutdown_loses_nothing publish ⟨2, 4⟩ () (deeds ++ [.dropState])
  obtain ⟨-, -, -, hends, -, -, -⟩ :=
    shutdown_loses_nothing publish ⟨2, 4⟩ () (deeds ++ [.dropState, .shutDown])
  refine ⟨?_, ?_, ?_, ?_, ?_⟩
  · obtain ⟨hstep, hopen, -⟩ := hservice (by decide) (by decide) (.inr (by decide))
    exact ⟨by rw [hstep], hopen⟩
  · obtain ⟨n, -, hr⟩ := hdelivers _ (hfair _) (job 1 "7") (by decide +kernel)
    exact ⟨n, hr⟩
  · exact (hlast (by decide) (by decide)).1
  · exact hends _ (hfair _) (by decide +kernel)
  · decide +kernel

end AggregateGateway.Publish
