import AggregateGateway.Proofs.Publish.Lanes
import AggregateGateway.Proofs.Publish.LoadedPool
import AggregateGateway.Proofs.Publish.QueuedJobs
import Mathlib.Data.List.Induction

/-! The workers of a pool have nothing to do with each other. What is seen through one of them is a
lane that does the deeds concerning it and no others, and any lanes can be run side by side. -/

namespace AggregateGateway.Publish

open Catalog (Message)

variable {β : Type} {publish : Publishing β} {count i : Nat} {t : Traffic β}

/-! ### Receipts -/

theorem Receipt.answered_of_answer {r : Receipt} (answer : Except SubmissionError Unit)
    (h : r.answer.isSome = true) : r.answered answer = r := by
  obtain ⟨isHeld, _ | a⟩ := r
  · cases h
  · rfl

theorem Receipt.answerFirst_append (answer : Except SubmissionError Unit) {front : List Receipt}
    (hfront : ∀ r ∈ front, r.answer.isSome = true) {r : Receipt} (hr : r.answer = none)
    (rest : List Receipt) :
    answerFirst answer (front ++ r :: rest) = front ++ r.answered answer :: rest := by
  induction front with
  | nil => simp only [List.nil_append, answerFirst, hr, Option.isNone_none, if_true]
  | cons r' front ih =>
    rw [List.forall_mem_cons] at hfront
    have hsome : r'.answer.isNone = false := by simpa using hfront.1
    simp only [List.cons_append, answerFirst, hsome, Bool.false_eq_true, if_false, ih hfront.2]

/-- Where no element is repeated, changing the value of one is changing its place. -/
theorem map_eq_modify {α γ : Type} [BEq α] [LawfulBEq α] {l : List α} {a : α} {f f' : α → γ}
    {g : γ → γ} (hnodup : l.Nodup) (ha : a ∈ l) (hsame : f' a = g (f a))
    (hother : ∀ x ∈ l, x ≠ a → f' x = f x) :
    l.map f' = (l.map f).modify (l.idxOf a) g := by
  induction l with
  | nil => cases ha
  | cons x l ih =>
    rw [List.nodup_cons] at hnodup
    by_cases hx : x = a
    · subst hx
      have htail : l.map f' = l.map f :=
        List.map_congr_left fun y hy =>
          hother y (List.mem_cons_of_mem x hy) fun hyx => hnodup.1 (hyx ▸ hy)
      rw [List.idxOf_cons_self, List.map_cons, List.map_cons, hsame, htail]
      rfl
    · have hmem : a ∈ l := (List.mem_cons.mp ha).resolve_left fun hax => hx hax.symm
      have htail := ih hnodup.2 hmem fun y hy => hother y (List.mem_cons_of_mem x hy)
      rw [List.idxOf_cons_ne _ hx, List.map_cons, List.map_cons, htail,
        hother x List.mem_cons_self hx]
      rfl

namespace Traffic

theorem answer_isSome_iff {job : Job} : (t.receipt job).answer.isSome = true ↔
    ∃ a ∈ t.acknowledgements, a.number = job.number := by
  simp only [receipt, Option.isSome_map, List.find?_isSome, beq_iff_eq]

theorem receipt_eq {t' : Traffic β} {job : Job} {new : List Acknowledgement}
    (hreceipts : t'.receipts.contains job.number = t.receipts.contains job.number)
    (hacks : t'.acknowledgements = t.acknowledgements ++ new)
    (hnew : ∀ a ∈ new, a.number ≠ job.number) : t'.receipt job = t.receipt job := by
  have hnone : new.find? (fun a => a.number == job.number) = none := by
    simpa [List.find?_eq_none] using hnew
  simp only [receipt, hreceipts, hacks, List.find?_append, hnone, Option.or_none]

end Traffic

/-- Nothing of a lane changes in a step that neither its worker nor its receipts have a part in. -/
theorem Traffic.lane_unconcerned {t' : Traffic β} {xs : List Occurrence}
    (hopen : t'.isOpen = t.isOpen) (hworker : t'.pool.worker i = t.pool.worker i)
    (hhistory : t'.history = t.history ++ xs)
    (hunseen : xs.filterMap (Occurrence.sighting? count i) = [])
    (hunaccepted : acceptedFor count i xs = [])
    (hreceipt : ∀ job ∈ acceptedFor count i t.history, t'.receipt job = t.receipt job) :
    t'.lane count i = t.lane count i := by
  have hreceipts := List.map_congr_left hreceipt
  simp only [lane, hopen, hworker, hhistory, acceptedFor_append, hunaccepted, List.append_nil,
    List.filterMap_append, hunseen, hreceipts]

/-! ### Submissions -/

section Submit

variable (topic : String) (m : Message)

theorem Ordered.shard_eq (ho : Ordered count t) (key : String) :
    t.pool.shard key = Pool.shardOf count key := by
  rw [Pool.shard, ho.workers]

/-- Only its own lane decides whether a submission is refused. -/
theorem Ordered.lane_refusal (ho : Ordered count t) (hi : Pool.shardOf count m.key = i) :
    (t.lane count i).refusal? t.pool.capacity topic =
      match (t.pool.submit topic m).2 with
      | .ok _ => none
      | .error e => some e := by
  have hcases := t.pool.submit_cases topic m
  simp only [ho.shard_eq, hi] at hcases
  rcases hcases with ⟨hw, he⟩ | ⟨hw, hfull, he⟩ | ⟨hw, hroom, he⟩
  · simp only [Traffic.lane, Lane.refusal?, hw, he, Bool.not_false, if_true]
  · simp only [Traffic.lane, Lane.refusal?, hw, he, List.length_map, hfull, Bool.not_true,
      Bool.false_eq_true, if_false, if_true]
  · have hfull : ¬ t.pool.capacity ≤ (t.pool.worker i).queue.length := Nat.not_le.mpr hroom
    simp only [Traffic.lane, Lane.refusal?, hw, he, List.length_map, hfull, Bool.not_true,
      Bool.false_eq_true, if_false]

theorem Traffic.receipt_answered_error (p : Pool) (e : SubmissionError) (job : Job) :
    (t.answered topic m (p, .error e)).receipt job = t.receipt job := by
  have hr : t.receipts ++ (Except.error e : Except SubmissionError Nat).toOption.toList =
      t.receipts := List.append_nil _
  simp only [receipt, answered, hr]

theorem Answered.receipt_answered_ok (ha : Answered count t) (p : Pool) {job : Job}
    (hj : job ∈ accepted t.history) :
    (t.answered topic m (p, .ok t.pool.next)).receipt job = t.receipt job := by
  have hne : job.number ≠ t.pool.next := Nat.ne_of_lt (ha.below job hj)
  have hr : t.receipts ++ (Except.ok t.pool.next : Except SubmissionError Nat).toOption.toList =
      t.receipts ++ [t.pool.next] := rfl
  simp [Traffic.receipt, Traffic.answered, hr, hne]

theorem Answered.receipt_new (ha : Answered count t) (p : Pool) :
    (t.answered topic m (p, .ok t.pool.next)).receipt ⟨t.pool.next, topic, m⟩ =
      ⟨true, none⟩ := by
  have hr : t.receipts ++ (Except.ok t.pool.next : Except SubmissionError Nat).toOption.toList =
      t.receipts ++ [t.pool.next] := rfl
  have hnone : t.acknowledgements.find? (fun a => a.number == t.pool.next) = none := by
    simpa [List.find?_eq_none] using fun a hk => Nat.ne_of_lt (ha.known a hk)
  simp [Traffic.receipt, Traffic.answered, hr, hnone]

theorem Traffic.lane_refused (e : SubmissionError) (hi : Pool.shardOf count m.key = i) :
    (t.answered topic m (t.pool.counted, .error e)).lane count i =
      { t.lane count i with log := (t.lane count i).log ++ [.refused topic m e] } := by
  have haccepted : acceptedFor count i [.answered topic m (.error e)] = [] := rfl
  have hseen : [Occurrence.answered topic m (.error e)].filterMap
      (Occurrence.sighting? count i) = [.refused topic m e] := by
    simp [Occurrence.sighting?, hi]
  have hreceipts := (acceptedFor count i t.history).map_congr_left fun job _ =>
    t.receipt_answered_error topic m t.pool.counted e job
  have hhistory : (t.answered topic m (t.pool.counted, .error e)).history =
      t.history ++ [.answered topic m (.error e)] := rfl
  simp only [lane, hhistory, acceptedFor_append, haccepted, List.append_nil,
    List.filterMap_append, hseen, hreceipts]
  rfl

theorem Answered.lane_queued (ha : Answered count t)
    (hi : Pool.shardOf count m.key = i) (hw : (t.pool.worker i).isAlive = true) :
    (t.answered topic m (t.pool.counted.setWorker i
        { t.pool.worker i with queue := (t.pool.worker i).queue ++ [⟨t.pool.next, topic, m⟩] },
        .ok t.pool.next)).lane count i =
      { t.lane count i with
        queue := (t.lane count i).queue ++ [(topic, m)]
        receipts := (t.lane count i).receipts ++ [⟨true, none⟩]
        log := (t.lane count i).log ++ [.queued topic m] } := by
  generalize hp : t.pool.counted.setWorker i _ = p
  have hworker : p.worker i =
      { t.pool.worker i with queue := (t.pool.worker i).queue ++ [⟨t.pool.next, topic, m⟩] } := by
    rw [← hp]
    exact Pool.worker_setWorker_self _ (Pool.lt_of_alive hw)
  have haccepted : acceptedFor count i [.answered topic m (.ok t.pool.next)] =
      [⟨t.pool.next, topic, m⟩] := by
    simp [acceptedFor, accepted, hi]
  have hseen : [Occurrence.answered topic m (.ok t.pool.next)].filterMap
      (Occurrence.sighting? count i) = [.queued topic m] := by
    simp [Occurrence.sighting?, hi]
  have hreceipts := (acceptedFor count i t.history).map_congr_left fun job hj =>
    ha.receipt_answered_ok topic m p (mem_acceptedFor.mp hj).1
  have hnew := ha.receipt_new topic m p
  have hhistory : (t.answered topic m (p, .ok t.pool.next)).history =
      t.history ++ [.answered topic m (.ok t.pool.next)] := rfl
  have hpool : (t.answered topic m (p, .ok t.pool.next)).pool = p := rfl
  simp only [Traffic.lane, hhistory, hpool, hworker, acceptedFor_append, haccepted,
    List.map_append, List.filterMap_append, hseen, hreceipts, List.map_cons, List.map_nil, hnew]
  rfl

theorem Ordered.lane_answered (ho : Ordered count t) (ha : Answered count t) :
    (t.answered topic m (t.pool.submit topic m)).lane count i =
      if Pool.shardOf count m.key == i then
        (t.lane count i).submit t.pool.capacity topic m
      else t.lane count i := by
  have hcases := t.pool.submit_cases topic m
  rw [ho.shard_eq] at hcases
  by_cases hi : Pool.shardOf count m.key = i
  · have hrefusal := ho.lane_refusal topic m hi
    rw [if_pos (beq_iff_eq.mpr hi), Lane.submit, hrefusal]
    rw [hi] at hcases
    rcases hcases with ⟨-, he⟩ | ⟨-, -, he⟩ | ⟨hw, -, he⟩
    · rw [he]
      exact Traffic.lane_refused topic m _ hi
    · rw [he]
      exact Traffic.lane_refused topic m _ hi
    · rw [he]
      exact ha.lane_queued topic m hi hw
  · rw [if_neg (by simpa using hi)]
    have hunseen (answer : Except SubmissionError Nat) :
        [Occurrence.answered topic m answer].filterMap (Occurrence.sighting? count i) = [] := by
      simp [Occurrence.sighting?, hi]
    have hunaccepted (answer : Except SubmissionError Nat) :
        acceptedFor count i [.answered topic m answer] = [] := by
      cases answer <;> simp [acceptedFor, accepted, hi]
    rcases hcases with ⟨-, he⟩ | ⟨-, -, he⟩ | ⟨-, -, he⟩
    · rw [he]
      exact t.lane_unconcerned rfl rfl rfl (hunseen _) (hunaccepted _)
        fun job _ => t.receipt_answered_error topic m _ _ job
    · rw [he]
      exact t.lane_unconcerned rfl rfl rfl (hunseen _) (hunaccepted _)
        fun job _ => t.receipt_answered_error topic m _ _ job
    · rw [he]
      exact t.lane_unconcerned rfl (Pool.worker_setWorker_other _ _ hi) rfl (hunseen _)
        (hunaccepted _) fun job hj => ha.receipt_answered_ok topic m _ (mem_acceptedFor.mp hj).1

end Submit

/-! ### Work -/

section Work

variable {j : Nat} {job : Job}

theorem Traffic.lane_taken {queue : List Job}
    (hw : t.pool.worker j = ⟨job :: queue, none, true⟩) :
    ({ t with
        pool := t.pool.setWorker j ⟨queue, some job, true⟩
        history := t.history ++ [.offered j job] } : Traffic β).lane count i =
      if j == i then (t.lane count i).take else t.lane count i := by
  have hlt : j < t.pool.workers.length := Pool.lt_of_alive (by rw [hw])
  have haccepted : acceptedFor count i [.offered j job] = [] := rfl
  by_cases hj : j = i
  · subst hj
    have hseen : [Occurrence.offered j job].filterMap (Occurrence.sighting? count j) =
        [.offered job.topic job.message] := by
      simp [Occurrence.sighting?]
    rw [if_pos (beq_self_eq_true j)]
    simp only [lane, Pool.worker_setWorker_self _ hlt, hw, acceptedFor_append, haccepted,
      List.append_nil, List.filterMap_append, hseen, Lane.take, List.map_cons, Option.map_none,
      Option.map_some, Job.unnumbered]
    rfl
  · rw [if_neg (by simpa using hj)]
    exact t.lane_unconcerned rfl (Pool.worker_setWorker_other _ _ hj) rfl
      (by simp [Occurrence.sighting?, hj]) haccepted fun job' _ => rfl

/-- The worker of a settled job, which answers that job, or all that it holds if it breaks down. -/
def Traffic.afterSettling (t : Traffic β) (j : Nat) (job : Job) (v : Verdict) (channel : β) :
    Traffic β :=
  { t with
    pool := t.pool.setWorker j ((t.pool.worker j).settle v job).1
    channel
    history := t.history ++ [.settled j job v]
    acknowledgements := t.acknowledgements ++ ((t.pool.worker j).settle v job).2
    measurements := t.measurements ++ v.measurements job.topic }

theorem Traffic.receipt_afterSettling (j : Nat) (job : Job) (v : Verdict) (channel : β)
    (job' : Job) : (t.afterSettling j job v channel).receipt job' =
      { t.receipt job' with
        answer := (t.receipt job').answer.or
          ((((t.pool.worker j).settle v job).2.find? fun a => a.number == job'.number).map
            Acknowledgement.result) } := by
  simp only [receipt, afterSettling, List.find?_append, Option.map_or]

theorem Answered.receipt_held (ha : Answered count t) (h : job ∈ (t.pool.worker j).held) :
    (t.receipt job).answer = none := by
  simp only [Traffic.receipt, ha.not_answered_of_held h, Option.map_none]

theorem Answered.receipt_finished (ha : Answered count t) (h : job ∈ finishedBy j t.history) :
    (t.receipt job).answer.isSome = true := by
  obtain ⟨v, -, hs⟩ := mem_finishedBy.mp h
  exact Traffic.answer_isSome_iff.mpr ⟨_, ha.told j job v hs, rfl⟩

section Settled

variable (ho : Ordered count t) (ha : Answered count t)
  (hc : (t.pool.worker j).current = some job) (v : Verdict) (channel : β)
include ho hc

theorem Ordered.accepted_split : acceptedFor count j t.history =
    finishedBy j t.history ++ job :: (t.pool.worker j).queue := by
  rw [ho.accepted_eq_finished_held (ho.alive_of_current hc), Worker.held, hc]
  rfl

include ha

theorem Answered.receipt_other {job' : Job} (hj' : job' ∈ acceptedFor count i t.history)
    (hi : j ≠ i) : (t.afterSettling j job v channel).receipt job' = t.receipt job' := by
  refine Traffic.receipt_eq rfl rfl fun a hk hn => hi ?_
  obtain ⟨held, hheld, hnumber⟩ := Worker.held_of_settle_answer v hc hk
  obtain ⟨hacc, hshard⟩ := mem_acceptedFor.mp ((ho.held_isSuffix j).subset hheld)
  obtain ⟨hacc', hshard'⟩ := mem_acceptedFor.mp hj'
  have hsame := ha.eq_of_number hacc hacc' (hnumber.trans hn)
  rw [← hshard, hsame, hshard']

omit ho hc in
/-- What the worker had done before stays as it is. -/
theorem Answered.receipts_finished :
    (finishedBy j t.history).map (t.afterSettling j job v channel).receipt =
      (finishedBy j t.history).map t.receipt := by
  refine List.map_congr_left fun job' hj' => ?_
  obtain ⟨answer, hanswer⟩ := Option.isSome_iff_exists.mp (ha.receipt_finished hj')
  simp only [Traffic.receipt_afterSettling, hanswer, Option.some_or]
  exact (Receipt.mk.injEq ..).mpr ⟨rfl, hanswer.symm⟩

/-- A job that the channel has accepted or refused has the first receipt without an answer. -/
theorem Answered.receipts_settled (hv : v ≠ .crashed) :
    (acceptedFor count j t.history).map (t.afterSettling j job v channel).receipt =
      Receipt.answerFirst v.answer ((acceptedFor count j t.history).map t.receipt) := by
  have hacks : ((t.pool.worker j).settle v job).2 = [⟨job.number, v.answer⟩] := by
    cases v with
    | accepted | refused e => rfl
    | crashed => exact absurd rfl hv
  have hdistinct : ((job :: (t.pool.worker j).queue).map Job.number).Nodup := by
    simpa only [Worker.held, hc, Option.toList_some, List.singleton_append] using
      ha.held_distinct ho j
  have hjob : (t.afterSettling j job v channel).receipt job =
      (t.receipt job).answered v.answer := by
    simp only [Traffic.receipt_afterSettling, hacks, List.find?_singleton, beq_self_eq_true,
      if_true, Option.map_some, Receipt.answered]
  have hqueue : (t.pool.worker j).queue.map (t.afterSettling j job v channel).receipt =
      (t.pool.worker j).queue.map t.receipt := by
    refine List.map_congr_left fun job' hj' => Traffic.receipt_eq rfl rfl fun a hk hn => ?_
    have hak : a = ⟨job.number, v.answer⟩ := List.mem_singleton.mp (hacks ▸ hk)
    rw [List.map_cons, List.nodup_cons] at hdistinct
    exact hdistinct.1 (List.mem_map.mpr ⟨job', hj', by rw [← hn, hak]⟩)
  have hfront : ∀ r ∈ (finishedBy j t.history).map t.receipt, r.answer.isSome = true := by
    intro r hr
    obtain ⟨job', hj', rfl⟩ := List.mem_map.mp hr
    exact ha.receipt_finished hj'
  have hheld : job ∈ (t.pool.worker j).held := by simp [Worker.held, hc]
  rw [ho.accepted_split hc, List.map_append, List.map_append, List.map_cons, List.map_cons,
    ha.receipts_finished v channel, hjob, hqueue,
    Receipt.answerFirst_append _ hfront (ha.receipt_held hheld)]

theorem Answered.receipts_crashed :
    (acceptedFor count j t.history).map (t.afterSettling j job .crashed channel).receipt =
      ((acceptedFor count j t.history).map t.receipt).map
        (Receipt.answered (.error .closed)) := by
  have hheld : ∀ job' ∈ job :: (t.pool.worker j).queue,
      (t.afterSettling j job .crashed channel).receipt job' =
        (t.receipt job').answered (.error .closed) := by
    intro job' hj'
    have hmem : job' ∈ (t.pool.worker j).held := by simpa [Worker.held, hc] using hj'
    have hfound : (((t.pool.worker j).settle .crashed job).2.find? fun a =>
        a.number == job'.number).map Acknowledgement.result = some (.error .closed) := by
      have hsome : (((t.pool.worker j).settle .crashed job).2.find? fun a =>
          a.number == job'.number).isSome = true :=
        List.find?_isSome.mpr ⟨_, Worker.mem_settle_crashed hc hmem, beq_self_eq_true _⟩
      obtain ⟨a, hk⟩ := Option.isSome_iff_exists.mp hsome
      obtain ⟨j', -, rfl⟩ := List.mem_map.mp (List.mem_of_find?_eq_some hk)
      rw [hk]
      rfl
    simp only [Traffic.receipt_afterSettling, hfound, Receipt.answered]
  have hfront : (finishedBy j t.history).map t.receipt =
      ((finishedBy j t.history).map t.receipt).map (Receipt.answered (.error .closed)) := by
    rw [List.map_map]
    exact List.map_congr_left fun job' hj' =>
      (Receipt.answered_of_answer _ (ha.receipt_finished hj')).symm
  rw [ho.accepted_split hc, List.map_append, List.map_append, List.map_append,
    ha.receipts_finished .crashed channel, List.map_congr_left hheld, ← hfront, List.map_map]
  rfl

theorem Answered.lane_settled :
    (t.afterSettling j job v channel).lane count i =
      if j == i then (t.lane count i).settle v else t.lane count i := by
  have haccepted : acceptedFor count i [.settled j job v] = [] := rfl
  by_cases hj : j = i
  · subst hj
    have hseen : [Occurrence.settled j job v].filterMap (Occurrence.sighting? count j) =
        [.settled job.topic job.message v] := by
      simp [Occurrence.sighting?]
    have hcurrent : (t.lane count j).current = some (job.topic, job.message) := by
      simp only [Traffic.lane, hc, Option.map_some, Job.unnumbered]
    have hhistory : (t.afterSettling j job v channel).history =
        t.history ++ [.settled j job v] := rfl
    have hworker : (t.afterSettling j job v channel).pool.worker j =
        ((t.pool.worker j).settle v job).1 :=
      Pool.worker_setWorker_self _ (ho.lt_of_current hc)
    rw [if_pos (beq_self_eq_true j), Lane.settle, hcurrent]
    simp only [Traffic.lane, hhistory, hworker, acceptedFor_append, haccepted, List.append_nil,
      List.filterMap_append, hseen]
    cases v with
    | crashed =>
      rw [ha.receipts_crashed ho hc channel]
      rfl
    | accepted | refused e =>
      rw [ha.receipts_settled ho hc _ channel (by simp)]
      rfl
  · rw [if_neg (by simpa using hj)]
    exact t.lane_unconcerned rfl (Pool.worker_setWorker_other _ _ hj) rfl
      (by simp [Occurrence.sighting?, hj]) haccepted
      fun job' hj' => ha.receipt_other ho hc v channel hj' hj

end Settled

end Work

/-! ### Receipts thrown away -/

section Drop

variable {n : Nat}

def Traffic.withoutReceipt (t : Traffic β) (n : Nat) : Traffic β :=
  { t with receipts := t.receipts.filter (· != n) }

theorem Traffic.receipt_withoutReceipt_self {job : Job} (h : job.number = n) :
    (t.withoutReceipt n).receipt job = (t.receipt job).dropped := by
  simp [receipt, withoutReceipt, Receipt.dropped, h]

theorem Traffic.receipt_withoutReceipt_other {job : Job} (h : job.number ≠ n) :
    (t.withoutReceipt n).receipt job = t.receipt job := by
  simp [receipt, withoutReceipt, h]

theorem Answered.dropOf_eq_some (ha : Answered count t) {job : Job}
    (hj : job ∈ accepted t.history) :
    t.dropOf count job.number = some (.drop (Pool.shardOf count job.message.key)
      ((acceptedFor count (Pool.shardOf count job.message.key) t.history).idxOf job)) := by
  have hfound : (accepted t.history).find? (fun j => j.number == job.number) = some job := by
    cases hf : (accepted t.history).find? fun j => j.number == job.number with
    | none => exact absurd (beq_self_eq_true job.number) (List.find?_eq_none.mp hf job hj)
    | some job' =>
      have hn : job'.number = job.number := by simpa using List.find?_some hf
      rw [ha.eq_of_number (List.mem_of_find?_eq_some hf) hj hn]
  simp only [Traffic.dropOf, hfound, Option.map_some]

theorem Answered.lane_withoutReceipt (ha : Answered count t) {job : Job}
    (hj : job ∈ accepted t.history) :
    let k := Pool.shardOf count job.message.key
    (t.withoutReceipt job.number).lane count i =
      if k == i then
        { t.lane count i with
          receipts := (t.lane count i).receipts.modify
            ((acceptedFor count k t.history).idxOf job) Receipt.dropped }
      else t.lane count i := by
  intro k
  have hother : ∀ job' ∈ acceptedFor count i t.history, job' ≠ job →
      (t.withoutReceipt job.number).receipt job' = t.receipt job' := fun job' hj' hne =>
    Traffic.receipt_withoutReceipt_other fun hn =>
      hne (ha.eq_of_number (mem_acceptedFor.mp hj').1 hj hn)
  by_cases hi : k = i
  · rw [if_pos (beq_iff_eq.mpr hi)]
    have hmodify := map_eq_modify (ha.acceptedFor_nodup i) (mem_acceptedFor.mpr ⟨hj, hi⟩)
      (Traffic.receipt_withoutReceipt_self rfl) hother
    rw [hi]
    simp only [Traffic.lane, ← hmodify]
    rfl
  · rw [if_neg (by simpa using hi)]
    refine t.lane_unconcerned rfl rfl (List.append_nil _).symm rfl rfl fun job' hj' => ?_
    have hshard := (mem_acceptedFor.mp hj').2
    exact hother job' hj' fun hjj => hi (by rw [← hshard, hjj])

theorem Traffic.lane_withoutReceipt_unknown (h : ∀ job ∈ accepted t.history, job.number ≠ n) :
    (t.withoutReceipt n).lane count i = t.lane count i :=
  t.lane_unconcerned rfl rfl (List.append_nil _).symm rfl rfl fun job hj =>
    receipt_withoutReceipt_other (h job (mem_acceptedFor.mp hj).1)

end Drop

/-! ### Steps and runs -/

/-- A lane does the deeds that concern it. -/
def Lane.heed (capacity count i : Nat) (l : Lane) (d : Deed) : Lane :=
  if d.concerns count i then l.step capacity d else l

theorem Lane.heed_eq_self {capacity count i : Nat} {l : Lane} {d : Deed}
    (h : d.concerns count i = true → l.step capacity d = l) : l.heed capacity count i d = l := by
  rw [heed]
  split
  · next hd => exact h hd
  · rfl

theorem Lane.foldl_heed (capacity count i : Nat) (l : Lane) (deeds : List Deed) :
    deeds.foldl (heed capacity count i) l = l.run capacity (deeds.filter (·.concerns count i)) := by
  rw [Lane.run, List.foldl_filter]
  rfl

theorem Traffic.step_take {j : Nat} {job : Job} {queue : List Job} (publish : Publishing β)
    (hw : t.pool.worker j = ⟨job :: queue, none, true⟩) :
    t.step publish (.work j) = { t with
      pool := t.pool.setWorker j ⟨queue, some job, true⟩
      history := t.history ++ [.offered j job] } := by
  simp only [step, Work.step, hw, Worker.take, Option.map_some, Worker.occurrences,
    List.head?_cons, Option.toList_some, List.map_cons, List.map_nil]

theorem Traffic.step_settle {j : Nat} {job : Job} {v : Verdict} {channel : β}
    (hc : (t.pool.worker j).current = some job)
    (hp : publish job t.channel = some (v, channel)) :
    t.step publish (.work j) = t.afterSettling j job v channel := by
  simp only [step, Work.step, hc, hp, Option.map_some, Worker.occurrences, Option.toList_some,
    List.map_cons, List.map_nil, afterSettling]

theorem Lane.take_of_idle {l : Lane} (h : l.isAlive = false ∨ l.queue = []) : l.take = l := by
  obtain ⟨isOpen, isAlive, queue, current, receipts, log⟩ := l
  cases isAlive <;> cases current <;> cases queue <;> simp [take] at h ⊢

/-- A worker that is free takes the next job, if it lives and there is one. -/
theorem Traffic.lane_work_free {j : Nat} (hc : (t.pool.worker j).current = none) :
    (t.step publish (.work j)).lane count i =
      if j == i then (t.lane count i).take else t.lane count i := by
  by_cases hidle : (t.pool.worker j).isAlive = false ∨ (t.pool.worker j).queue = []
  · have htake (hj : j = i) : (t.lane count i).take = t.lane count i :=
      Lane.take_of_idle (by simpa [lane, ← hj] using hidle)
    have hstep : t.step publish (.work j) = t := by
      refine step_work_none ?_
      rcases hidle with hd | hq <;> simp [work, Work.step, Worker.take, *]
    rw [hstep]
    split
    · next hj => rw [htake (by simpa using hj)]
    · rfl
  · obtain ⟨halive, hqueue⟩ := not_or.mp hidle
    obtain ⟨job, queue, hq⟩ := List.exists_cons_of_ne_nil hqueue
    have hw : t.pool.worker j = ⟨job :: queue, none, true⟩ := by
      rw [← hq, ← hc, ← Bool.not_eq_false _ |>.mp halive]
    rw [t.step_take publish hw]
    exact t.lane_taken hw

theorem Ordered.lane_step (ho : Ordered count t) (ha : Answered count t) (i : Nat)
    (a : Action β) :
    (t.step publish a).lane count i =
      (t.deed? publish count a).toList.foldl (Lane.heed t.pool.capacity count i)
        (t.lane count i) := by
  cases a with
  | submit topic m =>
    change _ = (t.lane count i).heed t.pool.capacity count i (.submit topic m)
    simp only [Lane.heed, Deed.concerns, Lane.step, Traffic.step]
    have hopen : (t.lane count i).isOpen = t.isOpen := rfl
    rw [hopen]
    cases t.isOpen with
    | true =>
      simp only [if_true]
      exact ho.lane_answered topic m ha
    | false => simp only [Bool.false_eq_true, if_false, ite_self]
  | work j =>
    cases hc : (t.pool.worker j).current with
    | none =>
      simp only [Traffic.deed?, hc, Option.toList_some, List.foldl_cons, List.foldl_nil]
      exact t.lane_work_free hc
    | some job =>
      cases hp : publish job t.channel with
      | none =>
        have hstep : t.step publish (.work j) = t :=
          Traffic.step_work_none (by simp [Traffic.work, Work.step, hc, hp])
        rw [hstep]
        simp only [Traffic.deed?, hc, hp, Option.map_none, Option.toList_none, List.foldl_nil]
      | some r =>
        obtain ⟨v, channel⟩ := r
        rw [t.step_settle hc hp, ha.lane_settled ho hc v channel]
        simp only [Traffic.deed?, hc, hp, Option.map_some, Option.toList_some, List.foldl_cons,
          List.foldl_nil]
        rfl
  | shift channel => rfl
  | drop n =>
    by_cases h : ∃ job ∈ accepted t.history, job.number = n
    · obtain ⟨job, hj, rfl⟩ := h
      simp only [Traffic.deed?, ha.dropOf_eq_some hj, Option.toList_some, List.foldl_cons,
        List.foldl_nil]
      exact ha.lane_withoutReceipt hj
    · have hnone : t.dropOf count n = none := by
        simpa [Traffic.dropOf, List.find?_eq_none] using h
      simp only [Traffic.deed?, hnone, Option.toList_none, List.foldl_nil]
      exact t.lane_withoutReceipt_unknown fun job hj hn => h ⟨job, hj, hn⟩
  | close => rfl

theorem Ordered.lane_run (ho : Ordered count t) (ha : Answered count t) (i : Nat)
    (actions : List (Action β)) :
    (t.run publish actions).lane count i =
      (t.lane count i).run t.pool.capacity
        ((t.deeds publish count actions).filter (·.concerns count i)) := by
  rw [← Lane.foldl_heed]
  induction actions generalizing t with
  | nil => rfl
  | cons a actions ih =>
    rw [Traffic.run_cons, ih (ho.step a) (ha.step ho a), ho.lane_step ha, t.capacity_step a,
      Traffic.deeds, List.foldl_append]

theorem Traffic.lane_start (s : Sizing) (channel : β) (hi : i < s.workerCount) :
    (Traffic.start s channel).lane s.workerCount i = .idle := by
  have hw : (Traffic.start s channel).pool.worker i = .idle := by
    simp [start, Pool.ofSizing, Pool.worker, hi]
  simp only [lane, hw]
  rfl

/-! ### Every interleaving of lanes is a run -/

/-- A channel that does with the next job what it has been told. -/
def scripted : Publishing (Option Verdict) := fun _ told => told.map fun v => (v, none)

/-- The actions that bring a deed about; none if there is nothing for it to do. -/
def Deed.actions (count : Nat) (t : Traffic (Option Verdict)) :
    Deed → List (Action (Option Verdict))
  | .submit topic m => [.submit topic m]
  | .take i => if (t.pool.worker i).current.isNone then [.work i] else []
  | .settle i v => if (t.pool.worker i).current.isSome then [.shift (some v), .work i] else []
  | .drop i place => (acceptedFor count i t.history)[place]?.toList.map (.drop ·.number)
  | .close => [.close]

section Scripted

variable {t : Traffic (Option Verdict)}

theorem Answered.lane_actions (ho : Ordered count t) (ha : Answered count t) (i : Nat) (d : Deed) :
    (t.run scripted (d.actions count t)).lane count i =
      (t.lane count i).heed t.pool.capacity count i d := by
  rw [ho.lane_run ha, ← Lane.foldl_heed]
  cases d with
  | submit topic m => rfl
  | take j =>
    cases hc : (t.pool.worker j).current with
    | none => simp [Deed.actions, hc, Traffic.deeds, Traffic.deed?]
    | some job =>
      rw [Lane.heed_eq_self]
      · simp [Deed.actions, hc, Traffic.deeds]
      · intro hj
        obtain rfl : j = i := by simpa [Deed.concerns] using hj
        simp [Lane.step, Lane.take, Traffic.lane, hc]
  | settle j v =>
    cases hc : (t.pool.worker j).current with
    | none =>
      rw [Lane.heed_eq_self]
      · simp [Deed.actions, hc, Traffic.deeds]
      · intro hj
        obtain rfl : j = i := by simpa [Deed.concerns] using hj
        simp [Lane.step, Lane.settle, Traffic.lane, hc]
    | some job => simp [Deed.actions, hc, Traffic.deeds, Traffic.deed?, Traffic.step, scripted]
  | drop j place =>
    cases hjob : (acceptedFor count j t.history)[place]? with
    | none =>
      rw [Lane.heed_eq_self]
      · simp [Deed.actions, hjob, Traffic.deeds]
      · intro hj
        obtain rfl : j = i := by simpa [Deed.concerns] using hj
        have hlength : (t.lane count j).receipts.length ≤ place := by
          simpa [Traffic.lane] using hjob
        simp only [Lane.step, List.modify_eq_self hlength]
    | some job =>
      obtain ⟨hlt, rfl⟩ := List.getElem?_eq_some_iff.mp hjob
      obtain ⟨hj, hshard⟩ := mem_acceptedFor.mp (List.getElem_mem hlt)
      have hplace := (ha.acceptedFor_nodup j).idxOf_getElem place hlt
      have hdrop := ha.dropOf_eq_some hj
      rw [hshard, hplace] at hdrop
      simp [Deed.actions, hjob, Traffic.deeds, Traffic.deed?, hdrop]
  | close => rfl

end Scripted

/-- Any deeds are those of some run, as far as there is something for them to do. -/
theorem exists_run_of_deeds (s : Sizing) (deeds : List Deed) :
    ∃ actions, ∀ i < s.workerCount,
      ((Traffic.start s none).run scripted actions).lane s.workerCount i =
        Lane.idle.run s.perWorker (deeds.filter (·.concerns s.workerCount i)) := by
  induction deeds using List.reverseRec with
  | nil => exact ⟨[], fun i hi => Traffic.lane_start s none hi⟩
  | append_singleton deeds d ih =>
    obtain ⟨actions, hlanes⟩ := ih
    let t := (Traffic.start s none).run scripted actions
    obtain ⟨ho, ha⟩ : Ordered s.workerCount t ∧ Answered s.workerCount t :=
      (Answered.start s none).run (.start s none) actions
    have hcapacity : t.pool.capacity = s.perWorker :=
      (Traffic.start s none).capacity_run actions
    refine ⟨actions ++ d.actions s.workerCount t, fun i hi => ?_⟩
    rw [Traffic.run_append, ha.lane_actions ho, hcapacity, hlanes i hi, ← Lane.foldl_heed,
      ← Lane.foldl_heed, List.foldl_append]
    rfl

/-- Seen through one worker, a pool is a bounded queue on its own that does the deeds concerning it
and no others. So the lane alone decides which submissions are refused; its worker goes on however
the others are blocked or have broken down; any run with the same deeds of this worker, in front of,
behind and between whatever others, shows the same lane; and there is a run for every way of
leaving out, adding or reordering the deeds of others. -/
theorem workers_are_independent {β : Type} (publish : Publishing β) (s : Sizing) (channel : β)
    (actions : List (Action β)) {i : Nat} (hi : i < s.workerCount) :
    let count := s.workerCount
    let t := (Traffic.start s channel).run publish actions
    let own (deeds : List Deed) := deeds.filter (·.concerns count i)
    let deeds := (Traffic.start s channel).deeds publish count actions
    let alone := Lane.idle.run s.perWorker (own deeds)
    t.lane count i = alone ∧
    (∀ topic m, Pool.shardOf count m.key = i →
      alone.refusal? s.perWorker topic =
        match (t.pool.submit topic m).2 with
        | .ok _ => none
        | .error e => some e) ∧
    (((t.pool.worker i).current = none →
        (t.step publish (.work i)).lane count i = alone.take) ∧
      ∀ job v channel', (t.pool.worker i).current = some job →
        publish job t.channel = some (v, channel') →
          (t.step publish (.work i)).lane count i = alone.settle v) ∧
    (∀ (β' : Type) (publish' : Publishing β') (channel' : β') (actions' : List (Action β')),
      own ((Traffic.start s channel').deeds publish' count actions') = own deeds →
        ((Traffic.start s channel').run publish' actions').lane count i = t.lane count i) ∧
    ∀ deeds', own deeds' = own deeds → ∃ actions',
      let t' := (Traffic.start s none).run scripted actions'
      t'.lane count i = t.lane count i ∧
        ∀ j < count, t'.lane count j =
          Lane.idle.run s.perWorker (deeds'.filter (·.concerns count j)) := by
  intro count t own deeds alone
  obtain ⟨ho, ha⟩ : Ordered count t ∧ Answered count t :=
    (Answered.start s channel).run (.start s channel) actions
  have hcapacity : t.pool.capacity = s.perWorker := (Traffic.start s channel).capacity_run actions
  have hlane {β' : Type} (publish' : Publishing β') (channel' : β') (actions' : List (Action β')) :
      ((Traffic.start s channel').run publish' actions').lane count i = Lane.idle.run s.perWorker
        (own ((Traffic.start s channel').deeds publish' count actions')) := by
    rw [(Ordered.start s channel').lane_run (.start s channel') i actions',
      Traffic.lane_start s channel' hi]
    rfl
  have halone : t.lane count i = alone := hlane publish channel actions
  refine ⟨halone, ?_, ⟨?_, ?_⟩, ?_, ?_⟩
  · intro topic m hm
    rw [← halone, ← hcapacity]
    exact ho.lane_refusal topic m hm
  · intro hc
    rw [← halone, t.lane_work_free hc, if_pos (beq_self_eq_true i)]
  · intro job v channel' hc hp
    rw [← halone, t.step_settle hc hp, ha.lane_settled ho hc v channel',
      if_pos (beq_self_eq_true i)]
  · intro β' publish' channel' actions' hown
    rw [hlane publish' channel' actions', hown, halone]
  · intro deeds' hown
    obtain ⟨actions', hlanes⟩ := exists_run_of_deeds s deeds'
    refine ⟨actions', ?_, hlanes⟩
    rw [hlanes i hi, halone]
    exact congrArg (Lane.idle.run s.perWorker) hown

/-- One worker is blocked and its queue is full, another has broken down. The third one publishes a
job, holds a second and has a third refused, as it does in a run from which the others are left
out. -/
theorem workers_independent_of_crash :
    let publish : Publishing (List (String × Verdict)) := fun job told =>
      (told.lookup job.message.key).map fun v => (v, told)
    let submit (key : String) : Action (List (String × Verdict)) :=
      .submit "items" ⟨key, "CREATE", []⟩
    let t := (Traffic.start ⟨3, 3⟩ [("2", .accepted), ("6", .crashed)]).run publish
      [submit "1", .work 1, submit "6", submit "2", submit "1", .work 2, .work 0, submit "1",
        .work 2, submit "2", .work 1, submit "6", .work 0, .drop 2, submit "2"]
    let t' := (Traffic.start ⟨3, 3⟩ [("2", .accepted)]).run publish
      [submit "2", .work 0, submit "2", .work 0, .drop 0, submit "2"]
    ((t.pool.worker 1).current.isSome = true ∧ (t.pool.worker 1).queue.length = 1) ∧
      (t.pool.worker 2).isAlive = false ∧
      t'.lane 3 0 = t.lane 3 0 ∧
      (t.lane 3 0).receipts.map Receipt.isHeld = [false, true] ∧
      (t.lane 3 0).refusal? 1 "items" = some (.queueFull "items") := by
  have h := workers_are_independent (fun job (told : List (String × Verdict)) =>
      (told.lookup job.message.key).map fun v => (v, told)) ⟨3, 3⟩
    [("2", .accepted), ("6", .crashed)]
    [.submit "items" ⟨"1", "CREATE", []⟩, .work 1, .submit "items" ⟨"6", "CREATE", []⟩,
      .submit "items" ⟨"2", "CREATE", []⟩, .submit "items" ⟨"1", "CREATE", []⟩, .work 2, .work 0,
      .submit "items" ⟨"1", "CREATE", []⟩, .work 2, .submit "items" ⟨"2", "CREATE", []⟩, .work 1,
      .submit "items" ⟨"6", "CREATE", []⟩, .work 0, .drop 2, .submit "items" ⟨"2", "CREATE", []⟩]
    (i := 0) (by decide)
  dsimp only at h ⊢
  obtain ⟨-, -, -, hsame, -⟩ := h
  refine ⟨by decide +kernel, by decide +kernel, ?_, by decide +kernel, ?_⟩
  · exact hsame _ _ _ _ (by decide +kernel)
  · decide +kernel

end AggregateGateway.Publish
