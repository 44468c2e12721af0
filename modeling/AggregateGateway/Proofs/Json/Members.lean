import AggregateGateway.Json.Record
import AggregateGateway.Proofs.Json.ReadBack

/-!
Records are read back from the objects written of them: their members are taken into the draft
one after the other, whichever of them are shown, and the defaults make up for the hidden ones.
-/

namespace AggregateGateway.Json

open Text

/-- The members are read into the draft in turn. -/
inductive Fields.Takes {σ : Type} (fs : Fields σ) : fs.Draft → List Bytes → fs.Draft → Prop
  | nil (draft : fs.Draft) : fs.Takes draft [] draft
  | cons {draft next last : fs.Draft} {key : String} {value : Bytes} {members : List Bytes}
      (read : ∀ s, Stops s →
        fs.readField key draft (0x3A :: (value ++ s)) = some (.ok (next, s)))
      (more : fs.Takes next members last) :
      fs.Takes draft ((writeString key ++ 0x3A :: value) :: members) last

/-- The values are read back: those that are written by their codecs, the others as defaults.
No two fields share a name. -/
def Fields.ReadsBack : {σ : Type} → Fields σ → σ → Prop
  | _, .nil, _ => True
  | _, .cons name codec absent isShown rest, (a, b) =>
    name ∉ rest.names ∧ (if isShown a then codec.ReadsBack a else absent = some a) ∧
      rest.ReadsBack b

/-- The draft once the written members of a record are read. -/
def Fields.drafted : {σ : Type} → (fs : Fields σ) → σ → fs.Draft
  | _, .nil, _ => ()
  | _, .cons _ _ _ isShown rest, (a, b) => (if isShown a then some a else none, rest.drafted b)

section Draft

variable {σ : Type}

@[simp] theorem Fields.names_nil : Fields.nil.names = [] := rfl

@[simp] theorem Fields.names_required {α : Type} (name : String) (codec : Codec α)
    (rest : Fields σ) : (Fields.required name codec rest).names = name :: rest.names := rfl

@[simp] theorem Fields.names_defaulted {α : Type} (name : String) (codec : Codec α) (absent : α)
    (rest : Fields σ) : (Fields.defaulted name codec absent rest).names = name :: rest.names := rfl

@[simp] theorem Fields.names_optional {α : Type} (name : String) (codec : Codec α)
    (rest : Fields σ) : (Fields.optional name codec rest).names = name :: rest.names := rfl

theorem Fields.ReadsBack.required {α : Type} {name : String} {codec : Codec α} {rest : Fields σ}
    {a : α} {b : σ} (hname : name ∉ rest.names) (ha : codec.ReadsBack a) (hb : rest.ReadsBack b) :
    (Fields.required name codec rest).ReadsBack (a, b) :=
  ⟨hname, ha, hb⟩

theorem Fields.ReadsBack.defaulted {α : Type} {name : String} {codec : Codec α} {absent : α}
    {rest : Fields σ} {a : α} {b : σ} (hname : name ∉ rest.names) (ha : codec.ReadsBack a)
    (hb : rest.ReadsBack b) : (Fields.defaulted name codec absent rest).ReadsBack (a, b) :=
  ⟨hname, ha, hb⟩

theorem Fields.ReadsBack.optional {α : Type} {name : String} {codec : Codec α} {rest : Fields σ}
    {a? : Option α} {b : σ} (hname : name ∉ rest.names) (ha : ∀ a, codec.ReadsBack a)
    (hb : rest.ReadsBack b) : (Fields.optional name codec rest).ReadsBack (a?, b) := by
  refine ⟨hname, ?_, hb⟩
  cases a? with
  | none => rfl
  | some a => exact nullable_readsBack (ha a)

theorem Fields.readField_cons_of_ne {α : Type} {name key : String} (h : key ≠ name)
    (codec : Codec α) (absent : Option α) (isShown : α → Bool) (rest : Fields σ) (a? : Option α)
    (draft : rest.Draft) (s : Bytes) :
    (Fields.cons name codec absent isShown rest).readField key (a?, draft) s =
      (rest.readField key draft s).map fun r => r.map fun x => ((a?, x.1), x.2) := by
  simp only [Fields.readField, beq_iff_eq, h, if_false]
  rfl

theorem Fields.mem_names_of_readField {fs : Fields σ} {key : String} {draft : fs.Draft}
    {s : Bytes} {r : Except Slip (fs.Draft × Bytes)} (h : fs.readField key draft s = some r) :
    key ∈ fs.names := by
  induction fs with
  | nil => simp [Fields.readField] at h
  | cons name codec absent isShown rest ih =>
    by_cases hkey : key = name
    · simp [Fields.names, hkey]
    · obtain ⟨a?, draft⟩ := draft
      rw [Fields.readField_cons_of_ne hkey] at h
      obtain ⟨r, hr, -⟩ := Option.map_eq_some_iff.mp h
      simp [Fields.names, ih hr]

theorem Fields.complete_drafted {fs : Fields σ} {values : σ} (h : fs.ReadsBack values) :
    fs.complete (fs.drafted values) = .ok values := by
  induction fs with
  | nil => rfl
  | cons name codec absent isShown rest ih =>
    obtain ⟨a, b⟩ := values
    obtain ⟨-, hhead, hrest⟩ := h
    by_cases hshown : isShown a = true
    · simp [Fields.complete, Fields.drafted, hshown, ih hrest, Except.map]
    · rw [if_neg hshown] at hhead
      simp [Fields.complete, Fields.drafted, hshown, hhead, ih hrest, Except.map]

theorem readMember_of_read {α : Type} {read : Reader α} {a : α} {s t : Bytes} (name : String)
    (h : read s = .ok (a, t)) : readMember name read (0x3A :: s) = .ok (a, t) := by
  show placed ((read s).mapError _) = _
  rw [h]
  rfl

variable {α : Type} {name : String} {codec : Codec α} {absent : Option α} {isShown : α → Bool}
variable {rest : Fields σ}

/-- Members of the later fields pass a field of another name by. -/
theorem Fields.Takes.behind {draft last : rest.Draft} {members : List Bytes}
    (h : rest.Takes draft members last) (hname : name ∉ rest.names) (a? : Option α) :
    (Fields.cons name codec absent isShown rest).Takes (a?, draft) members (a?, last) := by
  induction h with
  | nil draft => exact .nil _
  | @cons draft next last key value members read more ih =>
    refine .cons ?_ ih
    intro s hs
    have hread := read s hs
    have hkey : key ≠ name := by
      rintro rfl
      exact hname (Fields.mem_names_of_readField hread)
    rw [Fields.readField_cons_of_ne hkey, hread]
    rfl

theorem Fields.takes_writeMembers {σ : Type} {fs : Fields σ} {values : σ}
    (h : fs.ReadsBack values) :
    fs.Takes fs.blank (fs.writeMembers values) (fs.drafted values) := by
  induction fs with
  | nil => exact .nil _
  | cons name codec absent isShown rest ih =>
    obtain ⟨a, b⟩ := values
    obtain ⟨hname, hhead, hrest⟩ := h
    by_cases hshown : isShown a = true
    · rw [if_pos hshown] at hhead
      simp only [Fields.writeMembers, Fields.drafted, hshown, if_true]
      refine .cons ?_ ((ih hrest).behind hname (some a))
      intro s hs
      have hread := readMember_of_read name (hhead.reads s hs)
      simp [Fields.readField, Fields.blank, hread, Except.map]
    · simp only [Fields.writeMembers, Fields.drafted, hshown]
      exact (ih hrest).behind hname none

end Draft

section Object

variable {σ : Type} {fs : Fields σ} {layout : Layout}

/-- Members as they follow another one. -/
def followed (members : List Bytes) : Bytes :=
  members.flatMap fun m => 0x2C :: m

theorem joined_cons (m : Bytes) (members : List Bytes) :
    joined (m :: members) = m ++ followed members := by
  induction members generalizing m with
  | nil => simp [joined, followed]
  | cons n members ih =>
    rw [joined, ih n]
    · simp [followed]
    · simp

theorem length_le_followed (members : List Bytes) :
    members.length ≤ (followed members).length := by
  induction members with
  | nil => exact Nat.le_refl 0
  | cons m members ih =>
    simp only [followed, List.flatMap_cons, List.length_append, List.length_cons] at ih ⊢
    omega

theorem stops_followed (members : List Bytes) (s : Bytes) :
    Stops (followed members ++ 0x7D :: s) := by
  cases members with
  | nil => exact .brace s
  | cons m members => exact .comma _

theorem nextKey_writeString (key : String) (s : Bytes) :
    nextKey true (writeString key ++ s) = .ok (some key, s) := by
  rw [writeString_append]
  show nextKey.key _ = _
  rw [nextKey.key, readString_append]
  rfl

theorem nextKey_comma (key : String) (s : Bytes) :
    nextKey false (0x2C :: (writeString key ++ s)) = .ok (some key, s) := by
  rw [writeString_append]
  show nextKey.key _ = _
  rw [nextKey.key, readString_append]
  rfl

theorem readMembers_followed {draft last : fs.Draft} {members : List Bytes}
    (h : fs.Takes draft members last) (s : Bytes) :
    ∀ {fuel : Bytes}, members.length ≤ fuel.length →
      readMembers layout fs fuel false draft (followed members ++ 0x7D :: s) =
        .ok (last, 0x7D :: s) := by
  induction h with
  | nil draft =>
    intro fuel _
    cases fuel <;> rfl
  | @cons draft next last key value members read more ih =>
    intro fuel hfuel
    cases fuel with
    | nil => simp at hfuel
    | cons x fuel =>
      have hmore : members.length ≤ fuel.length := by simpa using hfuel
      have hmember : followed ((writeString key ++ 0x3A :: value) :: members) ++ 0x7D :: s =
          0x2C :: (writeString key ++ 0x3A :: (value ++ (followed members ++ 0x7D :: s))) := by
        simp [followed]
      have hread := read _ (stops_followed members s)
      rw [hmember, readMembers.eq_def]
      simp only [nextKey_comma, hread]
      exact ih hmore

theorem readMembers_joined {draft last : fs.Draft} {members : List Bytes}
    (h : fs.Takes draft members last) (s : Bytes) {fuel : Bytes}
    (hfuel : members.length ≤ fuel.length) :
    readMembers layout fs fuel true draft (joined members ++ 0x7D :: s) =
      .ok (last, 0x7D :: s) := by
  cases h with
  | nil => cases fuel <;> rfl
  | @cons _ next _ key value members read more =>
    cases fuel with
    | nil => simp at hfuel
    | cons x fuel =>
      have hmore : members.length ≤ fuel.length := by simpa using hfuel
      have hmember : joined ((writeString key ++ 0x3A :: value) :: members) ++ 0x7D :: s =
          writeString key ++ 0x3A :: (value ++ (followed members ++ 0x7D :: s)) := by
        simp [joined_cons]
      have hread := read _ (stops_followed members s)
      rw [hmember, readMembers.eq_def]
      simp only [nextKey_writeString, hread]
      exact readMembers_followed more s hmore

end Object

theorem checkedRecord_readsBack {σ α : Type} {layout : Layout} {fs : Fields σ}
    {make : σ → Except Cause α} {parts : α → σ} {a : α} (hfields : fs.ReadsBack (parts a))
    (hmake : make (parts a) = .ok a) : (checkedRecord layout fs make parts).ReadsBack a where
  opens := ⟨_, _, rfl, rfl⟩
  reads s _ := by
    have hwrite : writeRecord fs (parts a) ++ s =
        0x7B :: (joined (fs.writeMembers (parts a)) ++ 0x7D :: s) := by
      simp [writeRecord]
    have hfuel : (fs.writeMembers (parts a)).length ≤
        (joined (fs.writeMembers (parts a)) ++ 0x7D :: s).length := by
      cases fs.writeMembers (parts a) with
      | nil => exact Nat.zero_le _
      | cons m members =>
        have := length_le_followed members
        simp only [joined_cons, List.length_append, List.length_cons]
        omega
    have hmembers : readMembers layout fs _ true fs.blank _ = _ :=
      readMembers_joined (Fields.takes_writeMembers hfields) s hfuel
    show readRecord layout fs make (writeRecord fs (parts a) ++ s) = _
    rw [hwrite, readRecord, skipBlanks_of_opens rfl]
    simp only [hmembers, Fields.complete_drafted hfields, Except.bind, hmake, readRecord.finish]
    rfl

theorem record_readsBack {σ α : Type} {name : String} {fs : Fields σ} {make : σ → α}
    {parts : α → σ} {a : α} (hfields : fs.ReadsBack (parts a)) (hmake : make (parts a) = a) :
    (record name fs make parts).ReadsBack a :=
  checkedRecord_readsBack hfields (by rw [hmake])

/-- A document that holds what was written of a value is read as that value. -/
theorem Codec.ReadsBack.decode {α : Type} {c : Codec α} {a : α} (h : c.ReadsBack a) :
    c.decode (c.write a) = .ok a := by
  have hread := h.reads [] .nil
  rw [List.append_nil] at hread
  rw [Codec.decode, hread]
  rfl

end AggregateGateway.Json
