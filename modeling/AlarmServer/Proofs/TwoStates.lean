import AlarmServer.Proofs.Changes

/-!
# States of two-state variables

`AddressSpace.idOf` tells of a node and a kind whether the node is a condition with that variable,
and which state the variable is in. Commits change it, and the begin and the end of a node do. Only
a commit of the true state makes a variable true.
-/

namespace AlarmServer

namespace ConditionState

/-- State of a variable, if the condition has it. -/
def idOf (c : ConditionState) (k : TransitionKind) : Option Bool :=
  (c.twoStates.find? k).map TwoState.id

/-- A change of one variable leaves the states of the others. -/
theorem idOf_changeTwoState (c : ConditionState) (k k' : TransitionKind) (f : TwoState → TwoState) :
    (c.changeTwoState k f).idOf k' =
      if k' = k then (c.twoStates.find? k).map fun s => (f s).id else c.idOf k' := by
  simp only [idOf, changeTwoState, Table.find?_modify]
  split
  · rw [Option.map_map]
    rfl
  · rfl

/-- A value in a field changes no two-state variable. -/
@[simp] theorem twoStates_store (c : ConditionState) (f : Field) (v : Variant) :
    (c.store f v).twoStates = c.twoStates := by
  unfold store
  split
  · split <;> rfl
  · rfl

/-- In a new condition all variables are in the false state. -/
theorem idOf_create (type : ConditionType) (source : NodeId) (sourceName name : String)
    (now : Instant) (k : TransitionKind) :
    (ConditionState.create type source sourceName name now).idOf k =
      if k ∈ type.kinds then some false else none := by
  cases type <;> cases k <;> simp [idOf, create, ConditionType.kinds, ConditionType.depth,
    Table.ofList, Table.find?_insert, TwoState.initial]

end ConditionState

/-- Entering a state leads there. -/
@[simp] theorem TwoState.id_enter (id : Bool) (now : Instant) (s : TwoState) :
    (TwoState.enter id now s).id = id := by
  unfold TwoState.enter
  split
  · assumption
  · rfl

namespace Node

/-- State of a variable, if the node is a condition that has it. -/
def idOf (n : Node) (k : TransitionKind) : Option Bool :=
  match n.body with
  | .condition c => c.idOf k
  | _ => none

/-- The variables of a node are those of its condition. -/
theorem idOf_of_body {n : Node} {c : ConditionState} (h : n.body = .condition c)
    (k : TransitionKind) : n.idOf k = c.idOf k := by
  simp [idOf, h]

private theorem idOf_congr {n m : Node} (h : n.body = m.body) (k : TransitionKind) :
    n.idOf k = m.idOf k := by
  simp [idOf, h]

end Node

namespace AddressSpace

variable {β : Type} {sp sp' : AddressSpace β}

/-- State of a two-state variable, if there is a condition of that identifier that has it. -/
def idOf (sp : AddressSpace β) (c : NodeId) (k : TransitionKind) : Option Bool :=
  (sp.nodes.find? c).bind fun n => n.idOf k

/-- The variables of a node are those of the condition that is found there. -/
theorem idOf_of_condition {id : NodeId} {c : ConditionState} (h : sp.condition id = .ok c)
    (k : TransitionKind) : sp.idOf id k = c.idOf k := by
  obtain ⟨n, hn, hb⟩ := condition_eq_ok_iff.1 h
  rw [idOf, hn, Option.bind_some, Node.idOf_of_body hb]

/-- The state that a read of the variable gives is the one meant here. -/
theorem twoState_eq_ok_idOf {id : NodeId} {k : TransitionKind} {ts : TwoState}
    (h : sp.twoState id k = .ok ts) : sp.idOf id k = some ts.id := by
  obtain ⟨c, hc, hts⟩ := twoState_eq_ok_iff.1 h
  rw [idOf_of_condition hc, ConditionState.idOf, hts, Option.map_some]

/-- A variable has a state exactly if it can be read. -/
theorem idOf_eq_some_iff {id : NodeId} {k : TransitionKind} {b : Bool} :
    sp.idOf id k = some b ↔ ∃ ts, sp.twoState id k = .ok ts ∧ ts.id = b := by
  constructor
  · intro h
    obtain ⟨n, hn, hb⟩ := Option.bind_eq_some_iff.1 h
    unfold Node.idOf at hb
    split at hb
    · next c hc =>
      obtain ⟨ts, hts, rfl⟩ := Option.map_eq_some_iff.1 hb
      exact ⟨ts, twoState_eq_ok_iff.2 ⟨c, condition_eq_ok_iff.2 ⟨n, hn, hc⟩, hts⟩, rfl⟩
    · cases hb
  · rintro ⟨ts, h, rfl⟩
    exact twoState_eq_ok_idOf h

/-! ### Changes of nodes -/

/-- A change of a node that keeps what it is. -/
theorem idOf_modifyNode (sp : AddressSpace β) (id : NodeId) {f : Node → Node}
    (hf : ∀ n, (f n).body = n.body) (c : NodeId) (k : TransitionKind) :
    (sp.modifyNode id f).idOf c k = sp.idOf c k := by
  simp only [idOf, modifyNode, Table.find?_modify]
  split
  · next h =>
    subst h
    rw [Option.bind_map]
    cases sp.nodes.find? c with
    | none => rfl
    | some n => exact Node.idOf_congr (hf n) k
  · rfl

private theorem idOf_place (sp : AddressSpace β) (id : NodeId) (n : Node) (c : NodeId)
    (k : TransitionKind) :
    (sp.place id n).idOf c k = if c = id then n.idOf k else sp.idOf c k := by
  simp only [idOf, place, Table.find?_insert]
  split <;> rfl

private theorem idOf_allocate (sp : AddressSpace β) (c : NodeId) (k : TransitionKind) :
    sp.allocate.2.idOf c k = sp.idOf c k := rfl

/-- A condition that is replaced shows the variables of the new one. -/
theorem idOf_setCondition {id : NodeId} {old : ConditionState} (h : sp.condition id = .ok old)
    (new : ConditionState) (c : NodeId) (k : TransitionKind) :
    (sp.setCondition id new).idOf c k = if c = id then new.idOf k else sp.idOf c k := by
  obtain ⟨n, hn, -⟩ := condition_eq_ok_iff.1 h
  simp only [idOf, setCondition, modifyNode, Table.find?_modify]
  split
  · rw [hn]
    rfl
  · rfl

/-- A reference does not change what a node is. -/
theorem idOf_modifyNode_refer (sp : AddressSpace β) (source type target : NodeId) (c : NodeId)
    (k : TransitionKind) :
    (sp.modifyNode source (Node.refer type target)).idOf c k = sp.idOf c k := by
  apply idOf_modifyNode
  intro n
  rfl

private theorem idOf_expose (sp : AddressSpace β) (source id : NodeId) (parent : Option NodeId)
    (c : NodeId) (k : TransitionKind) : (sp.expose source id parent).idOf c k = sp.idOf c k := by
  unfold expose
  split
  · rw [idOf_modifyNode_refer, idOf_modifyNode_refer]
  · rw [idOf_modifyNode_refer]

/-! ### Operations -/

variable {id : NodeId}

private theorem idOf_addPart {parent : NodeId} {n : Node} (hn : ∀ k, n.idOf k = none)
    (h : sp.addPart parent n = .ok (id, sp')) (c : NodeId) (k : TransitionKind) :
    sp'.idOf c k = if c = id then none else sp.idOf c k := by
  obtain ⟨-, rfl, rfl⟩ := addPart_eq_ok_iff.1 h
  rw [idOf_modifyNode_refer, idOf_place, hn, idOf_allocate]

private theorem idOf_addObject {parent : NodeId} {name : QualifiedName}
    (h : sp.addObject parent name = .ok (id, sp')) (c : NodeId) (k : TransitionKind) :
    sp'.idOf c k = if c = id then none else sp.idOf c k :=
  idOf_addPart (fun _ => rfl) h c k

private theorem idOf_addVariable {parent : NodeId} {name : QualifiedName} {value : Variant}
    {level : AccessLevel} (h : sp.addVariable parent name value level = .ok (id, sp')) (c : NodeId)
    (k : TransitionKind) : sp'.idOf c k = if c = id then none else sp.idOf c k :=
  idOf_addPart (fun _ => rfl) h c k

private theorem idOf_setNotifier {notifier : Bool} (h : sp.setNotifier id notifier = .ok sp')
    (c : NodeId) (k : TransitionKind) : sp'.idOf c k = sp.idOf c k := by
  obtain ⟨-, rfl⟩ := setNotifier_eq_ok_iff.1 h
  apply idOf_modifyNode
  intro n
  rfl

private theorem idOf_addReference {source target type : NodeId}
    (h : sp.addReference source target type = .ok sp') (c : NodeId) (k : TransitionKind) :
    sp'.idOf c k = sp.idOf c k := by
  obtain ⟨-, -, -, rfl⟩ := addReference_eq_ok_iff.1 h
  apply idOf_modifyNode
  intro n
  unfold Node.referOnce
  split <;> rfl

/-- A variable is no condition, before the write and after it. -/
theorem idOf_writeValue {value : Variant} (h : sp.writeValue id value = .ok sp') (c : NodeId)
    (k : TransitionKind) : sp'.idOf c k = sp.idOf c k := by
  obtain ⟨v, hv, -, -, rfl⟩ := writeValue_eq_ok_iff.1 h
  obtain ⟨n, hn, hb⟩ := variableAt_eq_ok_iff.1 hv
  simp only [idOf, modifyNode, Table.find?_modify]
  split
  · next hc =>
    rw [hc, hn]
    simp [Node.idOf, hb]
  · rfl

private theorem idOf_deleteNode {withReferences : Bool}
    (h : sp.deleteNode id withReferences = .ok sp')
    (c : NodeId) (k : TransitionKind) : sp'.idOf c k = if c = id then none else sp.idOf c k := by
  obtain ⟨-, rfl⟩ := deleteNode_eq_ok_iff.1 h
  have he : ((sp.nodes.erase id).find? c).bind (fun n => n.idOf k) =
      if c = id then none else sp.idOf c k := by
    rw [Table.find?_erase]
    split <;> rfl
  rw [← he]
  cases withReferences with
  | false => rfl
  | true =>
    simp only [idOf, if_true, Table.find?_mapValues, Option.bind_map]
    rfl

/-- In a new condition all variables of its type are in the false state. -/
theorem idOf_createCondition {now : Instant} {r : ConditionRequest}
    (h : sp.createCondition now r = .ok (id, sp')) :
    ∃ type, ConditionType.ofNode? r.conditionType = some type ∧ ∀ c k, sp'.idOf c k =
      if c = id then if k ∈ type.kinds then some false else none else sp.idOf c k := by
  obtain ⟨type, source, sp₁, htype, -, -, -, hid, rfl⟩ := createCondition_eq_ok_iff.1 h
  have h₁ : ∀ c k, sp₁.idOf c k = sp.idOf c k := by
    rcases conditionId_eq_ok_iff.1 hid with ⟨-, -, -, rfl⟩ | ⟨-, ha⟩
    · exact fun _ _ => rfl
    · intro c k
      rw [show sp₁ = sp.allocate.2 from congrArg Prod.snd ha]
      exact idOf_allocate sp c k
  refine ⟨type, htype, fun c k => ?_⟩
  rw [idOf_expose, idOf_place, h₁, ← ConditionState.idOf_create]
  rfl

/-- A write of a field changes no two-state variable. -/
theorem idOf_writeField {field : QualifiedName} {value : Variant}
    (h : sp.writeField id field value = .ok sp') (c : NodeId) (k : TransitionKind) :
    sp'.idOf c k = sp.idOf c k := by
  obtain ⟨cs, f, hc, -, rfl⟩ := writeField_eq_ok_iff.1 h
  rw [idOf_setCondition hc]
  split
  · next he =>
    rw [he, idOf_of_condition hc, ConditionState.idOf, ConditionState.twoStates_store,
      ConditionState.idOf]
  · rfl

/-- A commit leads its variable to the state, and leaves all others alone. -/
theorem idOf_commit {kind : TransitionKind} {value : Bool} {now : Instant}
    (h : sp.commit id kind value now = .ok sp') (c : NodeId) (k : TransitionKind) :
    sp'.idOf c k = if c = id ∧ k = kind then some value else sp.idOf c k := by
  obtain ⟨cs, ts, hc, hts, rfl⟩ := commit_eq_ok_iff.1 h
  rw [idOf_setCondition hc, ConditionState.idOf_changeTwoState, hts]
  by_cases hid : c = id
  · rw [hid, idOf_of_condition hc]
    simp
  · simp [hid]

/-- A commit succeeds exactly if the variable is there. -/
theorem commit_isOk_iff {kind : TransitionKind} (value : Bool) (now : Instant) :
    (∃ sp', sp.commit id kind value now = .ok sp') ↔ (sp.idOf id kind).isSome := by
  simp only [commit_eq_ok_iff, Option.isSome_iff_exists, idOf_eq_some_iff, twoState_eq_ok_iff]
  constructor
  · rintro ⟨_, c, ts, hc, hts, rfl⟩
    exact ⟨ts.id, ts, ⟨c, hc, hts⟩, rfl⟩
  · rintro ⟨_, ts, ⟨c, hc, hts⟩, rfl⟩
    exact ⟨_, c, ts, hc, hts, rfl⟩

/-- A change of a time changes no state. -/
theorem idOf_setTransitionTime {kind : TransitionKind} {time : Instant}
    (h : sp.setTransitionTime id kind time = .ok sp') (c : NodeId) (k : TransitionKind) :
    sp'.idOf c k = sp.idOf c k := by
  obtain ⟨cs, ts, hc, hts, rfl⟩ := setTransitionTime_eq_ok_iff.1 h
  rw [idOf_setCondition hc, ConditionState.idOf_changeTwoState]
  split
  · next hid =>
    rw [hid, idOf_of_condition hc]
    split
    · next hk => rw [hk, ConditionState.idOf]
    · rfl
  · rfl

/-- A publication leaves every variable as it is. -/
theorem idOf_publish {source : NodeId} {eventId : EventId} {now : Instant}
    (h : sp.publish id source eventId now = .ok sp') (c : NodeId) (k : TransitionKind) :
    sp'.idOf c k = sp.idOf c k := by
  obtain ⟨cs, hc, rfl⟩ := publish_eq_ok_iff.1 h
  change (sp.setCondition id (cs.noted eventId now)).idOf c k = _
  rw [idOf_setCondition hc]
  split
  · next hid => rw [hid, idOf_of_condition hc, ConditionState.idOf, ConditionState.noted,
      ConditionState.idOf]
  · rfl

end AddressSpace

namespace Change

variable {β : Type} {ch : Change β} {sp sp' : AddressSpace β} {c : NodeId} {k : TransitionKind}

private theorem identifier_of_create {id : NodeId} {now : Instant} {r : ConditionRequest}
    (h : sp.createCondition now r = .ok (id, sp')) :
    id = sp.allocate.1 ∨ sp.nodes.contains id = false := by
  obtain ⟨-, -, sp₁, -, -, -, -, hid, -⟩ := AddressSpace.createCondition_eq_ok_iff.1 h
  rcases AddressSpace.conditionId_eq_ok_iff.1 hid with ⟨-, hf, -, -⟩ | ⟨-, ha⟩
  · exact .inr hf
  · exact .inl (congrArg Prod.fst ha)

/-- What becomes of the states of variables: a commit sets one, the end of a node ends its own, a
new node has none that is true, and nothing else touches them. -/
theorem idOf_apply (h : ch.apply sp = .ok sp') :
    (∃ id kind value now, ch = .commit id kind value now ∧
      ∀ c k, sp'.idOf c k = if c = id ∧ k = kind then some value else sp.idOf c k) ∨
    (∃ id refs, ch = .deleteNode id refs ∧
      ∀ c k, sp'.idOf c k = if c = id then none else sp.idOf c k) ∨
    (∃ id, (id = sp.allocate.1 ∨ sp.nodes.contains id = false) ∧
      (∀ k, sp'.idOf id k ≠ some true) ∧ ∀ c k, c ≠ id → sp'.idOf c k = sp.idOf c k) ∨
    ∀ c k, sp'.idOf c k = sp.idOf c k := by
  cases ch with
  | addObject parent name =>
    obtain ⟨⟨id, _⟩, hadd, rfl⟩ := except_map_eq_ok_iff.1 h
    obtain ⟨-, hid, -⟩ := AddressSpace.addPart_eq_ok_iff.1 hadd
    have hi := AddressSpace.idOf_addObject hadd
    refine .inr (.inr (.inl ⟨id, .inl hid, fun k => ?_, fun c k hc => ?_⟩))
    · simp [hi]
    · simp [hi, hc]
  | addVariable parent name value level =>
    obtain ⟨⟨id, _⟩, hadd, rfl⟩ := except_map_eq_ok_iff.1 h
    obtain ⟨-, hid, -⟩ := AddressSpace.addPart_eq_ok_iff.1 hadd
    have hi := AddressSpace.idOf_addVariable hadd
    refine .inr (.inr (.inl ⟨id, .inl hid, fun k => ?_, fun c k hc => ?_⟩))
    · simp [hi]
    · simp [hi, hc]
  | setNotifier id notifier => exact .inr (.inr (.inr (AddressSpace.idOf_setNotifier h)))
  | addReference source target type =>
    exact .inr (.inr (.inr (AddressSpace.idOf_addReference h)))
  | writeValue id value => exact .inr (.inr (.inr (AddressSpace.idOf_writeValue h)))
  | watch id callback =>
    obtain ⟨-, rfl⟩ := AddressSpace.watch_eq_ok_iff.1 h
    exact .inr (.inr (.inr fun _ _ => rfl))
  | deleteNode id refs => exact .inr (.inl ⟨id, refs, rfl, AddressSpace.idOf_deleteNode h⟩)
  | createCondition now r =>
    obtain ⟨⟨id, _⟩, hadd, rfl⟩ := except_map_eq_ok_iff.1 h
    obtain ⟨type, -, hi⟩ := AddressSpace.idOf_createCondition hadd
    refine .inr (.inr (.inl ⟨id, identifier_of_create hadd, fun k => ?_, fun c k hc => ?_⟩))
    · rw [hi, if_pos rfl]
      split <;> simp
    · simp [hi, hc]
  | writeField id field value => exact .inr (.inr (.inr (AddressSpace.idOf_writeField h)))
  | commit id kind value now =>
    exact .inl ⟨id, kind, value, now, rfl, AddressSpace.idOf_commit h⟩
  | setTransitionTime id kind time =>
    exact .inr (.inr (.inr (AddressSpace.idOf_setTransitionTime h)))
  | installHook hook =>
    obtain ⟨_, -, -, -, rfl⟩ := AddressSpace.installHook_eq_ok_iff.1 h
    exact .inr (.inr (.inr fun _ _ => rfl))
  | publish id source eventId now => exact .inr (.inr (.inr (AddressSpace.idOf_publish h)))

/-- Only a commit of the true state makes a variable true. -/
theorem eq_commit_of_raise (h : ch.apply sp = .ok sp') (hb : sp.idOf c k ≠ some true)
    (ha : sp'.idOf c k = some true) : ∃ now, ch = .commit c k true now := by
  rcases idOf_apply h with ⟨id, kind, value, now, rfl, hi⟩ | ⟨id, refs, rfl, hi⟩ |
    ⟨id, -, hid, hi⟩ | hi
  · rw [hi] at ha
    split at ha
    · next he =>
      obtain ⟨rfl, rfl⟩ := he
      cases ha
      exact ⟨now, rfl⟩
    · exact absurd ha hb
  · rw [hi] at ha
    split at ha
    · cases ha
    · exact absurd ha hb
  · by_cases hc : c = id
    · exact absurd (hc ▸ ha) (hid k)
    · exact absurd (hi c k hc ▸ ha) hb
  · exact absurd (hi c k ▸ ha) hb

/-- A variable that is true stays so until the false state is committed, its node is deleted, or the
identifier of its node is given out again. -/
theorem lowers_of_apply (h : ch.apply sp = .ok sp') (hb : sp.idOf c k = some true)
    (ha : sp'.idOf c k ≠ some true) :
    (∃ now, ch = .commit c k false now) ∨ (∃ refs, ch = .deleteNode c refs) ∨
      c = sp.allocate.1 := by
  rcases idOf_apply h with ⟨id, kind, value, now, rfl, hi⟩ | ⟨id, refs, rfl, hi⟩ |
    ⟨id, hid, -, hi⟩ | hi
  · rw [hi] at ha
    split at ha
    · next he =>
      obtain ⟨rfl, rfl⟩ := he
      cases value with
      | false => exact .inl ⟨now, rfl⟩
      | true => exact absurd rfl ha
    · exact absurd hb ha
  · rw [hi] at ha
    split at ha
    · next he => exact .inr (.inl ⟨refs, he ▸ rfl⟩)
    · exact absurd hb ha
  · by_cases hc : c = id
    · rcases hid with hid | hid
      · exact .inr (.inr (hc.trans hid))
      · obtain ⟨n, hn, -⟩ := Option.bind_eq_some_iff.1 hb
        rw [← hc, Table.contains, hn] at hid
        cases hid
    · exact absurd (hi c k hc ▸ hb) ha
  · exact absurd (hi c k ▸ hb) ha

end Change

end AlarmServer
