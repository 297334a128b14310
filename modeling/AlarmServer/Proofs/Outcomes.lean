import AlarmServer.Proofs.Actions

/-!
# Outcomes of operations on the address space

For each operation that may fail: when it succeeds, which address space it leads to then, and that
it makes its checks first. Proofs about the operations use these laws and not the definitions.
-/

namespace AlarmServer

namespace Node

/-- A node is a condition if its body says so. -/
theorem condition_eq_ok_iff {n : Node} {c : ConditionState} :
    n.condition = .ok c ↔ n.body = .condition c := by
  unfold condition
  split <;> simp_all

/-- A node is a variable if its body says so. -/
theorem asVariable_eq_ok_iff {n : Node} {v : VariableState} :
    n.asVariable = .ok v ↔ n.body = .variable v := by
  unfold asVariable
  split <;> simp_all

end Node

namespace ConditionState

/-- A variable is found if the condition has it. -/
theorem twoState_eq_ok_iff {c : ConditionState} {k : TransitionKind} {ts : TwoState} :
    c.twoState k = .ok ts ↔ c.twoStates.find? k = some ts := by
  unfold twoState
  split <;> simp_all

end ConditionState

/-! ### Checks first

Every operation but one makes all its checks before its first change. Additions of sources of events
are the exception: they consist of three operations. -/

namespace SpaceAction

variable {β : Type}

private theorem checksFirst_addPart (parent : NodeId) (n : Node) :
    ChecksFirst (addPart parent n : SpaceAction β NodeId) := by
  apply checksFirst_query_bind
  intro _
  apply NeverFails.checksFirst
  apply (neverFails_modifyGet _).bind
  intro id
  apply (neverFails_modify _).bind
  intro _
  apply (neverFails_modify _).bind
  intro _
  exact neverFails_pure id

/-- An object is added after the check of its parent. -/
theorem checksFirst_addObject (parent : NodeId) (name : QualifiedName) :
    ChecksFirst (addObject parent name : SpaceAction β NodeId) :=
  checksFirst_addPart parent _

/-- A variable is added after the check of its parent. -/
theorem checksFirst_addVariable (parent : NodeId) (name : QualifiedName) (value : Variant)
    (level : AccessLevel) :
    ChecksFirst (addVariable parent name value level : SpaceAction β NodeId) :=
  checksFirst_addPart parent _

/-- A node is marked after the check that it is there. -/
theorem checksFirst_setNotifier (id : NodeId) (notifier : Bool) :
    ChecksFirst (setNotifier id notifier : SpaceAction β Unit) := by
  apply checksFirst_query_bind
  intro _
  exact (neverFails_modify _).checksFirst

/-- A reference is added after the checks of its type and of both its ends. -/
theorem checksFirst_addReference (source target type : NodeId) :
    ChecksFirst (addReference source target type : SpaceAction β Unit) := by
  apply checksFirst_unless
  apply checksFirst_query_bind
  intro _
  apply checksFirst_query_bind
  intro _
  exact (neverFails_modify _).checksFirst

/-- A value is stored after the checks of the variable, of its level and of the data type. -/
theorem checksFirst_writeValue (id : NodeId) (value : Variant) :
    ChecksFirst (writeValue id value : SpaceAction β Unit) := by
  apply checksFirst_query_bind
  intro v
  apply checksFirst_unless
  apply checksFirst_unless
  exact (neverFails_modify _).checksFirst

/-- A watcher is set after the check of its node. -/
theorem checksFirst_watch (id : NodeId) (callback : β) : ChecksFirst (watch id callback) := by
  apply checksFirst_query_bind
  intro _
  exact (neverFails_modify _).checksFirst

/-- All that goes with a node goes after the check that the node is there. -/
theorem checksFirst_deleteNode (id : NodeId) (withReferences : Bool) :
    ChecksFirst (deleteNode id withReferences : SpaceAction β Unit) := by
  apply checksFirst_query_bind
  intro _
  apply NeverFails.checksFirst
  apply (neverFails_modify _).bind
  intro _
  apply (neverFails_modify _).bind
  intro _
  apply (neverFails_modify _).bind
  intro _
  cases withReferences with
  | false => exact neverFails_modify _
  | true =>
    apply (neverFails_modify _).bind
    intro _
    exact neverFails_modify _

private theorem checksFirst_conditionId (requested : Option NodeId) :
    ChecksFirst (conditionId requested : SpaceAction β NodeId) := by
  cases requested with
  | none => exact (neverFails_modifyGet _).checksFirst
  | some id =>
    apply checksFirst_get_bind
    intro sp
    split
    · exact checksFirst_throw _
    · split
      · exact (neverFails_modifyGet _).checksFirst
      · exact (neverFails_pure id).checksFirst

/-- A condition is placed after all checks of the request. The choice of its identifier is the last
one that may fail. -/
theorem checksFirst_createCondition (now : Instant) (r : ConditionRequest) :
    ChecksFirst (createCondition now r : SpaceAction β NodeId) := by
  unfold createCondition
  cases ConditionType.ofNode? r.conditionType with
  | none => exact checksFirst_throw _
  | some type =>
    apply checksFirst_get_bind
    intro sp
    cases sp.nodes.find? r.source with
    | none => exact checksFirst_throw _
    | some source =>
      apply checksFirst_unless
      apply checksFirst_get_bind
      intro _
      apply checksFirst_if_throw
      -- the identifier is taken last, and nothing is checked after that
      apply (checksFirst_conditionId _).bind
      intro id
      apply (neverFails_modify _).bind
      intro _
      apply (neverFails_modify _).bind
      intro _
      cases r.parentReference with
      | none => exact neverFails_pure id
      | some parent =>
        apply (neverFails_modify _).bind
        intro _
        exact neverFails_pure id

/-- A field is written after the checks of its name and its data type. -/
theorem checksFirst_writeField (id : NodeId) (field : QualifiedName) (value : Variant) :
    ChecksFirst (writeField id field value : SpaceAction β Unit) := by
  apply checksFirst_query_bind
  intro c
  apply checksFirst_query_bind
  intro new
  exact (neverFails_modify _).checksFirst

/-- A state is committed after the check that the variable is there. -/
theorem checksFirst_commit (id : NodeId) (kind : TransitionKind) (value : Bool) (now : Instant) :
    ChecksFirst (commit id kind value now : SpaceAction β Unit) := by
  apply checksFirst_query_bind
  intro c
  apply checksFirst_query_bind
  intro _
  exact (neverFails_modify _).checksFirst

/-- A time is set after the check that the variable is there. -/
theorem checksFirst_setTransitionTime (id : NodeId) (kind : TransitionKind) (time : Instant) :
    ChecksFirst (setTransitionTime id kind time : SpaceAction β Unit) := by
  apply checksFirst_query_bind
  intro c
  apply checksFirst_query_bind
  intro _
  exact (neverFails_modify _).checksFirst

/-- A hook is installed after the checks of its condition, its variable and its source. -/
theorem checksFirst_installHook (h : Hook β) : ChecksFirst (installHook h) := by
  apply checksFirst_query_bind
  intro c
  apply checksFirst_unless
  apply checksFirst_get_bind
  intro sp
  apply checksFirst_unless
  exact (neverFails_modify _).checksFirst

/-- An event is noted, counted and kept after the check that the condition is there. -/
theorem checksFirst_publish (id source : NodeId) (eventId : EventId) (now : Instant) :
    ChecksFirst (publish id source eventId now : SpaceAction β Unit) := by
  apply checksFirst_query_bind
  intro c
  apply NeverFails.checksFirst
  apply (neverFails_modify _).bind
  intro _
  exact neverFails_modify _

end SpaceAction

namespace AddressSpace

open SpaceAction

variable {β : Type}

/-! ### What operations lead to

What each operation gives where it succeeds, and the address space that it leads to from there. -/

/-- Add a node as a part of another. -/
def addPart (sp : AddressSpace β) (parent : NodeId) (n : Node) :
    Except StatusCode (NodeId × AddressSpace β) :=
  (SpaceAction.addPart parent n).outcome sp

/-- Add an object. -/
def addObject (sp : AddressSpace β) (parent : NodeId) (name : QualifiedName) :
    Except StatusCode (NodeId × AddressSpace β) :=
  (SpaceAction.addObject parent name).outcome sp

/-- Add a variable. -/
def addVariable (sp : AddressSpace β) (parent : NodeId) (name : QualifiedName) (value : Variant)
    (level : AccessLevel) : Except StatusCode (NodeId × AddressSpace β) :=
  (SpaceAction.addVariable parent name value level).outcome sp

/-- Allow or forbid events to leave from a node. -/
def setNotifier (sp : AddressSpace β) (id : NodeId) (notifier : Bool) :
    Except StatusCode (AddressSpace β) :=
  (SpaceAction.setNotifier id notifier).effect sp

/-- Add a reference, once. -/
def addReference (sp : AddressSpace β) (source target type : NodeId) :
    Except StatusCode (AddressSpace β) :=
  (SpaceAction.addReference source target type).effect sp

/-- Store a value in a variable. -/
def writeValue (sp : AddressSpace β) (id : NodeId) (value : Variant) :
    Except StatusCode (AddressSpace β) :=
  (SpaceAction.writeValue id value).effect sp

/-- Add a source of events. The address space is also given where that fails. -/
def addEventSource (sp : AddressSpace β) (name : QualifiedName) :
    Except StatusCode NodeId × AddressSpace β :=
  (SpaceAction.addEventSource name).result sp

/-- Watch a node. -/
def watch (sp : AddressSpace β) (id : NodeId) (callback : β) : Except StatusCode (AddressSpace β) :=
  (SpaceAction.watch id callback).effect sp

/-- Delete a node. -/
def deleteNode (sp : AddressSpace β) (id : NodeId) (withReferences : Bool) :
    Except StatusCode (AddressSpace β) :=
  (SpaceAction.deleteNode id withReferences).effect sp

/-- Choose the identifier of a new condition. -/
def conditionId (sp : AddressSpace β) (requested : Option NodeId) :
    Except StatusCode (NodeId × AddressSpace β) :=
  (SpaceAction.conditionId requested).outcome sp

/-- Create a condition. -/
def createCondition (sp : AddressSpace β) (now : Instant) (r : ConditionRequest) :
    Except StatusCode (NodeId × AddressSpace β) :=
  (SpaceAction.createCondition now r).outcome sp

/-- Write a field of a condition. -/
def writeField (sp : AddressSpace β) (id : NodeId) (field : QualifiedName) (value : Variant) :
    Except StatusCode (AddressSpace β) :=
  (SpaceAction.writeField id field value).effect sp

/-- Put a two-state variable into a state. -/
def commit (sp : AddressSpace β) (id : NodeId) (kind : TransitionKind) (value : Bool)
    (now : Instant) : Except StatusCode (AddressSpace β) :=
  (SpaceAction.commit id kind value now).effect sp

/-- Say when a two-state variable entered its state. -/
def setTransitionTime (sp : AddressSpace β) (id : NodeId) (kind : TransitionKind) (time : Instant) :
    Except StatusCode (AddressSpace β) :=
  (SpaceAction.setTransitionTime id kind time).effect sp

/-- Install a hook. -/
def installHook (sp : AddressSpace β) (h : Hook β) : Except StatusCode (AddressSpace β) :=
  (SpaceAction.installHook h).effect sp

/-- Publish a condition. -/
def publish (sp : AddressSpace β) (id source : NodeId) (eventId : EventId) (now : Instant) :
    Except StatusCode (AddressSpace β) :=
  (SpaceAction.publish id source eventId now).effect sp

/-! ### Look-ups -/

variable {sp sp' : AddressSpace β} {id : NodeId}

/-- A node is found if it is there. -/
theorem node_eq_ok_iff {n : Node} : sp.node id = .ok n ↔ sp.nodes.find? id = some n := by
  unfold node
  split <;> simp_all

private theorem node_of_missing {id : NodeId} (h : sp.nodes.contains id = false) :
    sp.node id = .error .badNodeIdUnknown := by
  have hnone : sp.nodes.find? id = none := by simpa [Table.contains] using h
  rw [node, hnone]

/-- A condition is found if its node is there and is a condition. -/
theorem condition_eq_ok_iff {c : ConditionState} :
    sp.condition id = .ok c ↔ ∃ n, sp.nodes.find? id = some n ∧ n.body = .condition c := by
  simp only [condition, except_bind_eq_ok_iff, node_eq_ok_iff, Node.condition_eq_ok_iff]

/-- A condition whose state was replaced has the new one. -/
theorem condition_setCondition {old : ConditionState} (h : sp.condition id = .ok old)
    (new : ConditionState) : (sp.setCondition id new).condition id = .ok new := by
  obtain ⟨n, hn, -⟩ := condition_eq_ok_iff.1 h
  refine condition_eq_ok_iff.2 ⟨{ n with body := .condition new }, ?_, rfl⟩
  simp only [setCondition, modifyNode, Table.find?_modify, if_true, hn, Option.map_some]

/-- Of two replacements the second one counts. -/
theorem setCondition_setCondition (sp : AddressSpace β) (id : NodeId) (c d : ConditionState) :
    (sp.setCondition id c).setCondition id d = sp.setCondition id d := by
  simp only [setCondition, modifyNode, Table.modify_modify]

/-- A variable is found if its node is there and is a variable. -/
theorem variableAt_eq_ok_iff {v : VariableState} :
    sp.variableAt id = .ok v ↔ ∃ n, sp.nodes.find? id = some n ∧ n.body = .variable v := by
  simp only [variableAt, except_bind_eq_ok_iff, node_eq_ok_iff, Node.asVariable_eq_ok_iff]

/-- A kind is found by the name of its variable. -/
theorem kindNamed_eq_ok_iff {name : QualifiedName} {k : TransitionKind} :
    kindNamed name = .ok k ↔ TransitionKind.ofVariable? name.name = some k := by
  unfold kindNamed
  split <;> simp_all

/-- A two-state variable is found if the condition is there and has it. -/
theorem twoState_eq_ok_iff {k : TransitionKind} {ts : TwoState} :
    sp.twoState id k = .ok ts ↔ ∃ c, sp.condition id = .ok c ∧ c.twoStates.find? k = some ts := by
  simp only [twoState, except_bind_eq_ok_iff, ConditionState.twoState_eq_ok_iff]

/-! ### Objects and variables -/

/-- A part is added under the next identifier, below a node that exists. -/
theorem addPart_eq_ok_iff {parent : NodeId} {n : Node} :
    sp.addPart parent n = .ok (id, sp') ↔ (sp.nodes.find? parent).isSome ∧ id = sp.allocate.1 ∧
      sp' = (sp.allocate.2.place id n).modifyNode parent (Node.refer .hasComponent id) := by
  simp only [addPart, SpaceAction.addPart, outcome_query_bind_eq_ok_iff, node_eq_ok_iff,
    outcome_modifyGet_bind, outcome_modify_bind, outcome_pure, Except.ok.injEq, Prod.mk.injEq,
    exists_and_right, Option.isSome_iff_exists, eq_comm (a := sp'), eq_comm (a := id)]
  refine and_congr_right fun _ => and_congr_right ?_
  rintro rfl
  rfl

private theorem addPart_of_missing {parent : NodeId} (h : sp.nodes.contains parent = false)
    (n : Node) : sp.addPart parent n = .error .badNodeIdUnknown := by
  rw [addPart, SpaceAction.addPart, outcome_query_bind, node_of_missing h]

/-- A node is marked if it is there. -/
theorem setNotifier_eq_ok_iff {notifier : Bool} :
    sp.setNotifier id notifier = .ok sp' ↔ (sp.nodes.find? id).isSome ∧
      sp' = sp.modifyNode id fun n => { n with notifier := notifier } := by
  simp only [setNotifier, SpaceAction.setNotifier, effect_eq_ok_iff, outcome_query_bind_eq_ok_iff,
    node_eq_ok_iff, outcome_modify, Except.ok.injEq, Prod.mk.injEq, true_and, exists_and_right,
    Option.isSome_iff_exists, eq_comm (a := sp')]

/-- A reference is added if it has the type of a reference and both ends are there. -/
theorem addReference_eq_ok_iff {source target type : NodeId} :
    sp.addReference source target type = .ok sp' ↔ type.isReferenceType = true ∧
      (sp.nodes.find? target).isSome ∧ (sp.nodes.find? source).isSome ∧
      sp' = sp.modifyNode source (Node.referOnce type target) := by
  simp only [addReference, SpaceAction.addReference, effect_eq_ok_iff, outcome_unless_eq_ok_iff,
    outcome_query_bind_eq_ok_iff, node_eq_ok_iff, outcome_modify, Except.ok.injEq, Prod.mk.injEq,
    true_and, exists_and_right, Option.isSome_iff_exists, eq_comm (a := sp')]

/-- A reference from a node that is not there is refused. -/
theorem addReference_of_missing {source target type : NodeId} (htype : type.isReferenceType = true)
    (htarget : sp.nodes.contains target = true) (hsource : sp.nodes.contains source = false) :
    sp.addReference source target type = .error .badNodeIdUnknown := by
  obtain ⟨n, hn⟩ := Option.isSome_iff_exists.1 htarget
  have hnode : sp.node target = .ok n := by rw [node, hn]
  rw [addReference, effect_eq_error_iff, SpaceAction.addReference, if_pos htype]
  show (query _ >>= fun _ => query _ >>= _ : SpaceAction β Unit).outcome sp = _
  rw [outcome_query_bind, hnode]
  show (query _ >>= _ : SpaceAction β Unit).outcome sp = _
  rw [outcome_query_bind, node_of_missing hsource]

/-- A value is stored if the variable may be written and has no value yet or one of that data type.
-/
theorem writeValue_eq_ok_iff {value : Variant} :
    sp.writeValue id value = .ok sp' ↔ ∃ v, sp.variableAt id = .ok v ∧ v.level.canWrite = true ∧
      (v.value.isEmpty || v.value.dataType = value.dataType) = true ∧
      sp' = sp.modifyNode id fun n => { n with body := .variable { v with value := value } } := by
  simp only [writeValue, SpaceAction.writeValue, effect_eq_ok_iff, outcome_unless_eq_ok_iff,
    outcome_query_bind_eq_ok_iff, outcome_modify, Except.ok.injEq, Prod.mk.injEq, true_and,
    eq_comm (a := sp')]

/-- A node is watched if it is there. -/
theorem watch_eq_ok_iff {callback : β} :
    sp.watch id callback = .ok sp' ↔ (sp.nodes.find? id).isSome ∧
      sp' = { sp with watchers := sp.watchers.insert id callback } := by
  simp only [watch, SpaceAction.watch, effect_eq_ok_iff, outcome_query_bind_eq_ok_iff,
    node_eq_ok_iff, outcome_modify, Except.ok.injEq, Prod.mk.injEq, true_and, exists_and_right,
    Option.isSome_iff_exists, eq_comm (a := sp')]

/-- A node is deleted if it is there, with its hooks and its watcher, and with the references to it
if that was asked for. -/
theorem deleteNode_eq_ok_iff {withReferences : Bool} :
    sp.deleteNode id withReferences = .ok sp' ↔ (sp.nodes.find? id).isSome ∧
      sp' = { sp with
        nodes := if withReferences then (sp.nodes.erase id).mapValues fun _ n => n.forget id
          else sp.nodes.erase id
        hooks := sp.hooks.filterKeys fun k => k.1 ≠ id
        watchers := sp.watchers.erase id
        deleted := sp.deleted + 1 } := by
  cases withReferences <;>
    simp only [deleteNode, SpaceAction.deleteNode, effect_eq_ok_iff, outcome_query_bind_eq_ok_iff,
      node_eq_ok_iff, outcome_modify_bind, outcome_modify, Except.ok.injEq, Prod.mk.injEq, true_and,
      exists_and_right, Option.isSome_iff_exists, eq_comm (a := sp'), if_true, if_false,
      Bool.false_eq_true]

/-- A deletion fails only where there is no node. -/
theorem missing_of_deleteNode {withReferences : Bool} {e : StatusCode}
    (h : sp.deleteNode id withReferences = .error e) : sp.nodes.contains id = false := by
  cases hc : sp.nodes.contains id with
  | false => rfl
  | true =>
    obtain ⟨sp', hok⟩ : ∃ sp', sp.deleteNode id withReferences = .ok sp' :=
      ⟨_, deleteNode_eq_ok_iff.2 ⟨hc, rfl⟩⟩
    rw [h] at hok
    cases hok

/-! ### Sources of events -/

/-- The next identifier is in the name space of the server. -/
theorem allocate_ne {ns : UInt16} {i : UInt32} (hns : ns ≠ 1) :
    NodeId.numeric ns i ≠ sp.allocate.1 :=
  fun h => hns (NodeId.numeric_inj.1 h).1

/-- The folder of objects is never given out. -/
theorem objectsFolder_ne_allocate (sp : AddressSpace β) : NodeId.objectsFolder ≠ sp.allocate.1 :=
  allocate_ne (by decide)

/-- The server object is never given out. -/
theorem serverObject_ne_allocate (sp : AddressSpace β) : NodeId.serverObject ≠ sp.allocate.1 :=
  allocate_ne (by decide)

/-- The object that is to become a source of events, in its folder and opened for events. -/
def openSource (name : QualifiedName) (sp : AddressSpace β) : AddressSpace β :=
  ((sp.allocate.2.place sp.allocate.1 (.create name .object)).modifyNode .objectsFolder
    (Node.refer .hasComponent sp.allocate.1)).modifyNode sp.allocate.1
      fun n => { n with notifier := true }

/-- The nodes once a source of events was placed and marked: the new object, the folder that refers
to it, and the others. -/
theorem find?_openSource (name : QualifiedName) (sp : AddressSpace β) (i : NodeId) :
    (sp.openSource name).nodes.find? i =
      if i = sp.allocate.1 then some { Node.create name .object with notifier := true }
      else if i = .objectsFolder then
        (sp.nodes.find? .objectsFolder).map (Node.refer .hasComponent sp.allocate.1)
      else sp.nodes.find? i := by
  have hfolder := sp.objectsFolder_ne_allocate
  simp only [openSource, modifyNode, place, Table.find?_modify, Table.find?_insert, if_pos,
    if_neg hfolder, if_neg hfolder.symm]
  split
  · rfl
  · rfl

/-- Only the new object has been added. -/
theorem contains_openSource (name : QualifiedName) (sp : AddressSpace β) (i : NodeId) :
    (sp.openSource name).nodes.contains i =
      (decide (i = sp.allocate.1) || sp.nodes.contains i) := by
  show ((((sp.nodes.insert _ _).modify _ _).modify _ _).contains i) = _
  rw [Table.contains_modify, Table.contains_modify, Table.contains_insert]

/-- What comes of an addition of a source of events. -/
inductive SourceOutcome (name : QualifiedName) (sp : AddressSpace β) :
    Except StatusCode NodeId → AddressSpace β → Prop where
  /-- There is no folder, and nothing is done. -/
  | refused (folder : sp.nodes.contains .objectsFolder = false) :
      SourceOutcome name sp (.error .badNodeIdUnknown) sp
  /-- There is no server object that could refer to the object, which stays. -/
  | abandoned (folder : sp.nodes.contains .objectsFolder = true)
      (server : sp.nodes.contains .serverObject = false) :
      SourceOutcome name sp (.error .badNodeIdUnknown) (sp.openSource name)
  /-- The server object refers to the object, too. -/
  | added (folder : sp.nodes.contains .objectsFolder = true)
      (server : sp.nodes.contains .serverObject = true) :
      SourceOutcome name sp (.ok sp.allocate.1) ((sp.openSource name).modifyNode .serverObject
        (Node.referOnce .hasNotifier sp.allocate.1))

/-- An addition goes as far as its operations succeed. -/
theorem addEventSource_steps (name : QualifiedName) (sp : AddressSpace β) :
    sp.addEventSource name = match sp.addObject .objectsFolder name with
      | .error e => (.error e, sp)
      | .ok (id, sp₁) => match sp₁.setNotifier id true with
        | .error e => (.error e, sp₁)
        | .ok sp₂ => match sp₂.addReference .serverObject id .hasNotifier with
          | .error e => (.error e, sp₂)
          | .ok sp₃ => (.ok id, sp₃) := by
  unfold addEventSource SpaceAction.addEventSource addObject
  rw [(checksFirst_addObject _ _).result_bind]
  cases (SpaceAction.addObject .objectsFolder name).outcome sp with
  | error e => rfl
  | ok r =>
    obtain ⟨id, sp₁⟩ := r
    unfold setNotifier
    simp only [(checksFirst_setNotifier id true).result_bind_unit]
    cases (SpaceAction.setNotifier id true).effect sp₁ with
    | error e => rfl
    | ok sp₂ =>
      unfold addReference
      simp only [(checksFirst_addReference .serverObject id .hasNotifier).result_bind_unit]
      cases (SpaceAction.addReference .serverObject id .hasNotifier).effect sp₂ <;> rfl

/-- An addition of a source of events comes to what it comes to in one of three cases. -/
theorem addEventSource_outcome (name : QualifiedName) (sp : AddressSpace β) :
    SourceOutcome name sp (sp.addEventSource name).1 (sp.addEventSource name).2 := by
  rw [addEventSource_steps]
  cases hfolder : sp.nodes.contains .objectsFolder with
  | false =>
    have hobject : sp.addObject .objectsFolder name = .error .badNodeIdUnknown :=
      addPart_of_missing hfolder _
    simp only [hobject]
    exact .refused hfolder
  | true =>
    let sp₁ := (sp.allocate.2.place sp.allocate.1 (.create name .object)).modifyNode .objectsFolder
      (Node.refer .hasComponent sp.allocate.1)
    have hobject : sp.addObject .objectsFolder name = .ok (sp.allocate.1, sp₁) :=
      addPart_eq_ok_iff.2 ⟨hfolder, rfl, rfl⟩
    have hopened : (sp.openSource name).nodes.contains sp.allocate.1 = true := by
      rw [contains_openSource, decide_eq_true rfl, Bool.true_or]
    have hplaced : sp₁.nodes.contains sp.allocate.1 = true :=
      (Table.contains_modify _ _ _ _).symm.trans hopened
    have hopen : sp₁.setNotifier sp.allocate.1 true = .ok (sp.openSource name) :=
      setNotifier_eq_ok_iff.2 ⟨hplaced, rfl⟩
    have hserver : (sp.openSource name).nodes.contains .serverObject =
        sp.nodes.contains .serverObject := by
      rw [contains_openSource, decide_eq_false sp.serverObject_ne_allocate, Bool.false_or]
    simp only [hobject, hopen]
    cases hs : sp.nodes.contains .serverObject with
    | false =>
      rw [addReference_of_missing rfl hopened (hserver.trans hs)]
      exact .abandoned hfolder hs
    | true =>
      rw [addReference_eq_ok_iff.2 ⟨rfl, hopened, hserver.trans hs, rfl⟩]
      exact .added hfolder hs

/-! ### Conditions -/

/-- A request names an identifier that is free, or gets the next one. -/
theorem conditionId_eq_ok_iff {requested : Option NodeId} :
    sp.conditionId requested = .ok (id, sp') ↔
      (requested = some id ∧ sp.nodes.contains id = false ∧ id.isNull = false ∧ sp' = sp) ∨
      ((∀ r, requested = some r → sp.nodes.contains r = false ∧ r.isNull = true) ∧
        (id, sp') = sp.allocate) := by
  cases requested with
  | none =>
    simp only [conditionId, SpaceAction.conditionId, outcome_modifyGet, Except.ok.injEq,
      eq_comm (a := sp.allocate), reduceCtorEq, false_and, false_or, false_implies, implies_true,
      true_and]
  | some r =>
    simp only [conditionId, SpaceAction.conditionId, outcome_get_bind, Option.some.injEq,
      forall_eq']
    by_cases hc : sp.nodes.contains r = true
    · simp only [hc, if_true, outcome_throw, reduceCtorEq, false_iff]
      rintro (⟨rfl, h, -⟩ | ⟨⟨h, -⟩, -⟩) <;> simp [hc] at h
    · rw [if_neg hc]
      have hf : sp.nodes.contains r = false := by simpa using hc
      by_cases hn : r.isNull = true
      · simp only [hn, if_true, outcome_modifyGet, Except.ok.injEq, hf, and_self, true_and,
          eq_comm (a := sp.allocate)]
        refine ⟨.inr, ?_⟩
        rintro (⟨rfl, -, h, -⟩ | h)
        · simp [hn] at h
        · exact h
      · simp only [if_neg hn, outcome_pure, Except.ok.injEq, Prod.mk.injEq]
        constructor
        · rintro ⟨rfl, rfl⟩
          exact .inl ⟨rfl, hf, by simpa using hn, rfl⟩
        · rintro (⟨rfl, -, -, rfl⟩ | ⟨⟨-, h⟩, -⟩)
          · exact ⟨rfl, rfl⟩
          · exact absurd h hn

/-- The references that a source gets to a new condition. -/
def expose (sp : AddressSpace β) (source id : NodeId) (parent : Option NodeId) : AddressSpace β :=
  match parent with
  | some type =>
    (sp.modifyNode source (Node.refer .hasCondition id)).modifyNode source (Node.refer type id)
  | none => sp.modifyNode source (Node.refer .hasCondition id)

/-- What a creation is checked for, and what it does. -/
theorem createCondition_eq_ok_iff {now : Instant} {r : ConditionRequest} :
    sp.createCondition now r = .ok (id, sp') ↔ ∃ type source sp₁,
      ConditionType.ofNode? r.conditionType = some type ∧
      sp.nodes.find? r.source = some source ∧
      r.parentReference.all NodeId.isReferenceType = true ∧
      sp.hasConditionNamed r.source r.browseName = false ∧
      sp.conditionId r.requestedId = .ok (id, sp₁) ∧
      sp' = (sp₁.place id (.create r.browseName (.condition
        (.create type r.source source.browseName.name r.browseName.name now)))).expose r.source id
          r.parentReference := by
  unfold createCondition SpaceAction.createCondition
  cases ConditionType.ofNode? r.conditionType with
  | none =>
    constructor
    · intro h
      cases h
    · rintro ⟨_, _, _, h, -⟩
      cases h
  | some type =>
    simp only [outcome_get_bind]
    cases sp.nodes.find? r.source with
    | none =>
      constructor
      · intro h
        cases h
      · rintro ⟨_, _, _, -, h, -⟩
        cases h
    | some source =>
      simp only [outcome_unless_eq_ok_iff, outcome_get_bind, outcome_if_throw_eq_ok_iff,
        outcome_bind_eq_ok_iff, outcome_modify_bind, Option.some.injEq, exists_and_left,
        exists_eq_left', Bool.not_eq_true]
      refine and_congr_right fun _ => and_congr_right fun _ => ?_
      constructor
      · rintro ⟨i, sp₁, hi, h⟩
        cases hparent : r.parentReference with
        | none =>
          rw [hparent] at h
          cases h
          exact ⟨sp₁, hi, rfl⟩
        | some parent =>
          rw [hparent] at h
          cases h
          exact ⟨sp₁, hi, rfl⟩
      · rintro ⟨sp₁, hi, rfl⟩
        refine ⟨id, sp₁, hi, ?_⟩
        cases r.parentReference <;> rfl

/-- A field is written if the condition has a field of that name and the value fits. -/
theorem writeField_eq_ok_iff {field : QualifiedName} {value : Variant} :
    sp.writeField id field value = .ok sp' ↔ ∃ c f, sp.condition id = .ok c ∧
      c.target field.name value = .ok f ∧ sp' = sp.setCondition id (c.store f value) := by
  simp only [writeField, SpaceAction.writeField, effect_eq_ok_iff, outcome_query_bind_eq_ok_iff,
    ConditionState.write, outcome_modify, Except.ok.injEq, Prod.mk.injEq, true_and,
    eq_comm (a := sp')]
  constructor
  · rintro ⟨c, hc, d, hd, h⟩
    cases ht : c.target field.name value with
    | error e =>
      rw [ht] at hd
      cases hd
    | ok f =>
      rw [ht] at hd
      cases hd
      exact ⟨c, f, hc, ht, h⟩
  · rintro ⟨c, f, hc, ht, h⟩
    refine ⟨c, hc, c.store f value, ?_, h⟩
    rw [ht]
    rfl

/-- A state is committed if the condition has the variable. -/
theorem commit_eq_ok_iff {kind : TransitionKind} {value : Bool} {now : Instant} :
    sp.commit id kind value now = .ok sp' ↔ ∃ c ts, sp.condition id = .ok c ∧
      c.twoStates.find? kind = some ts ∧
      sp' = sp.setCondition id (c.changeTwoState kind (TwoState.enter value now)) := by
  simp only [commit, SpaceAction.commit, effect_eq_ok_iff, outcome_query_bind_eq_ok_iff,
    ConditionState.twoState_eq_ok_iff, outcome_modify, Except.ok.injEq, Prod.mk.injEq, true_and,
    eq_comm (a := sp'), exists_and_left, exists_and_right]

/-- A commit fails as a read of the variable does. -/
theorem commit_eq_error_of_twoState {kind : TransitionKind} {e : StatusCode}
    (h : sp.twoState id kind = .error e) (value : Bool) (now : Instant) :
    sp.commit id kind value now = .error e := by
  unfold twoState at h
  rw [commit, effect_eq_error_iff, SpaceAction.commit, outcome_query_bind]
  cases hc : sp.condition id with
  | error e' =>
    rw [hc] at h
    change Except.error e' = Except.error e at h
    cases h
    rfl
  | ok c =>
    rw [hc] at h
    change c.twoState kind = .error e at h
    show (query _ >>= _ : SpaceAction β Unit).outcome sp = _
    rw [outcome_query_bind, h]

/-- A time is set if the condition has the variable. -/
theorem setTransitionTime_eq_ok_iff {kind : TransitionKind} {time : Instant} :
    sp.setTransitionTime id kind time = .ok sp' ↔ ∃ c ts, sp.condition id = .ok c ∧
      c.twoStates.find? kind = some ts ∧
      sp' = sp.setCondition id
        (c.changeTwoState kind fun s => { s with transitionTime := some time }) := by
  simp only [setTransitionTime, SpaceAction.setTransitionTime, effect_eq_ok_iff,
    outcome_query_bind_eq_ok_iff, ConditionState.twoState_eq_ok_iff, outcome_modify,
    Except.ok.injEq, Prod.mk.injEq, true_and, eq_comm (a := sp'), exists_and_left,
    exists_and_right]

/-- A hook is installed if the type of the condition has the variable and the source is there. -/
theorem installHook_eq_ok_iff {h : Hook β} :
    sp.installHook h = .ok sp' ↔ ∃ c, sp.condition h.condition = .ok c ∧ h.kind ∈ c.type.kinds ∧
      sp.nodes.contains h.source = true ∧
      sp' = { sp with hooks := sp.hooks.insert (h.condition, h.kind) h } := by
  simp only [installHook, SpaceAction.installHook, effect_eq_ok_iff, outcome_query_bind_eq_ok_iff,
    outcome_unless_eq_ok_iff, outcome_get_bind, outcome_modify, Except.ok.injEq, Prod.mk.injEq,
    true_and, eq_comm (a := sp')]

/-- A publication succeeds for every condition. -/
theorem publish_eq_ok_iff {source : NodeId} {eventId : EventId} {now : Instant} :
    sp.publish id source eventId now = .ok sp' ↔ ∃ c, sp.condition id = .ok c ∧
      sp' = (sp.setCondition id (c.noted eventId now)).emit
        ((c.noted eventId now).event id source eventId now) := by
  simp only [publish, SpaceAction.publish, effect_eq_ok_iff, outcome_query_bind_eq_ok_iff,
    outcome_modify_bind, outcome_modify, Except.ok.injEq, Prod.mk.injEq, true_and,
    eq_comm (a := sp')]

end AddressSpace

end AlarmServer
