import AlarmServer.Space.Basic

/-!
# Conditions in the address space

Creation, fields, two-state variables, hooks and events of conditions, as far as no callback runs.
The present time and new event identifiers come from outside.

Spec: `SPEC_FULL.md` §11.3.
-/

namespace AlarmServer

variable {β : Type}

namespace AddressSpace

/-- Is there a condition of that name at that source? -/
def hasConditionNamed (sp : AddressSpace β) (source : NodeId) (name : QualifiedName) : Bool :=
  sp.nodes.values.any fun n =>
    n.browseName = name && match n.body with
      | .condition c => c.source = source
      | _ => false

/-- Read a field of a condition, or what a two-state variable shows. Spec §11.3,
`read_condition_field`. -/
def readField (sp : AddressSpace β) (id : NodeId) (field : QualifiedName) :
    Except StatusCode Variant := do
  (← sp.condition id).read field.name

/-- The two-state variable of that name; there need not be a condition that has it. -/
def kindNamed (name : QualifiedName) : Except StatusCode TransitionKind :=
  match TransitionKind.ofVariable? name.name with
  | some kind => .ok kind
  | none => .error .badNoMatch

/-- State of a two-state variable. Spec §11.3, `two_state`. -/
def twoState (sp : AddressSpace β) (id : NodeId) (kind : TransitionKind) :
    Except StatusCode TwoState := do
  (← sp.condition id).twoState kind

/-- Read a property of a two-state variable. Spec §11.3,
`read_condition_variable_field_property`. -/
def readProperty (sp : AddressSpace β) (id : NodeId) (variableName property : QualifiedName) :
    Except StatusCode Variant := do
  let kind ← kindNamed variableName
  (← sp.condition id).readProperty kind property.name

/-- Does the node hold a reference by which events of the source leave from it? -/
def notifiesFor (n : Node) (source : NodeId) : Bool :=
  n.references.any fun r => r.target = source && (r.type = .hasNotifier || r.type = .hasEventSource)

/-- May events of a condition of `own` leave from `source`? It must be a notifier, and be the
condition's own source or lead to it. Spec §11.3, `check_notifier`. -/
def checkNotifier (sp : AddressSpace β) (source own : NodeId) : Except StatusCode Unit :=
  match sp.nodes.find? source with
  | none => .error .badSourceNodeIdInvalid
  | some n =>
    if n.notifier && (source = own || notifiesFor n own) then .ok ()
    else .error .badSourceNodeIdInvalid

end AddressSpace

namespace SpaceAction

/-- The identifier of a new condition: the requested one, unless it is null, or the next one. -/
def conditionId (requested : Option NodeId) : SpaceAction β NodeId := do
  match requested with
  | none => modifyGet AddressSpace.allocate
  | some id =>
    if (← get).nodes.contains id then throw .badNodeIdExists
    else if id.isNull then modifyGet AddressSpace.allocate
    else return id

/-- Create a condition. Checked are, in this order, its type, its source, the type of the parent
reference, its name and its identifier. Then it is placed, and its source refers to it. Spec §11.3,
`create_condition`. -/
def createCondition (now : Instant) (r : ConditionRequest) : SpaceAction β NodeId := do
  let some type := ConditionType.ofNode? r.conditionType | throw .badTypeDefinitionInvalid
  let some source := (← get).nodes.find? r.source | throw .badSourceNodeIdInvalid
  unless r.parentReference.all NodeId.isReferenceType do throw .badReferenceTypeIdInvalid
  if (← get).hasConditionNamed r.source r.browseName then throw .badBrowseNameDuplicated
  let id ← conditionId r.requestedId
  let state := ConditionState.create type r.source source.browseName.name r.browseName.name now
  modify fun sp => sp.place id (.create r.browseName (.condition state))
  modify fun sp => sp.modifyNode r.source (Node.refer .hasCondition id)
  if let some parent := r.parentReference then
    modify fun sp => sp.modifyNode r.source (Node.refer parent id)
  return id

/-- Write a field of a condition. Spec §11.3, `set_condition_field`. -/
def writeField (id : NodeId) (field : QualifiedName) (value : Variant) : SpaceAction β Unit := do
  let c ← query fun sp => sp.condition id
  let new ← query fun _ => c.write field.name value
  modify fun sp => sp.setCondition id new

/-- Put a two-state variable into a state. Spec §11.3, `commit_two_state`. -/
def commit (id : NodeId) (kind : TransitionKind) (value : Bool) (now : Instant) :
    SpaceAction β Unit := do
  let c ← query fun sp => sp.condition id
  let _ ← query fun _ => c.twoState kind
  modify fun sp => sp.setCondition id (c.changeTwoState kind (TwoState.enter value now))

/-- Say when a two-state variable entered its state. Spec §11.3,
`set_condition_variable_field_property`. -/
def setTransitionTime (id : NodeId) (kind : TransitionKind) (time : Instant) :
    SpaceAction β Unit := do
  let c ← query fun sp => sp.condition id
  let _ ← query fun _ => c.twoState kind
  modify fun sp => sp.setCondition id
    (c.changeTwoState kind fun s => { s with transitionTime := some time })

/-- Install a hook, in place of any hook of the same variable. Spec §6, `install_two_state_hook`. -/
def installHook (h : Hook β) : SpaceAction β Unit := do
  let c ← query fun sp => sp.condition h.condition
  unless h.kind ∈ c.type.kinds do throw .badNoMatch
  unless (← get).nodes.contains h.source do throw .badSourceNodeIdInvalid
  modify fun sp => { sp with hooks := sp.hooks.insert (h.condition, h.kind) h }

/-- Publish a condition: note the event in it, and then append to the events what can be read of the
condition with that. Spec §11.3, `publish`. -/
def publish (id source : NodeId) (eventId : EventId) (now : Instant) : SpaceAction β Unit := do
  let c ← query fun sp => sp.condition id
  let c := c.noted eventId now
  modify fun sp => sp.setCondition id c
  modify fun sp => sp.emit (c.event id source eventId now)

end SpaceAction

end AlarmServer
