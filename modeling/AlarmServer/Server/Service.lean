import AlarmServer.Server.Dispatch

/-!
# Operations on the address space

The operations of a server on its own address space. Those on conditions read the clock, draw event
identifiers and write to the journal; three kinds of them may call back: the entry of a two-state
variable into its true state, the write of a variable, and nothing else.

A client method enters or leaves a state, keeps the comment that was given, and publishes the
condition from its own source.

Spec: `SPEC_FULL.md` §11.3.
-/

namespace AlarmServer.Service

variable {β : Type}

/-- The present. -/
def now : Service β Instant := return (← get).now

/-- Draw an identifier for an event. Spec §11.1, `random`. -/
def drawEventId : Service β EventId :=
  modifyGet fun s =>
    let (guid, ambient) := s.tables.ambient.draw
    (⟨guid.bytes⟩, { s with tables.ambient := ambient })

/-! ### Objects and variables -/

/-- Add an object. Spec §11.3, `add_object`. -/
def addObject (parent : NodeId) (name : QualifiedName) : Service β NodeId :=
  act (.addObject parent name)

/-- Add a variable. Spec §11.3, `add_variable`. -/
def addVariable (parent : NodeId) (name : QualifiedName) (value : Variant) (level : AccessLevel) :
    Service β NodeId :=
  act (.addVariable parent name value level)

/-- Add a source of events. Spec §11.3, `add_event_source`. -/
def addEventSource (name : QualifiedName) : Service β NodeId :=
  act (.addEventSource name)

/-- Write a variable, and then call the callback that watches it. Spec §11.3, `write_value`. -/
def writeValue (id : NodeId) (value : Variant) : Service β Unit := do
  act (.writeValue id value)
  match (← get).space.watchers.find? id with
  | none => return
  | some callback => ServerAction.notify callback id value

/-- Delete a node. Spec §6, `delete_node`. -/
def deleteNode (id : NodeId) (withReferences : Bool) : Service β Unit := do
  act (.deleteNode id withReferences)
  log .debug ("Deleted node " ++ id.text)

/-- Add a reference. Spec §6, `add_reference`. -/
def addReference (source target type : NodeId) : Service β Unit :=
  act (.addReference source target type)

/-! ### Conditions -/

/-- Create a condition. Spec §11.3, `create_condition`. -/
def createCondition (r : ConditionRequest) : Service β NodeId := do
  let time ← now
  let id ← act (.createCondition time r)
  log .debug
    ("Condition " ++ r.browseName.text ++ " (" ++ id.text ++ ") created under " ++ r.source.text)
  return id

/-- Write a field. Spec §11.3, `set_condition_field`. -/
def writeField (condition : NodeId) (field : QualifiedName) (value : Variant) : Service β Unit := do
  act (.writeField condition field value)
  log .trace (condition.text ++ " " ++ field.text ++ " = " ++ value.text)

/-- Put a two-state variable into a state. Spec §11.3, `commit_two_state`. -/
def commit (condition : NodeId) (kind : TransitionKind) (value : Bool) : Service β Unit := do
  let time ← now
  act (.commit condition kind value time)
  log .trace (condition.text ++ " " ++ kind.variableName ++ "/Id = " ++ toString value)

/-- Write a property of a two-state variable. The state is entered by a transition of the server
itself; its hook is called if the variable becomes true. Spec §11.3,
`set_condition_variable_field_property`. -/
def writeProperty (condition : NodeId) (variableName property : QualifiedName) (value : Variant) :
    Service β Unit := do
  let kind ← query fun _ => AddressSpace.kindNamed variableName
  let current ← query fun sp => sp.twoState condition kind
  if property.name = "Id" then
    match value.asBool? with
    | none => throw .badTypeMismatch
    | some id =>
      if id && !current.id then runHook condition kind none
      commit condition kind id
  else if property.name = "TransitionTime" then
    match value.asInstant? with
    | none => throw .badTypeMismatch
    | some time => act (.setTransitionTime condition kind time)
  else throw .badNoMatch

/-- Install a hook. Spec §6, `install_two_state_hook`. -/
def installHook (h : Hook β) : Service β Unit := do
  act (.installHook h)
  log .debug ("Installing " ++ h.kind.variableName ++ " hook on " ++ h.condition.text)

/-- Publish a condition from a node. Spec §11.3, `publish`. -/
def publish (condition source : NodeId) : Service β EventId := do
  let _ ← query fun sp => sp.condition condition
  let eventId ← drawEventId
  let time ← now
  act (.publish condition source eventId time)
  log .debug ("Published event for condition " ++ condition.text ++ " from " ++ source.text)
  return eventId

/-- Publish a condition from a node that may notify of it. Spec §11.3, `trigger_condition_event`. -/
def trigger (condition source : NodeId) : Service β EventId := do
  let c ← query fun sp => sp.condition condition
  query fun sp => sp.checkNotifier source c.source
  publish condition source

/-! ### Client methods -/

/-- Why a client cannot enter a state it is in. -/
def alreadyEntered : TransitionKind → StatusCode
  | .enabled => .badConditionAlreadyEnabled
  | .acked => .badConditionBranchAlreadyAcked
  | .confirmed => .badConditionBranchAlreadyConfirmed
  | .active => .badInvalidArgument

/-- Enter the true state of a variable on behalf of a client. Spec §11.3, `enter_two_state`. -/
def enter (condition : NodeId) (kind : TransitionKind) (session : Session) : Service β Unit := do
  let current ← query fun sp => sp.twoState condition kind
  if current.id then throw (alreadyEntered kind)
  runHook condition kind session
  commit condition kind true

/-- Publish a condition from its own source. Spec §11.3, `publish_from_own_source`. -/
def publishFromOwnSource (condition : NodeId) : Service β EventId := do
  let c ← query fun sp => sp.condition condition
  publish condition c.source

/-- Keep a comment, if there is one. Spec §11.3, `store_comment`. -/
def storeComment (condition : NodeId) (comment : Option String) : Service β Unit :=
  match comment with
  | some text => writeField condition (.standard "Comment") (.localizedText (.plain text))
  | none => pure ()

/-- Enable a condition. Spec §11.3, `enable`. -/
def enable (condition : NodeId) (session : Session) : Service β EventId := do
  enter condition .enabled session
  publishFromOwnSource condition

/-- Disable a condition. Spec §11.3, `disable`. -/
def disable (condition : NodeId) : Service β EventId := do
  let current ← query fun sp => sp.twoState condition .enabled
  unless current.id do throw .badConditionAlreadyDisabled
  commit condition .enabled false
  publishFromOwnSource condition

/-- Acknowledge a condition. Spec §11.3, `acknowledge`. -/
def acknowledge (condition : NodeId) (session : Session) (comment : Option String) :
    Service β EventId := do
  enter condition .acked session
  storeComment condition comment
  publishFromOwnSource condition

/-- Confirm a condition. Spec §11.3, `confirm`. -/
def confirm (condition : NodeId) (session : Session) (comment : Option String) :
    Service β EventId := do
  enter condition .confirmed session
  storeComment condition comment
  publishFromOwnSource condition

end AlarmServer.Service
