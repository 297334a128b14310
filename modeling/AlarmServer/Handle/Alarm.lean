import AlarmServer.Handle.Condition

/-!
# On/off alarms

An on/off alarm is an off-normal alarm that its program switches on and off. Each switch is
published. An alarm that is switched off loses its acknowledgement and its confirmation.

Spec: `SPEC_FULL.md` §4.3.
-/

namespace AlarmServer

variable {β : Type}

/-- State of an on/off alarm. Spec §4.3, `OnOffState`. -/
inductive AlarmState where
  /-- Off. -/
  | inactive
  /-- On. -/
  | active
  deriving DecidableEq

namespace AlarmState

/-- The state in which activity is `b`. -/
def ofBool (b : Bool) : AlarmState := if b then active else inactive

/-- Name of the state. -/
def name : AlarmState → String
  | inactive => "Inactive"
  | active => "Active"

instance : ToString AlarmState := ⟨name⟩

/-- The message of a switch that has no message of its own. -/
def defaultMessage : AlarmState → String
  | active => "Alarm active"
  | inactive => "Alarm inactive"

end AlarmState

/-- A handle of an on/off alarm. Spec §3, On/Off Condition. -/
structure Alarm where
  /-- The handle of its condition. -/
  condition : Condition
  /-- The node the alarm belongs to. -/
  source : NodeId
  deriving DecidableEq

namespace Alarm

/-- Name of an alarm that is given none. -/
def defaultName : String := "OnOffCondition"

/-- Severity of an alarm that is given none. -/
def defaultSeverity : UInt16 := 400

/-- The writes that bring a new alarm into its first state. Spec §4.3, construction. -/
def prepare (c : Condition) (severity : UInt16) : Operation β Unit := do
  c.setState .enabled true
  c.setField (.standard "Severity") (.uint16 severity)
  c.setField (.standard "Message") (.localizedText (.plain AlarmState.inactive.defaultMessage))
  c.setField (.standard "Retain") (.boolean false)

/-- Create an alarm: enabled, inactive and of no interest. A condition that cannot be brought into
this state is dropped again. Spec §4.3, construction. -/
def create (source : NodeId) (name : QualifiedName) (parentReference : Option NodeId)
    (severity : UInt16) : Operation β Alarm := do
  let c ← Condition.create
    { conditionType := ConditionType.offNormal.node, browseName := name, source := source
      parentReference := parentReference, requestedId := none }
  try
    Alarm.prepare c severity
  catch e =>
    (c.drop : Routine β Unit)
    throw e
  return ⟨c, source⟩

/-- Create an alarm with default name and severity as a component of its source. Spec §4.3,
`with_defaults`. -/
def createDefault (source : NodeId) : Operation β Alarm :=
  create source (.standard defaultName) (some .hasComponent) defaultSeverity

/-- The message of a switch: the given one, unless there is none or it is empty. Spec §4.3, step
1. -/
def messageFor (active : Bool) (message : Option String) : String :=
  match message.filter fun m => !m.isEmpty with
  | some m => m
  | none => (AlarmState.ofBool active).defaultMessage

/-- Switch the alarm on or off, and publish that from a node. Spec §4.3, `set_active`. -/
def setActive (a : Alarm) (source : NodeId) (active : Bool) (message : Option String) :
    Operation β EventId := do
  let c := a.condition
  let text := messageFor active message
  Operation.log .debug
    ("Condition " ++ c.id.text ++ " -> " ++ (AlarmState.ofBool active).name ++ " (" ++ text ++ ")")
  c.setField (.standard "Message") (.localizedText (.plain text))
  let time := (← get).ambient.now
  c.setField (.standard "Time") (.dateTime time)
  c.setField (.standard "Retain") (.boolean active)
  c.setState .active active
  unless active do
    c.setState .acked false
    c.setState .confirmed false
  c.trigger source

/-- Read the state of the alarm. Spec §4.3, `state`. -/
def state (a : Alarm) : Operation β AlarmState := do
  return AlarmState.ofBool (← a.condition.twoState .active)

/-- Register a callback for the alarm's own source. Spec §4.3, `on_enabled` and its siblings. -/
def register (a : Alarm) (kind : TransitionKind) (removeBranch : Bool) (callback : β) :
    Operation β Unit :=
  a.condition.register kind ⟨a.source, removeBranch, callback⟩

end Alarm

end AlarmServer
