import AlarmServer.Base.Table
import AlarmServer.Condition.Type
import AlarmServer.StatusCode

/-!
# State of a condition

A condition has a value for some of its fields and a state for each of its two-state variables.
Reads and writes name a field or variable by its text; what they may name is fixed by the condition
type. A field without a value reads as the empty variant.

Spec: `SPEC_FULL.md` §11.3.
-/

namespace AlarmServer

/-- State of a two-state variable. Spec §11.3, `TwoStateValue`. -/
structure TwoState where
  /-- Which of the two states it is in. -/
  id : Bool
  /-- When the state was entered, if known. -/
  transitionTime : Option Instant
  deriving DecidableEq

namespace TwoState

/-- The false state, never entered. -/
def initial : TwoState := ⟨false, none⟩

/-- Enter a state at the given time; staying in a state is no transition. Spec §11.3,
`commit_two_state`. -/
def enter (id : Bool) (now : Instant) (s : TwoState) : TwoState :=
  if s.id = id then s else ⟨id, some now⟩

end TwoState

/-- A condition instance. Spec §11.3, `ConditionNode`. -/
structure ConditionState where
  /-- Its type. -/
  type : ConditionType
  /-- The node it belongs to. -/
  source : NodeId
  /-- Values of its fields. -/
  fields : Table Field Variant
  /-- States of its two-state variables. -/
  twoStates : Table TransitionKind TwoState

namespace ConditionState

/-- Value of a field, empty if it has none. -/
def field (c : ConditionState) (f : Field) : Variant := (c.fields.find? f).getD .empty

/-- State of a two-state variable, if the condition has it. -/
def twoState (c : ConditionState) (kind : TransitionKind) : Except StatusCode TwoState :=
  match c.twoStates.find? kind with
  | some s => .ok s
  | none => .error .badNoMatch

/-- What a two-state variable shows. -/
def shown (kind : TransitionKind) (s : TwoState) : Variant :=
  .localizedText ⟨"en", kind.stateText s.id⟩

/-- Read a field, or what a two-state variable shows. Spec §11.3, `read_condition_field`. -/
def read (c : ConditionState) (name : String) : Except StatusCode Variant :=
  match TransitionKind.ofVariable? name with
  | some kind => (c.twoState kind).map (shown kind)
  | none =>
    match c.type.field? name with
    | some f => .ok (c.field f)
    | none => .error .badNoMatch

/-- Read a property of a two-state variable. Spec §11.3,
`read_condition_variable_field_property`. -/
def readProperty (c : ConditionState) (kind : TransitionKind) (property : String) :
    Except StatusCode Variant := do
  let s ← c.twoState kind
  if property = "Id" then return .boolean s.id
  else if property = "TransitionTime" then
    return match s.transitionTime with
      | some t => .dateTime t
      | none => .empty
  else throw .badNoMatch

/-- Store a value in a field. The severity before a write becomes the last severity. -/
def store (c : ConditionState) (f : Field) (value : Variant) : ConditionState :=
  let fields := c.fields.insert f value
  if f = .severity then
    match c.fields.find? .severity with
    | some previous => { c with fields := fields.insert .lastSeverity previous }
    | none => { c with fields := fields }
  else { c with fields := fields }

/-- The field that a write of the value to the name goes to. What a two-state variable shows cannot
be written, and the value must have the declared data type. -/
def target (c : ConditionState) (name : String) (value : Variant) : Except StatusCode Field :=
  if (TransitionKind.ofVariable? name).any (· ∈ c.type.kinds) then .error .badNotWritable
  else
    match c.type.field? name with
    | none => .error .badNoMatch
    | some f => if value.dataType = f.dataType then .ok f else .error .badTypeMismatch

/-- Write a field. Spec §11.3, `set_condition_field`. -/
def write (c : ConditionState) (name : String) (value : Variant) :
    Except StatusCode ConditionState :=
  (c.target name value).map fun f => c.store f value

/-- Change the state of a two-state variable. -/
def changeTwoState (c : ConditionState) (kind : TransitionKind) (f : TwoState → TwoState) :
    ConditionState :=
  { c with twoStates := c.twoStates.modify kind f }

/-- Note an event in the condition: its identifier, and when it was published. Spec §11.3,
`publish`. -/
def noted (c : ConditionState) (eventId : EventId) (now : Instant) : ConditionState :=
  { c with
    fields := (c.fields.insert .eventId (.byteString eventId.bytes)).insert .receiveTime
      (.dateTime now) }

/-- A new condition. It has the fields that identify it, no severity and no message, and is in the
false state of all its variables. Spec §11.3, `create_condition`. -/
def create (type : ConditionType) (source : NodeId) (sourceName name : String) (now : Instant) :
    ConditionState where
  type := type
  source := source
  fields := .ofList [
    (.eventType, .nodeId type.node), (.sourceNode, .nodeId source),
    (.sourceName, .string sourceName),
    (.conditionName, .string name), (.time, .dateTime now), (.message, .localizedText (.plain "")),
    (.severity, .uint16 0), (.retain, .boolean false)]
  twoStates := .ofList (type.kinds.map fun kind => (kind, .initial))

/-- All that can be read: the fields, and for each two-state variable what it shows, its state and,
if known, when that was entered. Spec §11.3, `snapshot`. -/
def snapshot (c : ConditionState) : List (String × Variant) :=
  c.type.fields.map (fun f => (f.name, c.field f)) ++
    TransitionKind.all.flatMap fun kind =>
      match c.twoStates.find? kind with
      | none => []
      | some s =>
        [(kind.variableName, shown kind s), (kind.variableName ++ "/Id", .boolean s.id)] ++
          match s.transitionTime with
          | some t => [(kind.variableName ++ "/TransitionTime", .dateTime t)]
          | none => []

end ConditionState

end AlarmServer
