import AlarmServer.Condition.Transition
import AlarmServer.Variant.Basic

/-!
# Condition types

The condition types form a chain of subtypes. Each type declares fields, with their data types, and
two-state variables, and inherits those of the types before it in the chain.

Spec: `SPEC_FULL.md` §11.1 and §11.3.
-/

namespace AlarmServer

/-- A field of a condition. -/
inductive Field where
  /-- Identifier of the last event. -/
  | eventId
  /-- Type of the events. -/
  | eventType
  /-- Node the condition belongs to. -/
  | sourceNode
  /-- Name of that node. -/
  | sourceName
  /-- When the last change of state happened. -/
  | time
  /-- When the server published the last event. -/
  | receiveTime
  /-- What is the matter. -/
  | message
  /-- How urgent it is. -/
  | severity
  /-- How urgent it was before. -/
  | lastSeverity
  /-- Name of the condition. -/
  | conditionName
  /-- Branch of the condition. -/
  | branchId
  /-- Is the condition of interest? -/
  | retain
  /-- Last comment of a client. -/
  | comment
  /-- User who gave the comment. -/
  | clientUserId
  /-- Quality of the measured value. -/
  | quality
  /-- Node that is watched. -/
  | inputNode
  /-- Is the alarm suppressed or shelved? -/
  | suppressedOrShelved
  /-- Node with the normal value. -/
  | normalState
  deriving DecidableEq

namespace Field

/-- All fields, in the order of declaration. -/
def all : List Field :=
  [eventId, eventType, sourceNode, sourceName, time, receiveTime, message, severity, lastSeverity,
    conditionName, branchId, retain, comment, clientUserId, quality, inputNode, suppressedOrShelved,
    normalState]

/-- Name of the field. -/
def name : Field → String
  | eventId => "EventId"
  | eventType => "EventType"
  | sourceNode => "SourceNode"
  | sourceName => "SourceName"
  | time => "Time"
  | receiveTime => "ReceiveTime"
  | message => "Message"
  | severity => "Severity"
  | lastSeverity => "LastSeverity"
  | conditionName => "ConditionName"
  | branchId => "BranchId"
  | retain => "Retain"
  | comment => "Comment"
  | clientUserId => "ClientUserId"
  | quality => "Quality"
  | inputNode => "InputNode"
  | suppressedOrShelved => "SuppressedOrShelved"
  | normalState => "NormalState"

/-- Declared data type of the field. -/
def dataType : Field → DataType
  | eventId => .byteString
  | eventType => .nodeId
  | sourceNode => .nodeId
  | sourceName => .string
  | time => .dateTime
  | receiveTime => .dateTime
  | message => .localizedText
  | severity => .uint16
  | lastSeverity => .uint16
  | conditionName => .string
  | branchId => .nodeId
  | retain => .boolean
  | comment => .localizedText
  | clientUserId => .string
  | quality => .uint32
  | inputNode => .nodeId
  | suppressedOrShelved => .boolean
  | normalState => .nodeId

private theorem find?_name (f : Field) : all.find? (fun g => g.name = f.name) = some f := by
  cases f <;> rfl

/-- No two fields have one name. -/
theorem name_inj {f g : Field} (h : f.name = g.name) : f = g := by
  have hf := find?_name f
  rw [h, find?_name g] at hf
  exact (Option.some.inj hf).symm

/-- No field is declared for the empty variant. -/
theorem dataType_ne_empty (f : Field) : f.dataType ≠ .empty := by
  cases f <;> decide

end Field

/-- The condition types, each a subtype of the one before. Spec §11.1. -/
inductive ConditionType where
  /-- Any condition. -/
  | condition
  /-- A condition that can be acknowledged and confirmed. -/
  | acknowledgeable
  /-- A condition that is active or inactive. -/
  | alarm
  /-- An alarm over discrete values. -/
  | discrete
  /-- An alarm on values other than the normal one. -/
  | offNormal
  deriving DecidableEq

namespace ConditionType

/-- All condition types, each after the type it is derived from. -/
def all : List ConditionType := [condition, acknowledgeable, alarm, discrete, offNormal]

/-- Number of types above this one. -/
def depth : ConditionType → Nat
  | condition => 0
  | acknowledgeable => 1
  | alarm => 2
  | discrete => 3
  | offNormal => 4

/-- Node of the type. -/
def node : ConditionType → NodeId
  | condition => .numeric 0 2782
  | acknowledgeable => .numeric 0 2881
  | alarm => .numeric 0 2915
  | discrete => .numeric 0 10523
  | offNormal => .numeric 0 10637

/-- The condition type with that node. -/
def ofNode? (id : NodeId) : Option ConditionType := all.find? fun t => t.node = id

/-- Fields of every condition. -/
def baseFields : List Field :=
  [.eventId, .eventType, .sourceNode, .sourceName, .time, .receiveTime, .message, .severity,
    .lastSeverity, .conditionName, .branchId, .retain, .comment, .clientUserId, .quality]

/-- The fields that a condition of the type has. Spec §11.3, `for_type`. -/
def fields (t : ConditionType) : List Field :=
  baseFields ++ (if 2 ≤ t.depth then [.inputNode, .suppressedOrShelved] else []) ++
    if 4 ≤ t.depth then [.normalState] else []

/-- The two-state variables that a condition of the type has. Spec §11.3, `for_type`. -/
def kinds (t : ConditionType) : List TransitionKind :=
  [.enabled] ++ (if 1 ≤ t.depth then [.acked, .confirmed] else []) ++
    if 2 ≤ t.depth then [.active] else []

/-- The declared field of that name. -/
def field? (t : ConditionType) (name : String) : Option Field :=
  t.fields.find? fun f => f.name = name

/-- A type is read back from its node. -/
theorem ofNode?_node (t : ConditionType) : ofNode? t.node = some t := by
  cases t <;> decide

/-- A field is found by its name exactly in the types that have it. -/
theorem field?_name (t : ConditionType) (f : Field) :
    t.field? f.name = if f ∈ t.fields then some f else none := by
  cases t <;> cases f <;> decide

/-- A field is found by its name. -/
theorem name_of_field? {t : ConditionType} {name : String} {f : Field}
    (h : t.field? name = some f) : f ∈ t.fields ∧ f.name = name := by
  have hname := List.find?_some h
  exact ⟨List.mem_of_find?_eq_some h, of_decide_eq_true hname⟩

end ConditionType

end AlarmServer
