import AlarmServer.Condition.State
import AlarmServer.Variant.Codec

/-!
# Condition events

An event is what subscribers get when a condition is published: which condition, from which source,
and all that could be read of the condition at that moment.

Spec: `SPEC_FULL.md` §4.1 and §11.3.
-/

namespace AlarmServer

/-- What it takes to create a condition. Spec §4.1, `ConditionRequest`. -/
structure ConditionRequest where
  /-- Node of the condition type. -/
  conditionType : NodeId
  /-- Name of the condition. -/
  browseName : QualifiedName
  /-- Node the condition belongs to. -/
  source : NodeId
  /-- Type of a further reference from the source, if the condition is to be exposed. -/
  parentReference : Option NodeId
  /-- Identifier the condition should have; the server chooses one otherwise. -/
  requestedId : Option NodeId
  deriving DecidableEq

/-- An event of a condition. Spec §11.3, `ConditionEvent`. -/
structure ConditionEvent where
  /-- Identifier of the event. -/
  eventId : EventId
  /-- The condition. -/
  condition : NodeId
  /-- The notifier that the event leaves from. -/
  source : NodeId
  /-- Node of the condition type. -/
  eventType : NodeId
  /-- When the last change of state happened. -/
  time : Instant
  /-- All that could be read of the condition. -/
  fields : List (String × Variant)

namespace ConditionEvent

/-- The fields in the order of their names. -/
def sortedFields (e : ConditionEvent) : List (String × Variant) :=
  e.fields.mergeSort fun a b => decide (a.1 ≤ b.1)

/-- The JSON form. -/
def toJson (e : ConditionEvent) : Json :=
  .obj [
    ("event_id", .arr (e.eventId.bytes.map fun b => .nat b.toNat)),
    ("condition", e.condition.toJson), ("source", e.source.toJson),
    ("event_type", e.eventType.toJson), ("time", .str e.time.zuluText),
    ("fields", .obj (e.sortedFields.map fun f => (f.1, f.2.toJson)))]

end ConditionEvent

/-- The event of a condition that is published as it is. Its time is that of the last change of
state, or the present if the condition has none. Spec §11.3, `publish`. -/
def ConditionState.event (c : ConditionState) (id source : NodeId) (eventId : EventId)
    (now : Instant) : ConditionEvent :=
  { eventId := eventId, condition := id, source := source, eventType := c.type.node
    time := (c.field .time).asInstant?.getD now, fields := c.snapshot }

end AlarmServer
