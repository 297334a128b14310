import AlarmServer.Server.Routine

/-!
# Condition handles

A handle is what a program holds of a condition: its identifier, and whether the handle owns the
node. The node of a handle that owns it is deleted when the handle is dropped, and its callbacks are
forgotten then. All else is asked of the runtime; a failure names what was asked for, and carries
the status code.

Spec: `SPEC_FULL.md` §4.1, §4.2 and §11.6.
-/

namespace AlarmServer

variable {β : Type}

/-- A handle of a condition. Spec §3, Condition. -/
structure Condition where
  /-- The node. -/
  id : NodeId
  /-- Is the handle responsible for the node? -/
  owns : Bool
  deriving DecidableEq

namespace Condition

/-- A handle that owns nothing. Spec §4.1, `wrap`. -/
def wrap (id : NodeId) : Condition := ⟨id, false⟩

/-- Another handle of the same node, which does not own it. Spec §4.1, `borrowed`. -/
def borrow (c : Condition) : Condition := wrap c.id

/-- Is the handle responsible for a node? The null identifier names none. Spec §3, `owns_node`. -/
def ownsNode (c : Condition) : Bool := c.owns && !c.id.isNull

/-- Give up the handle but not the node: the identifier remains, and nothing is deleted. Spec §4.1,
`release`. -/
def release (c : Condition) : NodeId := c.id

/-- The diagnostic text. -/
def debugText (c : Condition) : String :=
  Text.record "Condition" [("id", c.id.debugText), ("owns", toString c.owns)] false

/-- Create a condition, and own it. Spec §4.1, `create`. -/
def create (r : ConditionRequest) : Operation β Condition := do
  let id ← Operation.request (.createCondition r) fun s => .creationFailed r.browseName.text s
  Operation.log .debug ("Created condition " ++ r.browseName.text ++ " (" ++ id.text ++ ")")
  return ⟨id, true⟩

/-- Drop a handle. If it owns a node, that is deleted; once it is, its callbacks are forgotten. A
failure is only noted. Spec §4.1, destruction, and §11.6. -/
def drop (c : Condition) : Routine β Unit := do
  if c.ownsNode then
    match ← Routine.call (.deleteNode c.id true) with
    | .ok _ => modify fun t : Tables β => { t with registry := t.registry.remove c.id }
    | .error status =>
      Routine.log .warn ("Failed to delete condition " ++ c.id.text ++ ": " ++ status.text)

/-- Write a field. Spec §4.1, `set_field`. -/
def setField (c : Condition) (field : QualifiedName) (value : Variant) : Operation β Unit :=
  Operation.request (.writeField c.id field value) fun s => .fieldWriteFailed field.text s

/-- Write a property of a two-state variable. Spec §4.1, `set_variable_field`. -/
def setVariableField (c : Condition) (variableName property : QualifiedName) (value : Variant) :
    Operation β Unit :=
  Operation.request (.writeProperty c.id variableName property value)
    fun s => .nestedFieldWriteFailed variableName.text property.text s

/-- Put a two-state variable into a state. -/
def setState (c : Condition) (kind : TransitionKind) (id : Bool) : Operation β Unit :=
  c.setVariableField (.standard kind.variableName) (.standard "Id") (.boolean id)

/-- Read a field. Spec §10.2, `field`. -/
def field (c : Condition) (field : QualifiedName) : Operation β Variant :=
  Operation.request (.readField c.id field) fun s => .fieldReadFailed field.text s

/-- Read a property of a two-state variable. Spec §10.2, `variable_field`. -/
def variableField (c : Condition) (variableName property : QualifiedName) : Operation β Variant :=
  Operation.request (.readProperty c.id variableName property)
    fun s => .fieldReadFailed (variableName.text ++ "/" ++ property.text) s

/-- Read the state of a two-state variable. Spec §10.2, `two_state`. -/
def twoState (c : Condition) (kind : TransitionKind) : Operation β Bool := do
  let value ← c.variableField (.standard kind.variableName) (.standard "Id")
  match value.asBool? with
  | some b => return b
  | none => throw (.typeMismatch "Boolean" value.dataType.name)

/-- Publish the condition from a node. Spec §4.1, `trigger`. -/
def trigger (c : Condition) (source : NodeId) : Operation β EventId :=
  Operation.request (.trigger c.id source) fun s => .triggerFailed source.text s

/-- Register the callback to ask before a two-state variable becomes true. It is kept in the
registry, and then the hook is installed that leads to it. Spec §4.2, `register_transition`. -/
def register (c : Condition) (kind : TransitionKind) (slot : Slot β) : Operation β Unit := do
  let registry := (← get).registry
  modify fun t => { t with registry := registry.store c.id kind slot }
  if (registry.slot? c.id kind).isSome then
    Operation.log .debug
      ("Replacing " ++ kind.variableName ++ " callback of condition " ++ c.id.text)
  Operation.request (.installHook ⟨c.id, slot.source, slot.removeBranch, kind, .registered⟩)
    fun s => .hookInstallFailed kind.variableName s

end Condition

end AlarmServer
