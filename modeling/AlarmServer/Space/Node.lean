import AlarmServer.Access.Level
import AlarmServer.Condition.Event

/-!
# Nodes

A node is an object, a variable or a condition. It has names, references to other nodes, and a mark
that tells whether events may leave from it.

Spec: `SPEC_FULL.md` §11.3.
-/

namespace AlarmServer

/-- A reference from the node that holds it. -/
structure Reference where
  /-- Type of the reference. -/
  type : NodeId
  /-- Node it leads to. -/
  target : NodeId
  deriving DecidableEq

namespace Reference

/-- Type and target. -/
def text (r : Reference) : String := r.type.text ++ " -> " ++ r.target.text

end Reference

/-- A variable. Spec §11.3, `VariableNode`. -/
structure VariableState where
  /-- Its value. -/
  value : Variant
  /-- What clients may do with it. -/
  level : AccessLevel
  deriving DecidableEq

/-- What a node is. Spec §11.3, `NodeKind`. -/
inductive NodeBody where
  /-- An object. -/
  | object
  /-- A variable. -/
  | variable (state : VariableState)
  /-- A condition. -/
  | condition (state : ConditionState)

/-- A node of an address space. Spec §11.3, `NodeRecord`. -/
structure Node where
  /-- Name to address it by. -/
  browseName : QualifiedName
  /-- Name to show. -/
  displayName : LocalizedText
  /-- References to other nodes, oldest first. -/
  references : List Reference
  /-- May events leave from here? -/
  notifier : Bool
  /-- What it is. -/
  body : NodeBody

namespace Node

/-- A node without references from which no events leave. -/
def create (browseName : QualifiedName) (body : NodeBody) : Node :=
  ⟨browseName, .plain browseName.name, [], false, body⟩

/-- The node as a condition. -/
def condition (n : Node) : Except StatusCode ConditionState :=
  match n.body with
  | .condition c => .ok c
  | _ => .error .badTypeDefinitionInvalid

/-- The node as a variable. -/
def asVariable (n : Node) : Except StatusCode VariableState :=
  match n.body with
  | .variable v => .ok v
  | _ => .error .badNotSupported

/-- Add a reference at the end. -/
def refer (type target : NodeId) (n : Node) : Node :=
  { n with references := n.references ++ [⟨type, target⟩] }

/-- Add a reference at the end, unless it is there already. -/
def referOnce (type target : NodeId) (n : Node) : Node :=
  if ⟨type, target⟩ ∈ n.references then n else n.refer type target

/-- Remove all references to a node. -/
def forget (target : NodeId) (n : Node) : Node :=
  { n with references := n.references.filter fun r => r.target ≠ target }

end Node

end AlarmServer
