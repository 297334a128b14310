import AlarmServer.Space.Node

/-!
# The address space

The address space holds the nodes, what is to be called before a two-state variable of a condition
becomes true (its hooks) and after a variable is written (its watchers), and the events published so
far. Callbacks are values of any type `β`: the address space keeps them and never calls them. They
own nothing: when a callback is replaced or goes with its node, nothing else is given up with it.

An operation is a sequence of checks and changes, in the order in which they are made. A check that
fails ends it with a status code; what was changed before stays changed.

Spec: `SPEC_FULL.md` §6 and §11.3.
-/

namespace AlarmServer

/-- Who is called before a two-state variable becomes true. Spec §6, `TransitionInterceptor`. -/
inductive Interceptor (β : Type) where
  /-- The server, which calls the callback that is registered for the variable then. -/
  | registered
  /-- One callback, directly. -/
  | direct (callback : β)

/-- What is called before a two-state variable of a condition becomes true. Spec §6,
`TwoStateHook`. -/
structure Hook (β : Type) where
  /-- The condition. -/
  condition : NodeId
  /-- The node that the hook was installed for. -/
  source : NodeId
  /-- Is the branch of the condition to be removed? -/
  removeBranch : Bool
  /-- The variable. -/
  kind : TransitionKind
  /-- Who is called. -/
  interceptor : Interceptor β

namespace Hook

/-- The diagnostic text, which leaves out who is called. -/
def debugText {β : Type} (h : Hook β) : String :=
  Text.record "TwoStateHook" [("condition", h.condition.debugText), ("source", h.source.debugText),
    ("remove_branch", toString h.removeBranch), ("kind", h.kind.name)] true

end Hook

/-- An address space with callbacks of type `β`. Spec §11.3, `InMemoryServer`. -/
structure AddressSpace (β : Type) where
  /-- The nodes. -/
  nodes : Table NodeId Node
  /-- The hooks of two-state variables. -/
  hooks : Table (NodeId × TransitionKind) (Hook β)
  /-- What is called after a variable is written. -/
  watchers : Table NodeId β
  /-- Number of the next node that gets its identifier here. -/
  nextId : UInt32
  /-- The events published, in order. -/
  events : List ConditionEvent
  /-- How many events have been published, counted one by one. -/
  published : Nat
  /-- How many nodes have been deleted. -/
  deleted : Nat

namespace AddressSpace

variable {β : Type}

/-- The address space of a new server: the folder of all objects, and the server object in it. -/
def initial : AddressSpace β where
  nodes := .ofList [
    (.objectsFolder,
      (Node.create (.standard "Objects") .object).refer .organizes .serverObject),
    (.serverObject, { Node.create (.standard "Server") .object with notifier := true })]
  hooks := .empty
  watchers := .empty
  nextId := 50000
  events := []
  published := 0
  deleted := 0

/-- The node of that identifier. -/
def node (sp : AddressSpace β) (id : NodeId) : Except StatusCode Node :=
  match sp.nodes.find? id with
  | some n => .ok n
  | none => .error .badNodeIdUnknown

/-- The condition of that identifier. -/
def condition (sp : AddressSpace β) (id : NodeId) : Except StatusCode ConditionState := do
  (← sp.node id).condition

/-- The references of a node; none if there is no such node. -/
def references (sp : AddressSpace β) (id : NodeId) : List Reference :=
  match sp.nodes.find? id with
  | some n => n.references
  | none => []

/-- Change a node, if it exists. -/
def modifyNode (sp : AddressSpace β) (id : NodeId) (f : Node → Node) : AddressSpace β :=
  { sp with nodes := sp.nodes.modify id f }

/-- Replace the state of a condition, if it exists. -/
def setCondition (sp : AddressSpace β) (id : NodeId) (c : ConditionState) : AddressSpace β :=
  sp.modifyNode id fun n => { n with body := .condition c }

/-- The identifier that the next node gets, and the address space in which it is used up. The number
returns to zero after the largest one. Spec §11.3, `allocate_id`. -/
def allocate (sp : AddressSpace β) : NodeId × AddressSpace β :=
  (.numeric 1 sp.nextId, { sp with nextId := sp.nextId + 1 })

/-- Store a node, in place of any node with its identifier. -/
def place (sp : AddressSpace β) (id : NodeId) (n : Node) : AddressSpace β :=
  { sp with nodes := sp.nodes.insert id n }

/-- Append an event to those published, and count it. -/
def emit (sp : AddressSpace β) (event : ConditionEvent) : AddressSpace β :=
  { sp with published := sp.published + 1, events := sp.events ++ [event] }

/-- The variable of that identifier. -/
def variableAt (sp : AddressSpace β) (id : NodeId) : Except StatusCode VariableState := do
  (← sp.node id).asVariable

/-- Read the value of a variable. Spec §11.3, `read_value`. -/
def readValue (sp : AddressSpace β) (id : NodeId) : Except StatusCode Variant := do
  return (← sp.variableAt id).value

/-- What clients may do with a variable. Spec §11.3, `access_level`. -/
def accessLevel (sp : AddressSpace β) (id : NodeId) : Except StatusCode AccessLevel := do
  return (← sp.variableAt id).level

/-- The name that a node shows. Spec §6, `read_display_name`. -/
def displayName (sp : AddressSpace β) (id : NodeId) : Except StatusCode LocalizedText := do
  return (← sp.node id).displayName

/-- The name that a node is addressed by. Spec §6, `read_browse_name`. -/
def browseName (sp : AddressSpace β) (id : NodeId) : Except StatusCode QualifiedName := do
  return (← sp.node id).browseName

end AddressSpace

/-- An operation on an address space. It may fail with a status code; what it has changed before it
fails stays changed. -/
abbrev SpaceAction (β α : Type) : Type := EStateM StatusCode (AddressSpace β) α

namespace SpaceAction

variable {β α : Type}

/-- What an action gives, and the address space that it leaves. -/
def result (p : SpaceAction β α) (sp : AddressSpace β) : Except StatusCode α × AddressSpace β :=
  match p.run sp with
  | .ok a sp' => (.ok a, sp')
  | .error e sp' => (.error e, sp')

/-- Ask the address space, which does not change. -/
def query (f : AddressSpace β → Except StatusCode α) : SpaceAction β α := do
  match f (← get) with
  | .ok a => return a
  | .error e => throw e

/-! ### Objects and variables -/

/-- Add a node as a part of another. Spec §11.3, `insert_child`. -/
def addPart (parent : NodeId) (n : Node) : SpaceAction β NodeId := do
  let _ ← query fun sp => sp.node parent
  let id ← modifyGet AddressSpace.allocate
  modify fun sp => sp.place id n
  modify fun sp => sp.modifyNode parent (Node.refer .hasComponent id)
  return id

/-- Add an object. Spec §11.3, `add_object`. -/
def addObject (parent : NodeId) (name : QualifiedName) : SpaceAction β NodeId :=
  addPart parent (.create name .object)

/-- Add a variable. Spec §11.3, `add_variable`. -/
def addVariable (parent : NodeId) (name : QualifiedName) (value : Variant) (level : AccessLevel) :
    SpaceAction β NodeId :=
  addPart parent (.create name (.variable ⟨value, level⟩))

/-- Allow or forbid events to leave from a node. Spec §11.3, `set_event_notifier`. -/
def setNotifier (id : NodeId) (notifier : Bool) : SpaceAction β Unit := do
  let _ ← query fun sp => sp.node id
  modify fun sp => sp.modifyNode id fun n => { n with notifier := notifier }

/-- Add a reference, once. Its type is checked first, then its target, then its source. Spec §6,
`add_reference`. -/
def addReference (source target type : NodeId) : SpaceAction β Unit := do
  unless type.isReferenceType do throw .badReferenceTypeIdInvalid
  let _ ← query fun sp => sp.node target
  let _ ← query fun sp => sp.node source
  modify fun sp => sp.modifyNode source (Node.referOnce type target)

/-- Add an object among the objects from which events leave, as a notifier below the server object.
Each of the three operations checks for itself, so the object stays if a later one fails. Spec
§11.3, `add_event_source`. -/
def addEventSource (name : QualifiedName) : SpaceAction β NodeId := do
  let id ← addObject .objectsFolder name
  setNotifier id true
  addReference .serverObject id .hasNotifier
  return id

/-- Store a value in a variable. It must be writable, and keeps the data type of its value once it
has one. Spec §11.3, `write_value`. -/
def writeValue (id : NodeId) (value : Variant) : SpaceAction β Unit := do
  let v ← query fun sp => sp.variableAt id
  unless v.level.canWrite do throw .badNotWritable
  unless v.value.isEmpty || v.value.dataType = value.dataType do throw .badTypeMismatch
  modify fun sp => sp.modifyNode id fun n => { n with body := .variable { v with value := value } }

/-- Call `callback` after every write to the node from now on. Spec §11.3, `on_write`. -/
def watch (id : NodeId) (callback : β) : SpaceAction β Unit := do
  let _ ← query fun sp => sp.node id
  modify fun sp => { sp with watchers := sp.watchers.insert id callback }

/-- Delete a node with its hooks and its watcher and, if asked, all references to it. Spec §6,
`delete_node`. -/
def deleteNode (id : NodeId) (withReferences : Bool) : SpaceAction β Unit := do
  let _ ← query fun sp => sp.node id
  modify fun sp => { sp with nodes := sp.nodes.erase id }
  modify fun sp => { sp with hooks := sp.hooks.filterKeys fun k => k.1 ≠ id }
  modify fun sp => { sp with watchers := sp.watchers.erase id }
  if withReferences then
    modify fun sp => { sp with nodes := sp.nodes.mapValues fun _ n => n.forget id }
  modify fun sp => { sp with deleted := sp.deleted + 1 }

end SpaceAction

end AlarmServer
