import AlarmServer.Server.Service

/-!
# The runtime of a server

Condition handles and access control do not work on the address space itself. They work on the
tables of a server and make calls to its runtime, which they know only by the answers it gives: a
`Routine` is a computation on the tables that stops at each runtime call. Between call and answer
the tables may change, because the runtime may call back.

`Routine.perform` runs a routine on a server: the runtime gives the outcomes that were settled
beforehand, and otherwise works on the address space.

Spec: `SPEC_FULL.md` §6.
-/

namespace AlarmServer

/-- A call to a runtime. Spec §6, `ServerRuntime`. -/
inductive RuntimeCall (β : Type) where
  /-- Create a condition. -/
  | createCondition (request : ConditionRequest)
  /-- Delete a node. -/
  | deleteNode (id : NodeId) (withReferences : Bool)
  /-- Add a reference. -/
  | addReference (source target type : NodeId)
  /-- Read the name that a node shows. -/
  | readDisplayName (id : NodeId)
  /-- Read the name that a node is addressed by. -/
  | readBrowseName (id : NodeId)
  /-- Write a field of a condition. -/
  | writeField (condition : NodeId) (field : QualifiedName) (value : Variant)
  /-- Write a property of a two-state variable. -/
  | writeProperty (condition : NodeId) (variableName property : QualifiedName) (value : Variant)
  /-- Read a field of a condition. -/
  | readField (condition : NodeId) (field : QualifiedName)
  /-- Read a property of a two-state variable. -/
  | readProperty (condition : NodeId) (variableName property : QualifiedName)
  /-- Install a hook. -/
  | installHook (hook : Hook β)
  /-- Publish a condition. -/
  | trigger (condition source : NodeId)

namespace RuntimeCall

/-- The method that is called. -/
@[reducible] def method {β : Type} : RuntimeCall β → Method
  | createCondition _ => .createCondition
  | deleteNode .. => .deleteNode
  | addReference .. => .addReference
  | readDisplayName _ => .readDisplayName
  | readBrowseName _ => .readBrowseName
  | writeField .. => .writeField
  | writeProperty .. => .writeProperty
  | readField .. => .readField
  | readProperty .. => .readProperty
  | installHook _ => .installHook
  | trigger .. => .trigger

/-- A status code, or what the method gives. -/
@[reducible] def Answer {β : Type} (c : RuntimeCall β) : Type := Except StatusCode c.method.Reply

end RuntimeCall

/-- The calls that a routine makes. -/
@[reducible] def runtimeCalls (β : Type) : Signature := ⟨RuntimeCall β, RuntimeCall.Answer⟩

/-- A computation on the tables of a server that may call its runtime. -/
abbrev Routine (β : Type) (α : Type) : Type := Action (runtimeCalls β) (Tables β) α

/-- A routine that may fail. -/
abbrev Operation (β : Type) (α : Type) : Type :=
  ExceptT Error (Action (runtimeCalls β) (Tables β)) α

namespace Server

variable {β : Type}

/-- What the address space answers to a runtime call. Spec §11.3. -/
def genuineAnswer : (c : RuntimeCall β) → Service β c.method.Reply
  | .createCondition r => Service.createCondition r
  | .deleteNode id refs => Service.deleteNode id refs
  | .addReference source target type => Service.addReference source target type
  | .readDisplayName id => Service.query fun sp => sp.displayName id
  | .readBrowseName id => Service.query fun sp => sp.browseName id
  | .writeField condition field value => Service.writeField condition field value
  | .writeProperty condition v property value => Service.writeProperty condition v property value
  | .readField condition field => Service.query fun sp => sp.readField condition field
  | .readProperty condition v property =>
    Service.query fun sp => sp.readProperty condition v property
  | .installHook h => Service.installHook h
  | .trigger condition source => Service.trigger condition source

/-- What the runtime answers to a call: the outcome that was settled, if there is one. -/
def answer (c : RuntimeCall β) : ServerAction β c.Answer := do
  let s ← get
  let (outcome, script) := s.script.next c.method
  set { s with script := script }
  match outcome with
  | .settled a => return a
  | .genuine => genuineAnswer c

end Server

namespace Routine

variable {β α : Type}

/-- Write a line to the journal. -/
def log (level : Level) (text : String) : Routine β Unit := modify (Tables.log level text)

/-- Make a runtime call. -/
def call (c : RuntimeCall β) : Routine β c.Answer := Action.ask (S := runtimeCalls β) c

/-- Run the routine on a server. -/
def perform (r : Routine β α) : ServerAction β α :=
  fun s => (r.zoom Server.tables Server.withTables s).serve Server.answer

end Routine

namespace Operation

variable {β α : Type}

/-- Write a line to the journal. -/
def log (level : Level) (text : String) : Operation β Unit := modify (Tables.log level text)

/-- Make a runtime call whose failure is the given error. -/
def request (c : RuntimeCall β) (failure : StatusCode → Error) : Operation β c.method.Reply :=
  ExceptT.mk (Except.mapError failure <$> Routine.call c)

/-- Run the operation on a server. -/
def perform (o : Operation β α) : ServerAction β (Except Error α) := Routine.perform o.run

end Operation

end AlarmServer
