import AlarmServer.Script.Step

/-!
# The world of a script

The servers of a script share their surroundings. Beside them are the handles and the bound names,
and what is known of each callback that a step has brought: its server, and how often it was called.
-/

namespace AlarmServer.Script

/-- A callback that a step has brought to a server. -/
structure Registered where
  /-- A number of its own. -/
  serial : Nat
  /-- The server. -/
  server : Nat
  /-- The callback. -/
  callback : Callback

/-- What a handle name stands for. -/
inductive Handle where
  /-- A condition. -/
  | condition (c : Condition)
  /-- An on/off alarm. -/
  | alarm (a : Alarm)

namespace Handle

/-- The handle as one of a condition. -/
def toCondition : Handle → Condition
  | condition c => c
  | alarm a => a.condition

end Handle

/-- A server with what the script puts around it. -/
structure Host where
  /-- The server. -/
  server : Server Registered
  /-- The access control in charge. -/
  access : Option AccessControl
  /-- Can the answers of its runtime be settled? -/
  faulty : Bool

/-- The state of a script. -/
structure World where
  /-- The servers. -/
  hosts : List Host
  /-- The surroundings that they share. -/
  ambient : Ambient
  /-- The handles, each with the number of its server. -/
  handles : Table String (Nat × Handle)
  /-- The bound names. -/
  names : Table String NodeId
  /-- How many callbacks have been brought. -/
  brought : Nat
  /-- How often each callback has been called. -/
  called : Table Nat Nat
  /-- The calls of callbacks in the step that is running. -/
  calls : List CallRecord

namespace World

/-- The world with new servers; each entry tells whether the answers of a runtime can be settled. -/
def start (servers : List Bool) (now : Instant) : World where
  hosts := servers.map fun faulty => ⟨.create (.start now), none, faulty⟩
  ambient := .start now
  handles := .empty
  names := .empty
  brought := 0
  called := .empty
  calls := []

/-- A server in the shared surroundings. -/
def server (i : Nat) (w : World) : Server Registered :=
  let s := match w.hosts[i]? with
    | some h => h.server
    | none => .create w.ambient
  { s with tables.ambient := w.ambient }

/-- Count a call of a callback; what is given is how often it was called before. -/
def countCall (serial : Nat) (w : World) : Nat × World :=
  let n := (w.called.find? serial).getD 0
  (n, { w with called := w.called.insert serial (n + 1) })

/-- Replace a server, and the shared surroundings by those it leaves. -/
def setServer (i : Nat) (s : Server Registered) (w : World) : World :=
  { w with
    ambient := s.tables.ambient
    hosts := w.hosts.modify i fun h => { h with server := s } }

/-- Bind a name, if there is one to bind. -/
def bind (name : Option String) (id : NodeId) (w : World) : World :=
  match name with
  | some name => { w with names := w.names.insert name id }
  | none => w

end World

/-- A step of a script under way. -/
abbrev Act (α : Type) : Type := ExceptT Failure (Action (upcalls Registered) World) α

namespace Act

variable {α : Type}

/-- Do not carry out the step. -/
def refuse (r : Refusal) : Act α := throw (.refused r)

/-- Run an operation of a server. -/
def serve (i : Nat) (x : ServerAction Registered α) : Act α :=
  ExceptT.mk (Except.ok <$> Action.zoom (World.server i) (World.setServer i) x)

/-- Run an operation of a server that may fail with a status code. -/
def service (i : Nat) (x : Service Registered α) : Act α :=
  ExceptT.mk (Except.mapError Failure.status <$>
    Action.zoom (World.server i) (World.setServer i) x.run)

/-- Make a runtime call. -/
def call (i : Nat) (c : RuntimeCall Registered) : Act c.method.Reply :=
  ExceptT.mk (Except.mapError Failure.status <$>
    Action.zoom (World.server i) (World.setServer i) (Server.answer c))

/-- Run an operation on the tables of a server. -/
def routine (i : Nat) (x : Routine Registered α) : Act α := serve i x.perform

/-- Run an operation on the tables of a server that may fail. -/
def operation (i : Nat) (x : Operation Registered α) : Act α :=
  ExceptT.mk (Except.mapError Failure.error <$>
    Action.zoom (World.server i) (World.setServer i) x.perform)

/-- The node meant by a reference. -/
def node : NodeRef → Act NodeId
  | .id id => return id
  | .bound name => do
    match (← get).names.find? name with
    | some id => return id
    | none => refuse .unboundNode

/-- The node meant by a reference, if there is one. -/
def node? : Option NodeRef → Act (Option NodeId)
  | some r => some <$> node r
  | none => return none

/-- The variant meant by a reference. -/
def variant : VariantRef → Act Variant
  | .value v => return v
  | .node r => .nodeId <$> node r

/-- The request meant by a reference: its nodes in the order type, source, parent reference,
identifier. -/
def request (r : RequestRef) : Act ConditionRequest := do
  let type ← node r.conditionType
  let source ← node r.source
  let parent ← node? r.parentReference
  let id ← node? r.requestedId
  return ⟨type, r.browseName, source, parent, id⟩

/-- The handle of that name, with the number of its server. -/
def handle (name : String) : Act (Nat × Handle) := do
  match (← get).handles.find? name with
  | some h => return h
  | none => refuse .unboundHandle

/-- The condition handle of that name. -/
def condition (name : String) : Act (Nat × Condition) := do
  let (i, h) ← handle name
  return (i, h.toCondition)

/-- The alarm handle of that name. -/
def alarm (name : String) : Act (Nat × Alarm) := do
  match ← handle name with
  | (i, .alarm a) => return (i, a)
  | _ => refuse .notAlarm

/-- Refuse a handle name that is in use. -/
def requireFree (name : String) : Act Unit := do
  if (← get).handles.contains name then refuse .handleInUse

/-- Keep a new handle under a name, and bind the name to its node. A handle that has got the name in
the meantime, from a callback, is dropped. -/
def keep (name : String) (i : Nat) (h : Handle) : Act Value := do
  let c := h.toCondition
  let replaced := (← get).handles.find? name
  modify fun w => ({ w with handles := w.handles.insert name (i, h) }).bind (some name) c.id
  if let some (j, old) := replaced then routine j old.toCondition.drop
  return .handle c

/-- A callback brought to a server. -/
def bring (i : Nat) (c : Callback) : Act Registered :=
  modifyGet fun w => (⟨w.brought, i, c⟩, { w with brought := w.brought + 1 })

/-- The access control in charge of a server. -/
def access (i : Nat) : Act AccessControl := do
  match (← get).hosts[i]?.bind Host.access with
  | some a => return a
  | none => refuse .noAccessControl

end Act

end AlarmServer.Script
