import AlarmServer.Base.Ambient
import AlarmServer.Base.Interaction
import AlarmServer.Server.Registry
import AlarmServer.Session.Store
import AlarmServer.Space.Conditions

/-!
# State of a server

A server has an address space, and tables beside it: the callback registry and the session store.
Its runtime may be told beforehand how to answer some calls; then the address space is not asked.

The server stops to call callbacks. A callback gets the state of the server to itself: it may do
anything to it before it answers.

Spec: `SPEC_FULL.md` §5 and §11.2.
-/

namespace AlarmServer

/-- Why a callback gave no answer. -/
inductive Fault where
  /-- It said why. -/
  | text (message : String)
  /-- It did not say why. -/
  | silent
  deriving DecidableEq

namespace Fault

/-- What is reported of the fault. Spec §10.1, `panic_message`. -/
def message : Fault → String
  | text m => m
  | silent => "non-string panic payload"

end Fault

/-- Answer of a registered callback. Spec §4.2, dispatch step 3. -/
inductive Verdict where
  /-- It allows or forbids the transition. -/
  | status (s : StatusCode)
  /-- It failed. -/
  | fault (f : Fault)
  deriving DecidableEq

/-- A call of a callback. Spec §4.2 and §5. -/
inductive Upcall (β : Type) where
  /-- A registered callback, before a transition. -/
  | transition (callback : β) (session : Session) (source : NodeId) (removeBranch : Bool)
  /-- A callback that was installed as a hook, before a transition. -/
  | intercept (callback : β) (kind : TransitionKind) (condition : NodeId) (session : Session)
  /-- A callback that watches a variable, after a write. -/
  | written (callback : β) (node : NodeId) (value : Variant)

namespace Upcall

/-- What a callback answers. -/
@[reducible] def Answer {β : Type} : Upcall β → Type
  | transition .. => Verdict
  | intercept .. => StatusCode
  | written .. => Unit

end Upcall

/-- The calls that a server makes. -/
@[reducible] def upcalls (β : Type) : Signature := ⟨Upcall β, Upcall.Answer⟩

/-- What a server keeps beside its address space. Spec §11.2, `ServerHandle`. -/
structure Tables (β : Type) where
  /-- The registered callbacks. -/
  registry : Registry β
  /-- The session store. -/
  sessions : SessionStore
  /-- The surroundings. -/
  ambient : Ambient

namespace Tables

variable {β : Type}

/-- Write a line to the journal. -/
def log (level : Level) (text : String) (t : Tables β) : Tables β :=
  { t with ambient := t.ambient.log level text }

end Tables

/-- The calls that a runtime answers. Spec §6, `ServerRuntime`. -/
inductive Method where
  /-- Create a condition. -/
  | createCondition
  /-- Delete a node. -/
  | deleteNode
  /-- Add a reference. -/
  | addReference
  /-- Read the name that a node shows. -/
  | readDisplayName
  /-- Read the name that a node is addressed by. -/
  | readBrowseName
  /-- Write a field of a condition. -/
  | writeField
  /-- Write a property of a two-state variable. -/
  | writeProperty
  /-- Read a field of a condition. -/
  | readField
  /-- Read a property of a two-state variable. -/
  | readProperty
  /-- Install a hook. -/
  | installHook
  /-- Publish a condition. -/
  | trigger
  deriving DecidableEq

namespace Method

/-- What a successful call gives. -/
@[reducible] def Reply : Method → Type
  | createCondition => NodeId
  | deleteNode => Unit
  | addReference => Unit
  | readDisplayName => LocalizedText
  | readBrowseName => QualifiedName
  | writeField => Unit
  | writeProperty => Unit
  | readField => Variant
  | readProperty => Variant
  | installHook => Unit
  | trigger => EventId

end Method

/-- A way for a runtime to answer a call that was settled beforehand. -/
inductive Outcome (α : Type) where
  /-- Answer as the address space does. -/
  | genuine
  /-- Answer so. -/
  | settled (answer : Except StatusCode α)

/-- The outcomes settled beforehand, by method, the next one first. -/
abbrev Script : Type := (m : Method) → List (Outcome m.Reply)

namespace Script

/-- Nothing is settled. -/
def empty : Script := fun _ => []

/-- Replace the outcomes of one method. -/
def assign (s : Script) (m : Method) (outcomes : List (Outcome m.Reply)) : Script := fun m' =>
  if h : m' = m then h ▸ outcomes else s m'

/-- Add outcomes of one method after those it has. -/
def append (s : Script) (m : Method) (outcomes : List (Outcome m.Reply)) : Script :=
  s.assign m (s m ++ outcomes)

/-- The outcome of the next call of a method, and the script after it. -/
def next (s : Script) (m : Method) : Outcome m.Reply × Script :=
  match s m with
  | [] => (.genuine, s)
  | o :: os => (o, s.assign m os)

end Script

/-- A server. Spec §11.2. -/
structure Server (β : Type) where
  /-- Its tables. -/
  tables : Tables β
  /-- Its address space. -/
  space : AddressSpace β
  /-- The answers of its runtime that are settled beforehand. -/
  script : Script

namespace Server

variable {β : Type}

/-- A new server in the given surroundings. Spec §11.2. -/
def create (ambient : Ambient) : Server β where
  tables := ⟨.empty, .empty, ambient⟩
  space := .initial
  script := .empty

/-- The present. -/
def now (s : Server β) : Instant := s.tables.ambient.now

/-- Replace the tables. -/
def withTables (t : Tables β) (s : Server β) : Server β := { s with tables := t }

/-- Replace the address space. -/
def withSpace (sp : AddressSpace β) (s : Server β) : Server β := { s with space := sp }

/-- Write a line to the journal. -/
def log (level : Level) (text : String) (s : Server β) : Server β :=
  { s with tables := s.tables.log level text }

end Server

/-- An operation of a server. -/
abbrev ServerAction (β : Type) (α : Type) : Type := Action (upcalls β) (Server β) α

/-- Write a line to the journal. -/
def ServerAction.log {β : Type} (level : Level) (text : String) : ServerAction β Unit :=
  modify (Server.log level text)

/-- An operation of a server that may fail with a status code. -/
abbrev Service (β : Type) (α : Type) : Type := ExceptT StatusCode (Action (upcalls β) (Server β)) α

namespace Service

variable {β : Type} {α : Type}

/-- Write a line to the journal. -/
def log (level : Level) (text : String) : Service β Unit := modify (Server.log level text)

/-- Ask the address space, which does not change. -/
def query (f : AddressSpace β → Except StatusCode α) : Service β α := do
  ExceptT.mk (return f (← get).space)

/-- Act on the address space. What it has become stays, also if the action fails. -/
def act (p : SpaceAction β α) : Service β α :=
  ExceptT.mk (modifyGet fun s =>
    let (result, sp) := p.result s.space
    (result, s.withSpace sp))

end Service

end AlarmServer
