import AlarmServer.Access.Control
import AlarmServer.Handle.Alarm

/-!
# Steps of a script

A script drives one or more servers step by step. Nodes may be given by a name that an earlier step
has bound, and condition handles are always named. A step may bring callbacks, and what a callback
does is again a list of steps.
-/

namespace AlarmServer.Script

/-- A node, given by its identifier or by a bound name. -/
inductive NodeRef where
  /-- The node with that identifier. -/
  | id (id : NodeId)
  /-- The node bound to that name. -/
  | bound (name : String)

/-- A variant, whose node may be given by a bound name. -/
inductive VariantRef where
  /-- That value. -/
  | value (v : Variant)
  /-- A node identifier. -/
  | node (ref : NodeRef)

/-- What a callback answers, after it has done its steps. -/
inductive Reply where
  /-- Always that status. -/
  | status (s : StatusCode)
  /-- Good if the session's owner is an administrator, else that status. -/
  | admin (otherwise : StatusCode)
  /-- Good if that attribute of the session is true, else that status. -/
  | attribute (key : QualifiedName) (otherwise : StatusCode)
  /-- One status after the other, the last again and again. -/
  | sequence (statuses : List StatusCode)
  /-- None: it fails. -/
  | fault (f : Fault)

/-- An answer that a runtime is to give, as far as it can be given without knowing the bound names.
-/
inductive Settled where
  /-- What the address space answers. -/
  | genuine
  /-- That failure. -/
  | failure (s : StatusCode)
  /-- Success without a value. -/
  | unit
  /-- That node. -/
  | node (ref : NodeRef)
  /-- That value. -/
  | variant (v : VariantRef)
  /-- That text. -/
  | text (t : LocalizedText)
  /-- That name. -/
  | name (q : QualifiedName)
  /-- That event identifier. -/
  | event (id : EventId)

/-- How the value of an attribute is asked for. -/
inductive AttributeView where
  /-- As it is. -/
  | any
  /-- As a truth value. -/
  | bool
  /-- As a text. -/
  | string
  /-- As a number. -/
  | uint32

/-- Whose session a step is about. -/
inductive SessionRef where
  /-- The one that the running callback was given. -/
  | callback
  /-- That session. -/
  | given (session : Session)

/-- A request for a condition, with nodes that may be named. -/
structure RequestRef where
  /-- Node of the condition type. -/
  conditionType : NodeRef
  /-- Name of the condition. -/
  browseName : QualifiedName
  /-- Node the condition belongs to. -/
  source : NodeRef
  /-- Type of a further reference from the source. -/
  parentReference : Option NodeRef
  /-- Identifier the condition should have. -/
  requestedId : Option NodeRef

mutual

/-- A callback. -/
inductive Callback where
  /-- It has a label, steps to do, if any, and an answer. -/
  | mk (label : String) (steps : Option (List (Nat × Command))) (reply : Reply)

/-- What a step does. -/
inductive Command where
  /-- Add an object. -/
  | addObject (parent : NodeRef) (name : QualifiedName) (bind : Option String)
  /-- Add a source of events. -/
  | addEventSource (name : QualifiedName) (bind : Option String)
  /-- Add a variable. -/
  | addVariable (parent : NodeRef) (name : QualifiedName) (value : VariantRef) (level : AccessLevel)
      (bind : Option String)
  /-- Allow or forbid events to leave from a node. -/
  | setNotifier (node : NodeRef) (notifier : Bool)
  /-- Add a reference. -/
  | addReference (source target type : NodeRef)
  /-- Delete a node. -/
  | deleteNode (node : NodeRef) (withReferences : Bool)
  /-- Read a variable. -/
  | readValue (node : NodeRef)
  /-- Write a variable. -/
  | writeValue (node : NodeRef) (value : VariantRef)
  /-- Ask what clients may do with a variable. -/
  | accessLevel (node : NodeRef)
  /-- Watch a variable. -/
  | watch (node : NodeRef) (callback : Callback)
  /-- Ask whether there is a node. -/
  | containsNode (node : NodeRef)
  /-- List the references of a node. -/
  | references (node : NodeRef)
  /-- Read the name that a node shows. -/
  | readDisplayName (node : NodeRef)
  /-- Read the name that a node is addressed by. -/
  | readBrowseName (node : NodeRef)
  /-- Create a condition without a handle. -/
  | createCondition (request : RequestRef) (bind : Option String)
  /-- Write a field of a condition node. -/
  | writeField (node : NodeRef) (field : QualifiedName) (value : VariantRef)
  /-- Write a property of a two-state variable of a condition node. -/
  | writeProperty (node : NodeRef) (variableName property : QualifiedName) (value : VariantRef)
  /-- Read a field of a condition node. -/
  | readField (node : NodeRef) (field : QualifiedName)
  /-- Read a property of a two-state variable of a condition node. -/
  | readProperty (node : NodeRef) (variableName property : QualifiedName)
  /-- Publish a condition node. -/
  | triggerNode (node source : NodeRef)
  /-- Install a callback as a hook. -/
  | installHook (node source : NodeRef) (kind : TransitionKind) (removeBranch : Bool)
      (callback : Callback)
  /-- Look at a hook. -/
  | hook (node : NodeRef) (kind : TransitionKind)
  /-- Call a hook. -/
  | callHook (node : NodeRef) (kind : TransitionKind) (session : Session)
  /-- Enable a condition. -/
  | enable (node : NodeRef) (session : Session)
  /-- Disable a condition. -/
  | disable (node : NodeRef)
  /-- Acknowledge a condition. -/
  | acknowledge (node : NodeRef) (session : Session) (comment : Option String)
  /-- Confirm a condition. -/
  | confirm (node : NodeRef) (session : Session) (comment : Option String)
  /-- Read all that a condition may have. -/
  | dump (node : NodeRef)
  /-- Create a condition with a handle. -/
  | create (request : RequestRef) (bind : String)
  /-- Make a handle for a node. -/
  | wrap (node : NodeRef) (bind : String)
  /-- Make a second handle. -/
  | borrow (handle bind : String)
  /-- Drop a handle. -/
  | drop (handle : String)
  /-- Give up a handle. -/
  | release (handle : String)
  /-- Look at a handle. -/
  | inspect (handle : String)
  /-- Compare two handles. -/
  | same (a b : String)
  /-- Write a field. -/
  | setField (handle : String) (field : QualifiedName) (value : VariantRef)
  /-- Write a property of a two-state variable. -/
  | setVariableField (handle : String) (variableName property : QualifiedName) (value : VariantRef)
  /-- Read a field. -/
  | field (handle : String) (field : QualifiedName)
  /-- Read a property of a two-state variable. -/
  | variableField (handle : String) (variableName property : QualifiedName)
  /-- Read the state of a two-state variable. -/
  | twoState (handle : String) (kind : TransitionKind)
  /-- Publish a condition. -/
  | trigger (handle : String) (source : NodeRef)
  /-- Register a callback. -/
  | register (handle : String) (kind : TransitionKind) (source : NodeRef) (removeBranch : Bool)
      (callback : Callback)
  /-- Create an on/off alarm. -/
  | createAlarm (source : NodeRef) (name : QualifiedName) (parentReference : Option NodeRef)
      (severity : UInt16) (bind : String)
  /-- Create an on/off alarm that is given nothing but a source. -/
  | createDefaultAlarm (source : NodeRef) (bind : String)
  /-- Switch an alarm, published from its own source if no other is given. -/
  | setActive (handle : String) (source : Option NodeRef) (active : Bool) (message : Option String)
  /-- Read the state of an alarm. -/
  | alarmState (handle : String)
  /-- Ask for the source of an alarm. -/
  | alarmSource (handle : String)
  /-- Keep no more than the condition of an alarm. -/
  | intoCondition (handle : String)
  /-- Register a callback for an alarm's own source. -/
  | registerAlarm (handle : String) (kind : TransitionKind) (removeBranch : Bool)
      (callback : Callback)
  /-- Dispatch a transition. -/
  | dispatch (node : NodeRef) (kind : TransitionKind) (session : Session)
  /-- Register a callback and install no hook. -/
  | storeSlot (node : NodeRef) (kind : TransitionKind) (source : NodeRef) (removeBranch : Bool)
      (callback : Callback)
  /-- Look at a registered callback. -/
  | slot (node : NodeRef) (kind : TransitionKind)
  /-- List the registered callbacks of a condition. -/
  | slots (node : NodeRef)
  /-- Ask whether a condition has a record of callbacks. -/
  | hasRecord (node : NodeRef)
  /-- Remove the record of a condition's callbacks. -/
  | removeRecord (node : NodeRef)
  /-- Look at the server. -/
  | inspectServer
  /-- Make a session known. -/
  | openSession (session : SessionId)
  /-- Ask whether a session is known. -/
  | knowsSession (session : SessionId)
  /-- Ask who owns a session. -/
  | sessionIdentity (session : SessionId)
  /-- Keep an attribute. -/
  | setAttribute (session : SessionId) (key : QualifiedName) (value : AttributeValue)
  /-- Keep what a token says of the owner. -/
  | recordIdentity (session : SessionId) (token : IdentityToken)
  /-- Look up an attribute. -/
  | getAttribute (session : SessionId) (key : QualifiedName) (view : AttributeView)
  /-- Forget a session. -/
  | forgetSession (session : SessionId)
  /-- Look at a session handle. -/
  | sessionInfo (session : SessionRef)
  /-- Look up an attribute through a session handle. -/
  | sessionGet (session : SessionRef) (key : QualifiedName)
  /-- Keep an attribute through a session handle. -/
  | sessionSet (session : SessionRef) (key : QualifiedName) (value : AttributeValue)
  /-- Put a policy in charge; there is none if it could not be read. -/
  | setPolicy (policy : Option AccessPolicy)
  /-- Activate a session. -/
  | activate (session : SessionId) (token : IdentityToken)
  /-- Ask the policy alone whether a session may be activated. -/
  | activateByPolicy (session : SessionId) (token : IdentityToken)
  /-- Record what a token says of the owner of a session, under access control. -/
  | decide (session : SessionId) (token : IdentityToken)
  /-- Close a session. -/
  | closeSession (session : SessionId)
  /-- Ask what a session may do with a node. -/
  | userLevel (session : SessionId) (node : NodeRef)
  /-- Settle answers of the runtime. -/
  | settle (method : Method) (answers : List Settled)
  /-- A step that nobody knows. -/
  | unknown

end

/-- A step: the number of a server, and what to do there. -/
abbrev Step : Type := Nat × Command

namespace Callback

/-- The label. -/
def label : Callback → String
  | mk label _ _ => label

/-- The steps to do, if any. -/
def steps : Callback → Option (List Step)
  | mk _ steps _ => steps

/-- The answer. -/
def reply : Callback → Reply
  | mk _ _ reply => reply

end Callback

/-- The handles that a step works on. -/
def Command.handles : Command → List String
  | .borrow h _ => [h]
  | .inspect h => [h]
  | .same a b => [a, b]
  | .setField h .. => [h]
  | .setVariableField h .. => [h]
  | .field h _ => [h]
  | .variableField h .. => [h]
  | .twoState h _ => [h]
  | .trigger h _ => [h]
  | .register h .. => [h]
  | .setActive h .. => [h]
  | .alarmState h => [h]
  | .alarmSource h => [h]
  | .registerAlarm h .. => [h]
  | _ => []

/-! ### Results -/

/-- Why a step could not be carried out. -/
inductive Refusal where
  /-- No node has that name. -/
  | unboundNode
  /-- No handle has that name. -/
  | unboundHandle
  /-- A handle has that name already. -/
  | handleInUse
  /-- A step around this one works on the handle. -/
  | handleBusy
  /-- The handle is not that of an on/off alarm. -/
  | notAlarm
  /-- No policy is in charge. -/
  | noAccessControl
  /-- No callback with a session is running. -/
  | noCallbackSession
  /-- The answers of this server's runtime cannot be settled. -/
  | notFaulty
  /-- There is no such step. -/
  | unknownStep
  deriving DecidableEq

namespace Refusal

/-- The reason in words. -/
def message : Refusal → String
  | unboundNode => "unbound node"
  | unboundHandle => "unbound handle"
  | handleInUse => "handle name in use"
  | handleBusy => "handle busy"
  | notAlarm => "not an on/off handle"
  | noAccessControl => "no access control"
  | noCallbackSession => "no callback session"
  | notFaulty => "not a faulty server"
  | unknownStep => "unknown step"

end Refusal

/-- How a step fails. -/
inductive Failure where
  /-- The runtime answered with a status code. -/
  | status (s : StatusCode)
  /-- An operation failed. -/
  | error (e : Error)
  /-- A value was not well-formed. -/
  | malformed
  /-- The step was not carried out. -/
  | refused (r : Refusal)

/-- What a handle shows. -/
structure HandleInfo where
  /-- The node. -/
  id : NodeId
  /-- Does the handle own the node? -/
  owns : Bool
  /-- The diagnostic text. -/
  debug : String
  /-- For each server, whether the handle is one of it. -/
  servers : List Bool

/-- What a server shows. -/
structure ServerInfo where
  /-- The diagnostic text. -/
  debug : String
  /-- For each server, whether it is this one. -/
  servers : List Bool
  /-- Does the runtime work on the address space alone? -/
  ownsSpace : Bool
  /-- Is no callback registered? -/
  noCallbacks : Bool
  /-- Is no session known? -/
  noSessions : Bool

/-- What a session shows. -/
structure SessionInfo where
  /-- The session, unless it is the anonymous one. -/
  session : Session
  /-- Is its owner an administrator? -/
  isAdmin : Bool
  /-- Who owns it. -/
  identity : Option SessionIdentity

/-- What a step gives. -/
inductive Value where
  /-- Nothing. -/
  | unit
  /-- A node. -/
  | node (id : NodeId)
  /-- A variant. -/
  | variant (v : Variant)
  /-- A truth value. -/
  | bool (b : Bool)
  /-- A text. -/
  | text (s : String)
  /-- A text, or nothing. -/
  | optionalText (s : Option String)
  /-- A number. -/
  | number (n : UInt32)
  /-- An access level. -/
  | level (l : AccessLevel)
  /-- References. -/
  | references (rs : List Reference)
  /-- A localized text. -/
  | localizedText (t : LocalizedText)
  /-- A qualified name. -/
  | name (q : QualifiedName)
  /-- An event identifier. -/
  | event (id : EventId)
  /-- A hook, or nothing: its condition, source, mark, variable and diagnostic text. -/
  | hook (h : Option (NodeId × NodeId × Bool × TransitionKind × String))
  /-- A registered callback, or nothing: its source, mark and diagnostic text. -/
  | slot (s : Option (NodeId × Bool × String))
  /-- Registered callbacks, or nothing: the variables and sources. -/
  | slots (s : Option (List (TransitionKind × NodeId)))
  /-- All that could be read of a condition, and why the rest could not. -/
  | dump (entries : List (String × Except StatusCode Variant))
  /-- A handle. -/
  | handle (c : Condition)
  /-- A closer look at a handle. -/
  | handleInfo (i : HandleInfo)
  /-- A closer look at a server. -/
  | serverInfo (i : ServerInfo)
  /-- An identity, or nothing. -/
  | identity (i : Option SessionIdentity)
  /-- An attribute. -/
  | attribute (a : AttributeValue)
  /-- All that was kept for a session, or nothing. -/
  | attributes (a : Option SessionAttributes)
  /-- A closer look at a session. -/
  | sessionInfo (i : SessionInfo)

/-- What a callback was called with. -/
inductive Occasion where
  /-- A registered callback, with what its session shows. -/
  | transition (info : SessionInfo) (source : NodeId) (removeBranch : Bool)
  /-- A hook. -/
  | intercept (kind : TransitionKind) (condition : NodeId) (session : Session)
  /-- A written variable. -/
  | written (node : NodeId) (value : Variant)

mutual

/-- What happened in a step. -/
inductive StepResult where
  /-- The outcome, and the calls of callbacks in the order in which they ended. -/
  | mk (outcome : Except Failure Value) (calls : List CallRecord)

/-- What happened in a call of a callback. -/
inductive CallRecord where
  /-- The label of the callback, what it was called with, the results of its steps, whether it was
  nested too deeply to do them, and its answer. -/
  | mk (label : String) (occasion : Occasion) (results : Option (List StepResult)) (tooDeep : Bool)
      (answer : String)

end

end AlarmServer.Script
