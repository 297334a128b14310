import AlarmServer.Config.Basic
import AlarmServer.Server.Routine

/-!
# Access control

A policy decides whether a session may be activated with a token and what its owner may do with a
node. Access control stands before a policy: it records who activates a session, forgets a session
that the policy rejects, and gives sessions of other users than administrators no more than the
right to read. It knows the policy only by the answers that it gives, as an `AccessAction`.

Spec: `SPEC_FULL.md` §4.4 and §11.5.
-/

namespace AlarmServer

variable {β : Type}

/-- A policy by a table of logins. Spec §11.5, `DefaultAccessControl`. -/
structure LoginPolicy where
  /-- Are anonymous sessions accepted? -/
  allowAnonymous : Bool
  /-- Are certificates and issued tokens accepted? -/
  allowTokens : Bool
  /-- Passwords by user name. -/
  logins : Table String String

namespace LoginPolicy

/-- A policy without logins that accepts no token. -/
def create (allowAnonymous : Bool) : LoginPolicy := ⟨allowAnonymous, false, .empty⟩

/-- Give a user a password, in place of any other. -/
def withLogin (p : LoginPolicy) (name password : String) : LoginPolicy :=
  { p with logins := p.logins.insert name password }

/-- Accept certificates and issued tokens, or do not. -/
def withTokens (p : LoginPolicy) (allow : Bool) : LoginPolicy := { p with allowTokens := allow }

/-- The policy of a configuration. Spec §11.5, `from_config`. -/
def ofConfig (c : AccessConfig) : LoginPolicy :=
  let start := create c.allowAnonymous
  (c.users.foldl (fun p u => p.withLogin u.userName u.password) start).withTokens c.allowTokens

/-- What the policy says of a token. Spec §11.5, `activate_session`. -/
def decide (p : LoginPolicy) : IdentityToken → StatusCode
  | .anonymous => if p.allowAnonymous then .good else .badIdentityTokenInvalid
  | .userName name password =>
    if p.logins.find? name = some password then .good else .badUserAccessDenied
  | .x509 _ => if p.allowTokens then .good else .badIdentityTokenRejected
  | .issued .. => if p.allowTokens then .good else .badIdentityTokenRejected

end LoginPolicy

/-- A policy. Spec §11.5. -/
inductive AccessPolicy where
  /-- By a table of logins; whoever is let in may read and write. -/
  | logins (policy : LoginPolicy)
  /-- The same status for every token and the same level for every node. -/
  | fixed (status : StatusCode) (level : AccessLevel)

namespace AccessPolicy

/-- Ask the policy whether a session may be activated. A rejection by the login table is noted. -/
def activate (p : AccessPolicy) (session : SessionId) (token : IdentityToken) :
    Routine β StatusCode := do
  match p with
  | fixed status _ => return status
  | logins table =>
    let status := table.decide token
    if status.isBad then
      Routine.log .warn ("Session " ++ session.node.text ++ " rejected (" ++ token.debugText ++
        "): " ++ status.text)
    return status

/-- Tell the policy that a session is closed. -/
def close (p : AccessPolicy) (session : SessionId) : Routine β Unit :=
  match p with
  | fixed .. => pure ()
  | logins _ => Routine.log .debug ("Session " ++ session.node.text ++ " closed")

/-- What the policy lets a session do with any node. -/
def level : AccessPolicy → AccessLevel
  | fixed _ level => level
  | logins _ => .readWrite

end AccessPolicy

/-- A call that access control makes: to the policy behind it, or to the runtime. Spec §11.5,
`AccessControl`. -/
inductive AccessCall (β : Type) where
  /-- Ask the policy whether a session may be activated. -/
  | activate (session : SessionId) (token : IdentityToken)
  /-- Tell the policy that a session is closed. -/
  | close (session : SessionId)
  /-- Ask the policy what a session may do with a node. -/
  | level (session : SessionId) (node : NodeId)
  /-- Make a runtime call. -/
  | runtime (call : RuntimeCall β)

namespace AccessCall

/-- What the other side answers. -/
@[reducible] def Answer {β : Type} : AccessCall β → Type
  | activate .. => StatusCode
  | close _ => Unit
  | level .. => AccessLevel
  | runtime call => call.Answer

end AccessCall

/-- The calls that access control makes. -/
@[reducible] def accessCalls (β : Type) : Signature := ⟨AccessCall β, AccessCall.Answer⟩

/-- What access control does, whatever policy is behind it. While the policy decides, the tables may
change. -/
abbrev AccessAction (β : Type) (α : Type) : Type := Action (accessCalls β) (Tables β) α

/-- What the policy answers; runtime calls go to the runtime. -/
def AccessPolicy.answer (p : AccessPolicy) : (call : AccessCall β) → Routine β call.Answer
  | .activate session token => p.activate session token
  | .close session => p.close session
  | .level .. => pure p.level
  | .runtime call => Routine.call call

namespace SessionStore

variable {S : Signature}

/-- Forget a session, and note that. -/
def closeNoted (session : SessionId) : Action S (Tables β) Unit := do
  modify (Tables.log .debug ("Dropping attributes of session " ++ session.node.text))
  modify fun t => { t with sessions := t.sessions.close session }

/-- Keep an attribute of a session, and note that. The anonymous session keeps none. -/
def setNoted (session : Session) (key : QualifiedName) (value : AttributeValue) :
    Action S (Tables β) Unit := do
  match session with
  | some session =>
    modify (Tables.log .trace
      ("Session " ++ session.node.text ++ " attribute " ++ key.text ++ " = " ++ value.debugText))
    modify fun t => { t with sessions := t.sessions.set session key value }
  | none => modify (Tables.log .debug "Ignoring attribute write on the anonymous session")

end SessionStore

namespace Access

/-- Record what a token says about the owner of a session. Spec §4.4,
`decide_and_record_identity`. -/
def recordIdentity {S : Signature} (session : SessionId) (token : IdentityToken) :
    Action S (Tables β) SessionIdentity := do
  let i := token.identity
  modify (Tables.log .info ("Session " ++ session.node.text ++ " identity=" ++ i.type.name ++
    " user=" ++ i.userName.getD "-" ++ " admin=" ++ toString i.isAdmin))
  modify fun t => { t with sessions := t.sessions.recordIdentity session i }
  return i

/-- Activate a session: record its owner, and forget the session if the policy rejects it. Spec
§4.4, `activate_session`. -/
def activate (session : SessionId) (token : IdentityToken) : AccessAction β StatusCode := do
  let _ ← recordIdentity session token
  let status ← Action.ask (S := accessCalls β) (.activate session token)
  unless status.isGood do SessionStore.closeNoted session
  return status

/-- Close a session. Spec §11.5, `close_session`. -/
def close (session : SessionId) : AccessAction β Unit := do
  let i := (← get).sessions.identity? session
  modify (Tables.log .info ("Closing session " ++ session.node.text ++ " identity=" ++
    ((i.map SessionIdentity.type).getD .unknown).name ++ " user=" ++
    (i.bind SessionIdentity.userName).getD "-"))
  Action.ask (S := accessCalls β) (.close session)
  SessionStore.closeNoted session

/-- Does the attribute `isAdmin` of the session say that its owner is an administrator? Spec §4.4,
`is_admin`. -/
def isAdmin (sessions : SessionStore) (session : SessionId) : Bool :=
  match sessions.getBool session (.standard "isAdmin") with
  | .ok b => b
  | .error _ => false

/-- What is left of a level for a session: the right to write only if its owner is an administrator.
Spec §4.4, `user_access_level`. -/
def restrict (sessions : SessionStore) (session : SessionId) (level : AccessLevel) : AccessLevel :=
  (if isAdmin sessions session then AccessLevel.readWrite else .read).inter level

/-- What a session may do with a node. Spec §4.4, `user_access_level`. -/
def userLevel (session : SessionId) (node : NodeId) : AccessAction β AccessLevel := do
  let sessions := (← get).sessions
  let allowed ← Action.ask (S := accessCalls β) (.level session node)
  let level := restrict sessions session allowed
  let name ← match ← Action.ask (S := accessCalls β) (.runtime (.readBrowseName node)) with
    | .ok name => pure name.text
    | .error _ => pure "<unavailable>"
  modify (Tables.log .info
    ("Session " ++ session.node.text ++ " access to " ++ name ++ ": " ++ level.text))
  return level

end Access

/-- Access control that records identities, before a policy. Spec §11.5, `IdentityAccessControl`. -/
structure AccessControl where
  /-- The policy. -/
  policy : AccessPolicy

namespace AccessControl

/-- Run what access control does, with the policy of this one. -/
def perform {α : Type} (a : AccessControl) (x : AccessAction β α) : Routine β α :=
  x.serve a.policy.answer

/-- Activate a session. -/
def activate (a : AccessControl) (session : SessionId) (token : IdentityToken) :
    Routine β StatusCode := a.perform (Access.activate session token)

/-- Close a session. -/
def close (a : AccessControl) (session : SessionId) : Routine β Unit :=
  a.perform (Access.close session)

/-- What a session may do with a node. -/
def userLevel (a : AccessControl) (session : SessionId) (node : NodeId) : Routine β AccessLevel :=
  a.perform (Access.userLevel session node)

end AccessControl

end AlarmServer
