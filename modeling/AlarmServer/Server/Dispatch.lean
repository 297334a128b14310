import AlarmServer.Server.State

/-!
# Dispatch of transitions

Before a two-state variable becomes true, its hook is called. The hook of a registered callback
comes here: the transition is noted in the journal, and the callback that is registered for the
variable at that moment, if any, is asked. A callback that fails forbids the transition.

Spec: `SPEC_FULL.md` §4.2 and §10.1.
-/

namespace AlarmServer

variable {β : Type}

namespace ServerAction

/-- The name that a node shows, as the runtime answers. Spec §6, `read_display_name`. -/
def displayName (id : NodeId) : ServerAction β (Except StatusCode LocalizedText) := do
  let s ← get
  let (outcome, script) := s.script.next .readDisplayName
  set { s with script := script }
  match outcome with
  | .settled answer => return answer
  | .genuine => return s.space.displayName id

/-- The name of a condition in the journal: what it shows, or else its identifier. Spec §4.2,
dispatch step 4. -/
def conditionLabel (condition : NodeId) : ServerAction β String := do
  match ← displayName condition with
  | .ok name => return name.text
  | .error _ => return condition.text

/-- Ask a registered callback. A failure is noted and becomes an internal error. Spec §4.2, dispatch
step 3, and §7, `invoke_guarded`. -/
def consult (slot : Slot β) (session : Session) : ServerAction β StatusCode := do
  let call : Upcall β := .transition slot.callback session slot.source slot.removeBranch
  match ← Action.ask (S := upcalls β) call with
  | .status status => return status
  | .fault f =>
    log .error (Error.callbackFault f.message).message
    return .badInternalError

/-- Ask the callback that is registered for a variable. Without one the transition is allowed. Spec
§4.2, `dispatch`. -/
def dispatch (kind : TransitionKind) (condition : NodeId) (session : Session) :
    ServerAction β StatusCode := do
  let label ← conditionLabel condition
  log .info ("[A&C] " ++ kind.variableName ++ "=true | condition=" ++ label)
  match (← get).tables.registry.slot? condition kind with
  | none => return .good
  | some slot =>
    let status ← consult slot session
    unless status.isGood do
      log .debug (kind.variableName ++ " of " ++ label ++ " rejected by callback: " ++ status.text)
    return status

/-- Call a hook. Spec §6, `before_transition`. -/
def callHook (h : Hook β) (session : Session) : ServerAction β StatusCode :=
  match h.interceptor with
  | .registered => dispatch h.kind h.condition session
  | .direct callback => Action.ask (S := upcalls β) (.intercept callback h.kind h.condition session)

/-- Call a callback that watches a variable. -/
def notify (callback : β) (id : NodeId) (value : Variant) : ServerAction β Unit :=
  Action.ask (S := upcalls β) (.written callback id value)

end ServerAction

/-- Call the hook of a variable, if there is one. A status other than good forbids the transition,
and is the outcome. Spec §11.3, `run_hook`. -/
def Service.runHook (condition : NodeId) (kind : TransitionKind) (session : Session) :
    Service β Unit := do
  match (← get).space.hooks.find? (condition, kind) with
  | none => return
  | some h =>
    let status ← ServerAction.callHook h session
    unless status.isGood do
      Service.log .debug
        (kind.variableName ++ " of " ++ condition.text ++ " vetoed: " ++ status.text)
      throw status

end AlarmServer
