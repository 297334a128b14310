import AlarmServer.Script.World

/-!
# Carrying out a step

What each step does, as an action on the world that may call callbacks.
-/

namespace AlarmServer.Script

/-- What a step knows of the steps around it. -/
structure Context where
  /-- The server and session of the running callback, if it has a session. -/
  callbackSession : Option (Nat × Session)
  /-- The handles that steps around this one work on. -/
  busy : List String

namespace Context

/-- There is no step around this one. -/
def top : Context := ⟨none, []⟩

end Context

namespace Act

/-- The typed answer that was settled for a method. One that the method cannot give is not settled.
-/
def outcome : (m : Method) → Settled → Act (Outcome m.Reply)
  | _, .failure s => return .settled (.error s)
  | .createCondition, .node r => do return .settled (.ok (← node r))
  | .deleteNode, .unit => return .settled (.ok ())
  | .addReference, .unit => return .settled (.ok ())
  | .readDisplayName, .text t => return .settled (.ok t)
  | .readBrowseName, .name q => return .settled (.ok q)
  | .writeField, .unit => return .settled (.ok ())
  | .writeProperty, .unit => return .settled (.ok ())
  | .readField, .variant v => do return .settled (.ok (← variant v))
  | .readProperty, .variant v => do return .settled (.ok (← variant v))
  | .installHook, .unit => return .settled (.ok ())
  | .trigger, .event id => return .settled (.ok id)
  | _, _ => return .genuine

/-- The paths that a dump reads: every field, and every two-state variable with its properties. -/
def dumpEntries (sp : AddressSpace Registered) (id : NodeId) :
    List (String × Except StatusCode Variant) :=
  Field.all.map (fun f => (f.name, sp.readField id (.standard f.name))) ++
    TransitionKind.all.flatMap fun k =>
      let v := QualifiedName.standard k.variableName
      (k.variableName, sp.readField id v) ::
        ["Id", "TransitionTime"].map fun p =>
          (k.variableName ++ "/" ++ p, sp.readProperty id v (.standard p))

/-- Remove a handle from the table. -/
def take (ctx : Context) (name : String) : Act (Nat × Handle) := do
  let h ← handle name
  if name ∈ ctx.busy then refuse .handleBusy
  modify fun w => { w with handles := w.handles.erase name }
  return h

/-- The server and session that a step is about. -/
def session (ctx : Context) (i : Nat) : SessionRef → Act (Nat × Session)
  | .given s => return (i, s)
  | .callback =>
    match ctx.callbackSession with
    | some s => return s
    | none => refuse .noCallbackSession

/-- The session store of a server. -/
def sessions (i : Nat) : Act SessionStore := return ((← get).server i).tables.sessions

/-- Change the session store of a server. -/
def changeSessions (i : Nat) (f : SessionStore → SessionStore) : Act Unit :=
  routine i (modify fun t : Tables Registered => { t with sessions := f t.sessions })

/-- Look up an attribute as asked for. -/
def getAttribute (st : SessionStore) (s : SessionId) (key : QualifiedName) :
    AttributeView → Except Error Value
  | .any => (st.get s key).map .attribute
  | .bool => (st.getBool s key).map .bool
  | .string => (st.getString s key).map .text
  | .uint32 => (st.getUInt32 s key).map .number

/-- The outcome of a computation that may fail. -/
def ofError {α : Type} (x : Except Error α) : Act α := ExceptT.mk (return x.mapError Failure.error)

/-- What a session shows. -/
def infoOf (st : SessionStore) (s : Session) : SessionInfo := ⟨s, st.isAdmin s, st.identityOf s⟩

/-- Carry out a step at a server. -/
def perform (ctx : Context) (i : Nat) : Command → Act Value
  | .addObject parent name bind => do
    let parent ← node parent
    let id ← service i (Service.addObject parent name)
    modify (World.bind bind id)
    return .node id
  | .addEventSource name bind => do
    let id ← service i (Service.addEventSource name)
    modify (World.bind bind id)
    return .node id
  | .addVariable parent name value level bind => do
    let parent ← node parent
    let value ← variant value
    let id ← service i (Service.addVariable parent name value level)
    modify (World.bind bind id)
    return .node id
  | .setNotifier n notifier => do
    let n ← node n
    service i (Service.act (.setNotifier n notifier))
    return .unit
  | .addReference source target type => do
    let source ← node source
    let target ← node target
    let type ← node type
    call i (.addReference source target type)
    return .unit
  | .deleteNode n withReferences => do
    call i (.deleteNode (← node n) withReferences)
    return .unit
  | .readValue n => do
    let n ← node n
    .variant <$> service i (Service.query fun sp => sp.readValue n)
  | .writeValue n value => do
    let n ← node n
    let value ← variant value
    service i (Service.writeValue n value)
    return .unit
  | .accessLevel n => do
    let n ← node n
    .level <$> service i (Service.query fun sp => sp.accessLevel n)
  | .watch n callback => do
    let n ← node n
    let r ← bring i callback
    service i (Service.act (.watch n r))
    return .unit
  | .containsNode n => do
    let n ← node n
    return .bool (((← get).server i).space.nodes.contains n)
  | .references n => do
    let n ← node n
    return .references (((← get).server i).space.references n)
  | .readDisplayName n => do .localizedText <$> call i (.readDisplayName (← node n))
  | .readBrowseName n => do .name <$> call i (.readBrowseName (← node n))
  | .createCondition r bind => do
    let r ← request r
    let id ← call i (.createCondition r)
    modify (World.bind bind id)
    return .node id
  | .writeField n field value => do
    let n ← node n
    let value ← variant value
    call i (.writeField n field value)
    return .unit
  | .writeProperty n variableName property value => do
    let n ← node n
    let value ← variant value
    call i (.writeProperty n variableName property value)
    return .unit
  | .readField n field => do .variant <$> call i (.readField (← node n) field)
  | .readProperty n variableName property => do
    .variant <$> call i (.readProperty (← node n) variableName property)
  | .triggerNode n source => do
    let n ← node n
    .event <$> call i (.trigger n (← node source))
  | .installHook n source kind removeBranch callback => do
    let n ← node n
    let source ← node source
    let r ← bring i callback
    call i (.installHook ⟨n, source, removeBranch, kind, .direct r⟩)
    return .unit
  | .hook n kind => do
    let n ← node n
    return .hook ((((← get).server i).space.hooks.find? (n, kind)).map fun h =>
      (h.condition, h.source, h.removeBranch, h.kind, h.debugText))
  | .callHook n kind s => do
    let n ← node n
    match ((← get).server i).space.hooks.find? (n, kind) with
    | none => return .optionalText none
    | some h =>
      let status ← serve i (ServerAction.callHook h s)
      return .optionalText (some status.text)
  | .enable n s => do
    let n ← node n
    .event <$> service i (Service.enable n s)
  | .disable n => do
    let n ← node n
    .event <$> service i (Service.disable n)
  | .acknowledge n s comment => do
    let n ← node n
    .event <$> service i (Service.acknowledge n s comment)
  | .confirm n s comment => do
    let n ← node n
    .event <$> service i (Service.confirm n s comment)
  | .dump n => do
    let n ← node n
    return .dump (dumpEntries ((← get).server i).space n)
  | .create r bind => do
    requireFree bind
    let r ← request r
    let c ← operation i (Condition.create r)
    keep bind i (.condition c)
  | .wrap n bind => do
    requireFree bind
    keep bind i (.condition (.wrap (← node n)))
  | .borrow h bind => do
    requireFree bind
    let (j, c) ← condition h
    keep bind j (.condition c.borrow)
  | .drop h => do
    let (j, h) ← take ctx h
    routine j h.toCondition.drop
    return .unit
  | .release h => do
    let (_, h) ← take ctx h
    return .node h.toCondition.release
  | .inspect h => do
    let (j, c) ← condition h
    let count := (← get).hosts.length
    return .handleInfo ⟨c.id, c.ownsNode, c.debugText, (List.range count).map fun k => k = j⟩
  | .same a b => do
    let (j, a) ← condition a
    let (k, b) ← condition b
    return .bool (j = k ∧ a.id = b.id)
  | .setField h field value => do
    let (j, c) ← condition h
    let value ← variant value
    operation j (c.setField field value)
    return .unit
  | .setVariableField h variableName property value => do
    let (j, c) ← condition h
    let value ← variant value
    operation j (c.setVariableField variableName property value)
    return .unit
  | .field h field => do
    let (j, c) ← condition h
    .variant <$> operation j (c.field field)
  | .variableField h variableName property => do
    let (j, c) ← condition h
    .variant <$> operation j (c.variableField variableName property)
  | .twoState h kind => do
    let (j, c) ← condition h
    .bool <$> operation j (c.twoState kind)
  | .trigger h source => do
    let (j, c) ← condition h
    let source ← node source
    .event <$> operation j (c.trigger source)
  | .register h kind source removeBranch callback => do
    let (j, c) ← condition h
    let source ← node source
    let r ← bring j callback
    operation j (c.register kind ⟨source, removeBranch, r⟩)
    return .unit
  | .createAlarm source name parent severity bind => do
    requireFree bind
    let source ← node source
    let parent ← node? parent
    let a ← operation i (Alarm.create source name parent severity)
    keep bind i (.alarm a)
  | .createDefaultAlarm source bind => do
    requireFree bind
    let source ← node source
    let a ← operation i (Alarm.createDefault source)
    keep bind i (.alarm a)
  | .setActive h source active message => do
    let (j, a) ← alarm h
    let source ← node? source
    .event <$> operation j (a.setActive (source.getD a.source) active message)
  | .alarmState h => do
    let (j, a) ← alarm h
    let state ← operation j a.state
    return .text state.name
  | .alarmSource h => do
    let (_, a) ← alarm h
    return .node a.source
  | .intoCondition h => do
    let (j, a) ← alarm h
    if h ∈ ctx.busy then refuse .handleBusy
    modify fun w => { w with handles := w.handles.insert h (j, .condition a.condition) }
    return .handle a.condition
  | .registerAlarm h kind removeBranch callback => do
    let (j, a) ← alarm h
    let r ← bring j callback
    operation j (a.register kind removeBranch r)
    return .unit
  | .dispatch n kind s => do
    let n ← node n
    let status ← serve i (ServerAction.dispatch kind n s)
    return .text status.text
  | .storeSlot n kind source removeBranch callback => do
    let n ← node n
    let source ← node source
    let r ← bring i callback
    let old := ((← get).server i).tables.registry.slot? n kind
    routine i (modify fun t : Tables Registered =>
      { t with registry := t.registry.store n kind ⟨source, removeBranch, r⟩ })
    return .slot (old.map fun s => (s.source, s.removeBranch, s.debugText))
  | .slot n kind => do
    let n ← node n
    return .slot ((((← get).server i).tables.registry.slot? n kind).map fun s =>
      (s.source, s.removeBranch, s.debugText))
  | .slots n => do
    let n ← node n
    return .slots ((((← get).server i).tables.registry.callbacks? n).map fun c =>
      TransitionKind.all.filterMap fun k => (c.find? k).map fun s => (k, s.source))
  | .hasRecord n => do
    let n ← node n
    return .bool (((← get).server i).tables.registry.contains n)
  | .removeRecord n => do
    let n ← node n
    let there := ((← get).server i).tables.registry.contains n
    routine i (modify fun t : Tables Registered => { t with registry := t.registry.remove n })
    return .bool there
  | .inspectServer => do
    let w ← get
    let t := (w.server i).tables
    let debug := Text.record "ServerHandle" [("runtime", "<ptr>"),
      ("conditions_with_callbacks", toString t.registry.size),
      ("sessions", toString t.sessions.size)] false
    return .serverInfo ⟨debug, (List.range w.hosts.length).map fun k => k = i,
      !w.hosts[i]?.any Host.faulty, t.registry.size = 0, t.sessions.size = 0⟩
  | .openSession s => do
    changeSessions i fun st => st.open s
    return .unit
  | .knowsSession s => do return .bool ((← sessions i).contains s)
  | .sessionIdentity s => do return .identity ((← sessions i).identity? s)
  | .setAttribute s key value => do
    routine i (SessionStore.setNoted (some s) key value)
    return .unit
  | .recordIdentity s token => do
    changeSessions i fun st => st.recordIdentity s token.identity
    return .unit
  | .getAttribute s key view => do ofError (getAttribute (← sessions i) s key view)
  | .forgetSession s => do
    let old := (← sessions i).sessions.find? s
    routine i (SessionStore.closeNoted s)
    return .attributes old
  | .sessionInfo ref => do
    let (j, s) ← session ctx i ref
    return .sessionInfo (infoOf (← sessions j) s)
  | .sessionGet ref key => do
    let (j, s) ← session ctx i ref
    .attribute <$> ofError ((← sessions j).attributeOf s key)
  | .sessionSet ref key value => do
    let (j, s) ← session ctx i ref
    routine j (SessionStore.setNoted s key value)
    return .unit
  | .setPolicy none => throw .malformed
  | .setPolicy (some policy) => do
    modify fun w => { w with hosts := w.hosts.modify i fun h => { h with access := some ⟨policy⟩ } }
    return .unit
  | .activate s token => do
    let a ← access i
    let status ← routine i (a.activate s token)
    return .text status.text
  | .activateByPolicy s token => do
    let a ← access i
    let status ← routine i (a.policy.activate s token)
    return .text status.text
  | .decide s token => do
    let _ ← access i
    let identity ← routine i (Access.recordIdentity s token)
    return .identity (some identity)
  | .closeSession s => do
    let a ← access i
    routine i (a.close s)
    return .unit
  | .userLevel s n => do
    let a ← access i
    let n ← node n
    .level <$> routine i (a.userLevel s n)
  | .settle method answers => do
    unless (← get).hosts[i]?.any Host.faulty do refuse .notFaulty
    let outcomes ← answers.mapM (outcome method)
    modify fun w =>
      let s := w.server i
      w.setServer i { s with script := s.script.append method outcomes }
    return .unit
  | .unknown => refuse .unknownStep

end Act

end AlarmServer.Script
