import AlarmServer.Access.Control
import AlarmServer.Config.Yaml
import AlarmServer.Handle.Alarm
import AlarmServer.Text.Control

/-!
# Demonstration

A demonstration sets up a server with the alarms of a configuration and a variable that switches the
first of them. An administrator and a guest log in, and both try to write the variable and to
acknowledge and confirm the alarm. Only sessions of administrators may acknowledge and confirm.

What comes of it are the events that were published, the journal, and a report if something went
wrong.

Spec: `SPEC_FULL.md` §11.7.
-/

namespace AlarmServer.Demo

/-- Version of the demonstration. -/
def version : String := "0.1.0"

/-- The callbacks of a demonstration. -/
inductive Reaction where
  /-- Note that a condition enters a state, and allow it. -/
  | announce (state : String)
  /-- Allow an action to sessions of administrators only. -/
  | reserve (action : String)
  /-- Switch an alarm as the value says that was written. -/
  | switch (alarm : Alarm)

/-- Why a demonstration stops. -/
inductive Stop where
  /-- The configuration at that path cannot be used. -/
  | loading (path : String) (e : Error)
  /-- An operation on a handle failed. -/
  | failed (e : Error)
  /-- The server refused something. -/
  | refused (what : String) (status : StatusCode)
  /-- There is no alarm to show. -/
  | noAlarms

namespace Stop

/-- The causes of an error, the error itself first. -/
def causesOf (e : Error) : List String :=
  match e with
  | .io m => [e.message, m]
  | .yaml m => [e.message, m]
  | _ => [e.message]

/-- What happened, and the causes of it. -/
def explanation : Stop → String × List String
  | loading path e => ("loading " ++ path, causesOf e)
  | failed e => (e.message, [])
  | refused what status => (what ++ ": " ++ status.text, [])
  | noAlarms => ("no conditions configured", [])

/-- The lines of a text. -/
def linesOf (s : String) : List String := s.splitOn "\n"

/-- The lines of a cause, indented, after its number if it is one of several. -/
def causeLines (number : Option Nat) (cause : String) : List String :=
  let (first, others) := match number with
    | none => ("    ", "    ")
    | some n =>
      let digits := toString n
      (String.ofList (List.replicate (5 - digits.length) ' ') ++ digits ++ ": ", "       ")
  match linesOf cause with
  | [] => []
  | l :: ls => (first ++ l) :: ls.map (others ++ ·)

/-- The report, line by line. -/
def report (s : Stop) : List String :=
  let (what, causes) := s.explanation
  linesOf ("Error: " ++ what) ++
    match causes with
    | [] => []
    | [cause] => ["", "Caused by:"] ++ causeLines none cause
    | causes => ["", "Caused by:"] ++ causes.zipIdx.flatMap fun c => causeLines (some c.2) c.1

end Stop

/-! ### Journal -/

/-- What is written for a journal line: time and level, and the text, of which further lines are
indented. Control sequences are left out, and with them the end of the line if it is inside one.
Spec §10.1, `init_logging`. -/
def journalText (now : Instant) (e : Entry) : String :=
  let time := Instant.zuluText { now with nanosecond := 0 }
  let level := String.ofList (e.level.name.toList.rightpad 5 ' ')
  Text.plainText ("[" ++ time ++ " " ++ level ++ "] " ++ e.text.replace "\n" "\n    " ++ "\n")

/-! ### Callbacks -/

/-- How a session is named in the journal. -/
def sessionText (session : Session) : String :=
  match session with
  | some s => s.node.text
  | none => "server"

/-- What a callback answers before a transition. -/
def allow (r : Reaction) (session : Session) (source : NodeId) (s : Server Reaction) :
    StatusCode × Server Reaction :=
  match r with
  | .announce state =>
    (.good, s.log .info ("Condition on " ++ source.text ++ " becoming " ++ state ++ " (session " ++
      sessionText session ++ ")"))
  | .reserve action =>
    if s.tables.sessions.isAdmin session then (.good, s)
    else (.badUserAccessDenied, s.log .warn ("Non-admin session tried to " ++ action))
  | .switch _ => (.good, s)

/-- What callbacks answer that are called by an alarm being switched: no variable is written then.
-/
def answerWithin : (u : Upcall Reaction) → Server Reaction → u.Answer × Server Reaction
  | .transition r session source _, s =>
    let (status, s) := allow r session source s
    (.status status, s)
  | .intercept .., s => (.good, s)
  | .written .., s => ((), s)

/-- Switch an alarm as a value says, if it is a truth value. -/
def switchAlarm (alarm : Alarm) (value : Variant) : ServerAction Reaction Unit := do
  let some active := value.asBool? | return
  match ← (alarm.setActive alarm.source active none).perform with
  | .ok _ => return
  | .error e =>
    ServerAction.log .error ("Failed to toggle " ++ alarm.condition.id.text ++ ": " ++ e.message)

/-- What callbacks answer. -/
def answer : (u : Upcall Reaction) → Server Reaction → u.Answer × Server Reaction
  | .written (.switch alarm) _ value, s => (switchAlarm alarm value s).run answerWithin
  | .written .., s => ((), s)
  | .transition r session source removeBranch, s =>
    answerWithin (.transition r session source removeBranch) s
  | .intercept r kind condition session, s => answerWithin (.intercept r kind condition session) s

/-! ### The course of a demonstration -/

/-- A part of a demonstration. -/
abbrev Act (α : Type) : Type := ExceptT Stop (Action (upcalls Reaction) (Server Reaction)) α

namespace Act

variable {α : Type}

/-- Write a line to the journal. -/
def log (level : Level) (text : String) : Act Unit := modify (Server.log level text)

/-- Run an operation on the tables of the server. -/
def routine (x : Routine Reaction α) : Act α := ExceptT.mk (Except.ok <$> x.perform)

/-- Run an operation on a handle. -/
def operation (x : Operation Reaction α) : Act α :=
  ExceptT.mk (Except.mapError Stop.failed <$> x.perform)

/-- Ask the server for something that is needed. -/
def require (what : String) (x : Service Reaction α) : Act α :=
  ExceptT.mk (Except.mapError (Stop.refused what) <$> x.run)

/-- Ask the server for something, and see what it answers. -/
def tryOut (x : Service Reaction α) : Act (Except StatusCode α) := ExceptT.mk (Except.ok <$> x.run)

/-- Draw a session. -/
def drawSession : Act SessionId :=
  modifyGet fun s =>
    let (guid, ambient) := s.tables.ambient.draw
    (⟨⟨1, .guid guid⟩⟩, { s with tables.ambient := ambient })

/-- The source object of that name, which is added if it is not there yet. -/
def source (sources : Table String NodeId) (name : String) :
    Act (NodeId × Table String NodeId) := do
  match sources.find? name with
  | some id => return (id, sources)
  | none =>
    let id ← require ("source '" ++ name ++ "'") (Service.addEventSource (.standard name))
    return (id, sources.insert name id)

/-- Add an alarm of a configuration, with its callbacks. -/
def addAlarm (sources : Table String NodeId) (c : AlarmConfig) :
    Act (Alarm × Table String NodeId) := do
  let (source, sources) ← source sources c.source
  let parent := if c.exposed then some NodeId.hasComponent else none
  let alarm ← operation (Alarm.create source (.standard c.name) parent c.severity)
  operation (alarm.register .enabled false (.announce "enabled"))
  operation (alarm.register .acked false (.reserve "acknowledge"))
  operation (alarm.register .confirmed false (.reserve "confirm"))
  operation (alarm.register .active false (.announce "active"))
  return (alarm, sources)

/-- Add the alarms of a configuration. -/
def addAlarms (sources : Table String NodeId) : List AlarmConfig → Act (List Alarm)
  | [] => return []
  | c :: cs => do
    let (alarm, sources) ← addAlarm sources c
    return alarm :: (← addAlarms sources cs)

/-- Log in. -/
def logIn (access : AccessControl) (session : SessionId) (token : IdentityToken) : Act Unit := do
  let status ← routine (access.activate session token)
  unless status.isGood do
    log .warn ("Activation of " ++ token.debugText ++ " failed: " ++ status.text)

/-- Write the variable that switches the alarm, if the session may. -/
def writeSwitch (access : AccessControl) (node : NodeId) (session : SessionId) (value : Bool) :
    Act Unit := do
  let level ← routine (access.userLevel session node)
  if level.canWrite then
    if let .error status ← tryOut (Service.writeValue node (.boolean value)) then
      log .warn ("Write to AlarmActive failed: " ++ status.text)
  else
    log .warn ("Write to AlarmActive by " ++ session.node.text ++ " denied (" ++ level.text ++ ")")

/-- Note how a step ended. -/
def note (step : String) (result : Except StatusCode EventId) : Act Unit :=
  match result with
  | .ok _ => log .info (step ++ ": ok")
  | .error status => log .warn (step ++ ": " ++ status.text)

/-- What a demonstration is played with. -/
structure Scene where
  /-- Who is let in, and who may write. -/
  access : AccessControl
  /-- The alarms, in the order of the configuration. -/
  alarms : List Alarm
  /-- The alarm that is shown. -/
  first : Alarm
  /-- The variable that switches it. -/
  node : NodeId
  /-- The session of the administrator. -/
  admin : SessionId
  /-- The session of the guest. -/
  guest : SessionId

/-- Set the scene: add the alarms of a configuration and the variable, and log both in. Spec
§11.7. -/
def setUp (c : Config) : Act Scene := do
  log .info (c.server.applicationName ++ " (" ++ c.server.applicationUri ++ "): " ++
    toString c.alarms.length ++ " condition(s)")
  let access : AccessControl := ⟨.logins (.ofConfig c.access)⟩
  let alarms ← addAlarms .empty c.alarms
  let some first := alarms.head? | throw .noAlarms
  let node ← require "AlarmActive variable"
    (Service.addVariable .objectsFolder (.standard "AlarmActive") (.boolean false) .readWrite)
  require "AlarmActive callback" (Service.act (.watch node (.switch first)))
  let admin ← drawSession
  let guest ← drawSession
  logIn access admin (.userName "admin" "admin")
  logIn access guest (.userName "guest" "guest")
  return ⟨access, alarms, first, node, admin, guest⟩

/-- Play the scene: both try to write the variable, and to acknowledge the alarm. Spec §11.7. -/
def play (x : Scene) : Act Unit := do
  let id := x.first.condition.id
  writeSwitch x.access x.node x.guest true
  writeSwitch x.access x.node x.admin true
  note "guest acknowledge" (← tryOut (Service.acknowledge id (some x.guest) none))
  note "admin acknowledge" (← tryOut (Service.acknowledge id (some x.admin) (some "On it")))
  note "admin confirm" (← tryOut (Service.confirm id (some x.admin) none))
  writeSwitch x.access x.node x.admin false

/-- Leave the scene: close both sessions and drop the alarms. -/
def leave (x : Scene) : Act Unit := do
  routine (x.access.close x.guest)
  routine (x.access.close x.admin)
  for alarm in x.alarms do
    routine alarm.condition.drop

/-- The demonstration with a configuration. -/
def present (c : Config) : Act Unit := do
  let scene ← setUp c
  play scene
  leave scene
  log .info "Demo finished"

/-- The demonstration with the configuration in a file, if one is given with its path. -/
def start (file : Option (String × Except String ByteArray)) : Act Unit := do
  log .info ("PETRA A&C demo v" ++ version ++ " starting")
  match file with
  | none => present .default
  | some (path, contents) =>
    match Config.ofFile contents with
    | .error e => throw (.loading path e)
    | .ok c => present c

end Act

/-- What comes of a demonstration. -/
structure Outcome where
  /-- Why it stopped early, if it did. -/
  stop : Option Stop
  /-- The events that were published. -/
  events : List ConditionEvent
  /-- The journal. -/
  journal : List Entry

/-- Run a demonstration in the given surroundings. Spec §11.7. -/
def run (file : Option (String × Except String ByteArray)) (ambient : Ambient) : Outcome :=
  let (result, s) := ((Act.start file).run (.create ambient)).run answer
  let stop := match result with
    | .ok _ => none
    | .error e => some e
  ⟨stop, s.space.events, s.tables.ambient.journal⟩

end AlarmServer.Demo
