import AlarmServer.Script.Perform

/-!
# Running a script

A callback that is called does its steps, answers, and is then recorded with the step that called
it. Up to three callbacks that run inside one another do their steps; deeper ones only answer. This
bound is what the definition of a step recurs on.

A script is run to its end whatever its steps give. For each step are reported its result, the
journal lines and the events that came with it, and the counts of each server after it.
-/

namespace AlarmServer.Script

/-- How to do the steps of a callback. -/
abbrev Nested : Type := Context → List Step → World → List StepResult × World

/-- The answer that a callback gives in a session, after it was called `n` times before. -/
def answerOf (w : World) (r : Registered) (session : Session) (n : Nat) : Verdict :=
  let sessions := (w.server r.server).tables.sessions
  match r.callback.reply with
  | .status s => .status s
  | .admin otherwise => .status (if sessions.isAdmin session then .good else otherwise)
  | .attribute key otherwise =>
    match sessions.attributeOf session key with
    | .ok (.bool true) => .status .good
    | _ => .status otherwise
  | .sequence statuses => .status (((statuses[n]?).or statuses.getLast?).getD .good)
  | .fault f => .fault f

/-- The answer as it is recorded. -/
def verdictText : Verdict → String
  | .status s => s.text
  | .fault _ => "panic"

/-- Count the call of a callback, do its steps, answer, and record the call. -/
def invoke (nested : Option Nested) (ctx : Context) (r : Registered) (session : Session)
    (occasion : Occasion) (w : World) : Verdict × World :=
  let (n, w) := w.countCall r.serial
  let (results, tooDeep, w) : Option (List StepResult) × Bool × World :=
    match r.callback.steps, nested with
    | none, _ => (none, false, w)
    | some _, none => (none, true, w)
    | some steps, some run =>
      let (results, w) := run ctx steps w
      (some results, false, w)
  let verdict := answerOf w r session n
  let record := CallRecord.mk r.callback.label occasion results tooDeep (verdictText verdict)
  (verdict, { w with calls := w.calls ++ [record] })

/-- What a callback answers, called by a step in the given context. -/
def respond (nested : Option Nested) (ctx : Context) :
    (u : Upcall Registered) → World → u.Answer × World
  | .transition r session source removeBranch, w =>
    let info := Act.infoOf (w.server r.server).tables.sessions session
    let inner := { ctx with callbackSession := some (r.server, session) }
    invoke nested inner r session (.transition info source removeBranch) w
  | .intercept r kind condition session, w =>
    let inner := { ctx with callbackSession := none }
    let (verdict, w) := invoke nested inner r none (.intercept kind condition session) w
    match verdict with
    | .status s => (s, w)
    | .fault _ => (.badInternalError, w)
  | .written r node value, w =>
    let inner := { ctx with callbackSession := none }
    ((), (invoke nested inner r none (.written node value) w).2)

/-- Carry out a step, calling callbacks as needed. -/
def settleStep (nested : Option Nested) (ctx : Context) (step : Step) (w : World) :
    StepResult × World :=
  let inner := { ctx with busy := step.2.handles ++ ctx.busy }
  let (outcome, after) :=
    ((Act.perform ctx step.1 step.2).run { w with calls := [] }).run (respond nested inner)
  (.mk outcome after.calls, { after with calls := w.calls })

/-- Carry out steps one after the other. -/
def inOrder (run : Step → World → StepResult × World) : List Step → World → List StepResult × World
  | [], w => ([], w)
  | s :: ss, w =>
    let (r, w) := run s w
    let (rs, w) := inOrder run ss w
    (r :: rs, w)

/-- Carry out a step, inside which callbacks nest at most `depth` deep. -/
def runStep : (depth : Nat) → Context → Step → World → StepResult × World
  | 0, ctx, step, w => settleStep none ctx step w
  | depth + 1, ctx, step, w =>
    settleStep (some fun inner steps w => inOrder (runStep depth inner) steps w) ctx step w

/-- How many callbacks inside one another do their steps. -/
def nestingLimit : Nat := 3

/-- Counts of a server. -/
structure Counts where
  /-- The nodes. -/
  nodes : Nat
  /-- The published events. -/
  published : Nat
  /-- The deleted nodes. -/
  deleted : Nat
  /-- The conditions with callbacks. -/
  records : Nat
  /-- The known sessions. -/
  sessions : Nat

namespace Counts

/-- The counts of a server. -/
def of (s : Server Registered) : Counts :=
  ⟨s.space.nodes.size, s.space.published, s.space.deleted, s.tables.registry.size,
    s.tables.sessions.size⟩

end Counts

/-- What is reported of a step. -/
structure Report where
  /-- The result. -/
  result : StepResult
  /-- The journal lines. -/
  journal : List Entry
  /-- The events, each with the number of its server. -/
  events : List (Nat × ConditionEvent)
  /-- The counts of each server. -/
  counts : List Counts

/-- The events that were published between two states of the world. -/
def eventsBetween (before after : World) : List (Nat × ConditionEvent) :=
  (List.range after.hosts.length).flatMap fun i =>
    let old := (before.server i).space.published
    ((after.server i).space.events.drop old).map fun e => (i, e)

/-- Run a step by itself, with an empty journal. -/
def reportStep (step : Step) (w : World) : Report × World :=
  let start := { w with ambient.journal := [] }
  let (result, after) := runStep nestingLimit .top step start
  (⟨result, after.ambient.journal, eventsBetween w after,
    (List.range after.hosts.length).map fun i => .of (after.server i)⟩, after)

/-- Run all steps. -/
def runSteps : List Step → World → List Report × World
  | [], w => ([], w)
  | s :: ss, w =>
    let (r, w) := reportStep s w
    let (rs, w) := runSteps ss w
    (r :: rs, w)

end AlarmServer.Script
