import AlarmServer.Demo
import Std.Time.DateTime.Timestamp

/-!
# Command line

The only argument is the path of a configuration; without one the demonstration runs with defaults.
Events go to standard output, one JSON value a line; the journal and the report go to standard
error.
-/

namespace AlarmServer

/-- The present. -/
def readClock : IO Instant := do
  let t := (← Std.Time.Timestamp.now).val
  return ⟨t.second.val, t.nano.val.toNat⟩

/-- Where to start in the series of identifiers. -/
def readSeed : IO Nat := do
  return (← IO.getRandomBytes 7).foldl (fun n b => n * 256 + b.toNat) 0

/-- The text of a failure of the system with its number, of which the sign does not count. -/
def numbered (text : String) (code : UInt32) : String :=
  text ++ " (os error " ++ toString (min code (0 - code)) ++ ")"

/-- Why nothing can be read. -/
def reason : IO.Error → String
  | .noFileOrDirectory _ code _ => numbered "No such file or directory" code
  | .permissionDenied _ code _ => numbered "Permission denied" code
  | .inappropriateType _ code _ => numbered "Is a directory" code
  | e => toString e

/-- What can be read at a path, or why nothing can. -/
def readContents (path : String) : IO (Except String ByteArray) := do
  try
    return .ok (← IO.FS.readBinFile path)
  catch e =>
    return .error (reason e)

end AlarmServer

open AlarmServer in
/-- Runs a demonstration. -/
def main (args : List String) : IO UInt32 := do
  let file ← args.head?.mapM fun path => return (path, ← readContents path)
  let now ← readClock
  let outcome := Demo.run file { Ambient.start now with drawn := ← readSeed }
  for e in outcome.journal do
    if e.level.rank ≤ Level.info.rank then
      IO.eprint (Demo.journalText now e)
  for e in outcome.events do
    IO.println e.toJson.text
  match outcome.stop with
  | none => return 0
  | some stop =>
    for line in stop.report do
      IO.eprintln line
    return 1
