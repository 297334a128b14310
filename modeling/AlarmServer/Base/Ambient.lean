import AlarmServer.Address.Guid
import AlarmServer.Calendar.Instant

/-!
# Surroundings of a server

What a server shares with everything else that runs beside it: the journal it writes lines to, the
clock it reads, and the series that new random identifiers come from.

Spec: `SPEC_FULL.md` §10.1.
-/

namespace AlarmServer

/-- How much attention a journal line asks for. Spec §10.1. -/
inductive Level where
  /-- A fault. -/
  | error
  /-- Something that should not happen. -/
  | warn
  /-- An event of normal operation. -/
  | info
  /-- A step of an operation. -/
  | debug
  /-- A detail of a step. -/
  | trace
  deriving DecidableEq

namespace Level

/-- Name of the level. -/
def name : Level → String
  | error => "ERROR"
  | warn => "WARN"
  | info => "INFO"
  | debug => "DEBUG"
  | trace => "TRACE"

/-- How fine the level is: a journal with a limit keeps the levels up to it. -/
def rank : Level → Nat
  | error => 1
  | warn => 2
  | info => 3
  | debug => 4
  | trace => 5

end Level

/-- A line of the journal. -/
structure Entry where
  /-- Level of the line. -/
  level : Level
  /-- Text of the line. -/
  text : String
  deriving DecidableEq

namespace Entry

/-- The line with its level in front. -/
def line (e : Entry) : String := e.level.name ++ " " ++ e.text

end Entry

/-- Journal, clock and identifiers. Spec §10.1 and §11.1. -/
structure Ambient where
  /-- The lines written, in order. -/
  journal : List Entry
  /-- The present. -/
  now : Instant
  /-- How many random identifiers have been drawn. -/
  drawn : Nat

namespace Ambient

/-- Surroundings at the given time, in which nothing has happened. -/
def start (now : Instant) : Ambient := ⟨[], now, 0⟩

/-- Write a line. Spec §10.1. -/
def log (level : Level) (text : String) (a : Ambient) : Ambient :=
  { a with journal := a.journal ++ [⟨level, text⟩] }

/-- Draw a new identifier. Spec §11.1. -/
def draw (a : Ambient) : Guid × Ambient := (Guid.drawn a.drawn, { a with drawn := a.drawn + 1 })

end Ambient

end AlarmServer
