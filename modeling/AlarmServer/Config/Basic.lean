import AlarmServer.Error
import AlarmServer.Json.Value
import AlarmServer.Text.Blank

/-!
# Configuration

What a server is set up with: its own names, who may log in, and the on/off alarms that it starts
with. `Config.validate` checks the rules that a configuration has to keep, in a fixed order, and
reports the first that is broken.

Spec: `SPEC_FULL.md` §10.3.
-/

namespace AlarmServer

/-- Names of the server. Spec §10.3, `server`. -/
structure ServerConfig where
  /-- Name for people. -/
  applicationName : String
  /-- Name for programs. -/
  applicationUri : String
  deriving DecidableEq

namespace ServerConfig

/-- Name of a server that is given none. -/
def defaultName : String := "PETRA A&C Demo"

/-- Identifier of a server that is given none. -/
def defaultUri : String := "urn:petra:ac:demo"

/-- The names of a server that is given none. -/
def default : ServerConfig := ⟨defaultName, defaultUri⟩

end ServerConfig

/-- A user name with its password. -/
structure UserLogin where
  /-- Name of the user. -/
  userName : String
  /-- The password. -/
  password : String
  deriving DecidableEq

/-- Who may log in. Spec §10.3, `access_control`. -/
structure AccessConfig where
  /-- Are anonymous sessions accepted? -/
  allowAnonymous : Bool
  /-- Are certificates and issued tokens accepted? -/
  allowTokens : Bool
  /-- The logins; of two with one name the later counts. -/
  users : List UserLogin
  deriving DecidableEq

namespace AccessConfig

/-- Everybody may log in, and two users have passwords. -/
def default : AccessConfig := ⟨true, true, [⟨"admin", "admin"⟩, ⟨"guest", "guest"⟩]⟩

end AccessConfig

/-- An alarm to start with. Spec §10.3, `conditions`. -/
structure AlarmConfig where
  /-- Name of the alarm. -/
  name : String
  /-- Name of the source object that it belongs to. -/
  source : String
  /-- How urgent it is. -/
  severity : UInt16
  /-- Is it a component of its source? -/
  exposed : Bool
  deriving DecidableEq

/-- A configuration. Spec §10.3. -/
structure Config where
  /-- Names of the server. -/
  server : ServerConfig
  /-- Who may log in. -/
  access : AccessConfig
  /-- The alarms to start with. -/
  alarms : List AlarmConfig
  deriving DecidableEq

namespace Config

/-- Severity of an alarm that is given none. -/
def defaultSeverity : UInt16 := 400

/-- The alarms of a configuration that does not mention alarms. -/
def defaultAlarms : List AlarmConfig :=
  [⟨"OnOffCondition", "ConditionSource", defaultSeverity, true⟩]

/-- The configuration of a server that is given none. -/
def default : Config := ⟨.default, .default, defaultAlarms⟩

/-- The least severity. -/
def minSeverity : Nat := 1

/-- The greatest severity. -/
def maxSeverity : Nat := 1000

/-- The rules for one alarm, after alarms of the given names. -/
def validateAlarm (names : List String) (a : AlarmConfig) : Except Error Unit := do
  if Text.isBlankText a.name then throw (.config "condition with empty name")
  if Text.isBlankText a.source then throw (.config ("condition '" ++ a.name ++ "' has no source"))
  unless minSeverity ≤ a.severity.toNat ∧ a.severity.toNat ≤ maxSeverity do
    throw (.config ("condition '" ++ a.name ++ "' severity " ++ toString a.severity.toNat ++
      " outside " ++ toString minSeverity ++ "..=" ++ toString maxSeverity))
  if a.name ∈ names then throw (.config ("duplicate condition name '" ++ a.name ++ "'"))

/-- The rules for alarms, after alarms of the given names. -/
def validateAlarms (names : List String) : List AlarmConfig → Except Error Unit
  | [] => return
  | a :: as => do
    validateAlarm names a
    validateAlarms (a.name :: names) as

/-- Check all rules. Spec §10.3, `validate`. -/
def validate (c : Config) : Except Error Unit := do
  if Text.isBlankText c.server.applicationName then
    throw (.config "server.application_name is empty")
  if !c.access.allowAnonymous && c.access.users.isEmpty then
    throw (.config "anonymous logins are disabled and no users are configured")
  if c.access.users.any fun u => u.userName.isEmpty then
    throw (.config "user with empty user_name")
  validateAlarms [] c.alarms

end Config

end AlarmServer
