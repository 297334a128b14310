import AlarmServer.Config.Basic

/-!
# Written configurations

A configuration is a tree of records, lists, texts, numbers and truth values; what these look like
depends on the format, and so does what a reader has to keep in mind on its way through the tree.
Parts that are left out have defaults, except for names, sources and passwords; members that mean
nothing are ignored.

Spec: `SPEC_FULL.md` §10.3.
-/

namespace AlarmServer

/-- How a format writes the parts of a tree of type `ν`, which are read in `m`. -/
structure ConfigFormat (m : Type → Type) (ν : Type) where
  /-- A truth value. -/
  bool? : ν → m Bool
  /-- A number of sixteen bits. -/
  uint16? : ν → m UInt16
  /-- A text. -/
  text? : ν → m String
  /-- A list. -/
  list? : ν → m (List ν)
  /-- The fields of a record, by name and in the given order. -/
  fields? : List String → ν → m (List (Option ν))

namespace ConfigFormat

variable {m : Type → Type} {ν : Type} [Monad m] [MonadExceptOf Unit m]

/-- A field that has a default. -/
def fieldOr {α : Type} (read : ν → m α) (fallback : α) : Option ν → m α
  | some j => read j
  | none => return fallback

/-- A list of which every item is read. -/
def listOf {α : Type} (f : ConfigFormat m ν) (read : ν → m α) (j : ν) : m (List α) := do
  (← f.list? j).mapM read

/-- Names of a server. -/
def server? (f : ConfigFormat m ν) (j : ν) : m ServerConfig := do
  match ← f.fields? ["application_name", "application_uri"] j with
  | [name, uri] =>
    return ⟨← fieldOr f.text? ServerConfig.defaultName name,
      ← fieldOr f.text? ServerConfig.defaultUri uri⟩
  | _ => throw ()

/-- A login. -/
def user? (f : ConfigFormat m ν) (j : ν) : m UserLogin := do
  match ← f.fields? ["user_name", "password"] j with
  | [some name, some password] => return ⟨← f.text? name, ← f.text? password⟩
  | _ => throw ()

/-- Who may log in. Without a list of users there are none. -/
def access? (f : ConfigFormat m ν) (j : ν) : m AccessConfig := do
  match ← f.fields? ["allow_anonymous", "allow_token_identities", "users"] j with
  | [anonymous, tokens, users] =>
    return ⟨← fieldOr f.bool? true anonymous, ← fieldOr f.bool? true tokens,
      ← fieldOr (f.listOf f.user?) [] users⟩
  | _ => throw ()

/-- An alarm. -/
def alarm? (f : ConfigFormat m ν) (j : ν) : m AlarmConfig := do
  match ← f.fields? ["name", "source", "severity", "exposed"] j with
  | [some name, some source, severity, exposed] =>
    return ⟨← f.text? name, ← f.text? source, ← fieldOr f.uint16? Config.defaultSeverity severity,
      ← fieldOr f.bool? true exposed⟩
  | _ => throw ()

/-- A configuration. Without a list of alarms there is one. -/
def config? (f : ConfigFormat m ν) (j : ν) : m Config := do
  match ← f.fields? ["server", "access_control", "conditions"] j with
  | [server, access, alarms] =>
    return ⟨← fieldOr f.server? .default server, ← fieldOr f.access? .default access,
      ← fieldOr (f.listOf f.alarm?) Config.defaultAlarms alarms⟩
  | _ => throw ()

/-- Configurations as JSON values. -/
def json : ConfigFormat Option Json where
  bool? := Json.bool?
  uint16? := Json.uint16?
  text? := Json.str?
  list? := Json.arr?
  fields? := Json.fields?

end ConfigFormat

namespace Config

/-- The JSON form. -/
def toJson (c : Config) : Json :=
  .obj [
    ("server", .obj [
      ("application_name", .str c.server.applicationName),
      ("application_uri", .str c.server.applicationUri)]),
    ("access_control", .obj [
      ("allow_anonymous", .bool c.access.allowAnonymous),
      ("allow_token_identities", .bool c.access.allowTokens),
      ("users", .arr (c.access.users.map fun u =>
        .obj [("user_name", .str u.userName), ("password", .str u.password)]))]),
    ("conditions", .arr (c.alarms.map fun a => .obj [
      ("name", .str a.name), ("source", .str a.source), ("severity", .nat a.severity.toNat),
      ("exposed", .bool a.exposed)]))]

end Config

end AlarmServer
