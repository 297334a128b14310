import AlarmServer.StatusCode

/-!
# Errors

What can go wrong in an operation on conditions, sessions or a configuration, with the text that
says so. An error that comes from the server's runtime carries its status code.

Spec: `SPEC_FULL.md` §7 and §10.2.
-/

namespace AlarmServer

/-- Why an operation failed. Spec §10.2, `AcError`. -/
inductive Error where
  /-- A condition could not be created. -/
  | creationFailed (browseName : String) (status : StatusCode)
  /-- A field could not be written. -/
  | fieldWriteFailed (field : String) (status : StatusCode)
  /-- A property of a variable could not be written. -/
  | nestedFieldWriteFailed (variableName property : String) (status : StatusCode)
  /-- A field or property could not be read. -/
  | fieldReadFailed (field : String) (status : StatusCode)
  /-- An event could not be published. -/
  | triggerFailed (source : String) (status : StatusCode)
  /-- A hook could not be installed. -/
  | hookInstallFailed (kind : String) (status : StatusCode)
  /-- The runtime failed otherwise. -/
  | runtime (status : StatusCode)
  /-- A callback failed. -/
  | callbackFault (message : String)
  /-- The session has no such attribute. -/
  | attributeNotFound (key : String)
  /-- A value has another type than the one asked for. -/
  | typeMismatch (expected actual : String)
  /-- The configuration breaks a rule. -/
  | config (message : String)
  /-- A file could not be read. -/
  | io (message : String)
  /-- A configuration is not well-formed. -/
  | yaml (message : String)
  deriving DecidableEq

namespace Error

/-- Name of the error. -/
def name : Error → String
  | creationFailed .. => "CreationFailed"
  | fieldWriteFailed .. => "FieldWriteFailed"
  | nestedFieldWriteFailed .. => "NestedFieldWriteFailed"
  | fieldReadFailed .. => "FieldReadFailed"
  | triggerFailed .. => "TriggerFailed"
  | hookInstallFailed .. => "HookInstallFailed"
  | runtime .. => "Runtime"
  | callbackFault .. => "CallbackFault"
  | attributeNotFound .. => "AttributeNotFound"
  | typeMismatch .. => "TypeMismatch"
  | config .. => "Config"
  | io .. => "Io"
  | yaml .. => "Yaml"

/-- What the error says. -/
def message : Error → String
  | creationFailed n s => "Condition '" ++ n ++ "' could not be created: " ++ s.text
  | fieldWriteFailed f s => "Field '" ++ f ++ "' write failed: " ++ s.text
  | nestedFieldWriteFailed v p s => "Field '" ++ v ++ "/" ++ p ++ "' write failed: " ++ s.text
  | fieldReadFailed f s => "Field '" ++ f ++ "' read failed: " ++ s.text
  | triggerFailed n s => "Trigger from source " ++ n ++ " failed: " ++ s.text
  | hookInstallFailed k s => "Transition hook for " ++ k ++ " could not be installed: " ++ s.text
  | runtime s => "Runtime call failed: " ++ s.text
  | callbackFault m => "Transition callback fault: " ++ m
  | attributeNotFound k => "Session attribute not found: " ++ k
  | typeMismatch e a => "Type mismatch: expected " ++ e ++ ", got " ++ a
  | config m => "Configuration error: " ++ m
  | io m => "Io error: " ++ m
  | yaml m => "YAML error: " ++ m

/-- The status code that the error stands for, if any. Spec §10.2, `status`. -/
def status? : Error → Option StatusCode
  | creationFailed _ s => some s
  | fieldWriteFailed _ s => some s
  | nestedFieldWriteFailed _ _ s => some s
  | fieldReadFailed _ s => some s
  | triggerFailed _ s => some s
  | hookInstallFailed _ s => some s
  | runtime s => some s
  | callbackFault _ => some .badInternalError
  | _ => none

end Error

end AlarmServer
