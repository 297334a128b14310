import AlarmServer.Text.Numeral

/-!
# Status codes

A status code is a word of 32 bits whose two highest bits carry the severity: `00` good, `01`
uncertain, `10` and `11` bad. The codes that the server gives have names.

Spec: `SPEC_FULL.md` §11.1.
-/

namespace AlarmServer

/-- Outcome of a service or an operation. Spec §11.1. -/
structure StatusCode where
  /-- The code. -/
  code : UInt32
  deriving DecidableEq

namespace StatusCode

/-- The operation succeeded. -/
def good : StatusCode := ⟨0x00000000⟩

/-- A fault inside the server. -/
def badInternalError : StatusCode := ⟨0x80020000⟩

/-- The user may not do this. -/
def badUserAccessDenied : StatusCode := ⟨0x801F0000⟩

/-- This kind of identity token is not accepted. -/
def badIdentityTokenInvalid : StatusCode := ⟨0x80200000⟩

/-- The identity token was rejected. -/
def badIdentityTokenRejected : StatusCode := ⟨0x80210000⟩

/-- There is no such node. -/
def badNodeIdUnknown : StatusCode := ⟨0x80340000⟩

/-- The node does not support this. -/
def badNotSupported : StatusCode := ⟨0x803D0000⟩

/-- Something was not found. -/
def badNotFound : StatusCode := ⟨0x803E0000⟩

/-- The value may not be written. -/
def badNotWritable : StatusCode := ⟨0x803B0000⟩

/-- This is not a reference type. -/
def badReferenceTypeIdInvalid : StatusCode := ⟨0x804C0000⟩

/-- The requested identifier is taken. -/
def badNodeIdExists : StatusCode := ⟨0x805E0000⟩

/-- The source has a condition of this name already. -/
def badBrowseNameDuplicated : StatusCode := ⟨0x80610000⟩

/-- The source cannot be used. -/
def badSourceNodeIdInvalid : StatusCode := ⟨0x80640000⟩

/-- There is no such part. -/
def badNoMatch : StatusCode := ⟨0x806F0000⟩

/-- The value has the wrong type. -/
def badTypeMismatch : StatusCode := ⟨0x80740000⟩

/-- The node, or the type, is not a condition. -/
def badTypeDefinitionInvalid : StatusCode := ⟨0x80750000⟩

/-- The condition is disabled already. -/
def badConditionAlreadyDisabled : StatusCode := ⟨0x80980000⟩

/-- The condition is enabled already. -/
def badConditionAlreadyEnabled : StatusCode := ⟨0x80990000⟩

/-- An argument is wrong. -/
def badInvalidArgument : StatusCode := ⟨0x80AB0000⟩

/-- The condition is acknowledged already. -/
def badConditionBranchAlreadyAcked : StatusCode := ⟨0x80CF0000⟩

/-- The condition is confirmed already. -/
def badConditionBranchAlreadyConfirmed : StatusCode := ⟨0x80D00000⟩

/-- The named codes. -/
def names : List (StatusCode × String) := [
  (good, "Good"), (badInternalError, "BadInternalError"),
  (badUserAccessDenied, "BadUserAccessDenied"),
  (badIdentityTokenInvalid, "BadIdentityTokenInvalid"),
  (badIdentityTokenRejected, "BadIdentityTokenRejected"),
  (badNodeIdUnknown, "BadNodeIdUnknown"), (badNotSupported, "BadNotSupported"),
  (badNotFound, "BadNotFound"), (badNotWritable, "BadNotWritable"),
  (badReferenceTypeIdInvalid, "BadReferenceTypeIdInvalid"),
  (badNodeIdExists, "BadNodeIdExists"), (badBrowseNameDuplicated, "BadBrowseNameDuplicated"),
  (badSourceNodeIdInvalid, "BadSourceNodeIdInvalid"), (badNoMatch, "BadNoMatch"),
  (badTypeMismatch, "BadTypeMismatch"), (badTypeDefinitionInvalid, "BadTypeDefinitionInvalid"),
  (badConditionAlreadyDisabled, "BadConditionAlreadyDisabled"),
  (badConditionAlreadyEnabled, "BadConditionAlreadyEnabled"),
  (badInvalidArgument, "BadInvalidArgument"),
  (badConditionBranchAlreadyAcked, "BadConditionBranchAlreadyAcked"),
  (badConditionBranchAlreadyConfirmed, "BadConditionBranchAlreadyConfirmed")]

/-- Are the severity bits `00`? Spec §11.1, `is_good`. -/
def isGood (s : StatusCode) : Bool := s.code &&& 0xC0000000 = 0

/-- Are the severity bits `01`? -/
def isUncertain (s : StatusCode) : Bool := s.code &&& 0xC0000000 = 0x40000000

/-- Is the highest bit set? Spec §11.1, `is_bad`. -/
def isBad (s : StatusCode) : Bool := s.code &&& 0x80000000 ≠ 0

/-- The name of the code, if it has one. Spec §11.1, `name`. -/
def name? (s : StatusCode) : Option String := names.lookup s

/-- The name, if there is one, and the code in hexadecimal. -/
def text (s : StatusCode) : String :=
  let hex := "0x" ++ Text.upperHex 8 s.code.toNat
  match s.name? with
  | some name => name ++ " (" ++ hex ++ ")"
  | none => hex

instance : ToString StatusCode := ⟨text⟩

end StatusCode

end AlarmServer
