import AlarmServer.Json.Value
import AlarmServer.Text.Quoted

/-!
# Identities

A client presents an identity token when it activates a session. What the server keeps of it is the
identity: which kind of token it was, whether its owner is an administrator, and some facts that
hold no secret. Passwords and token bytes appear in no text.

Spec: `SPEC_FULL.md` §4.4.
-/

namespace AlarmServer

/-- What a client presents to show who it is. Spec §4.4. -/
inductive IdentityToken where
  /-- Nothing. -/
  | anonymous
  /-- A user name with a password. -/
  | userName (name password : String)
  /-- A certificate. -/
  | x509 (certificate : List UInt8)
  /-- A token issued by somebody else. -/
  | issued (data : List UInt8) (algorithm : String)
  deriving DecidableEq

/-- Kinds of identity. Spec §4.4. -/
inductive IdentityType where
  /-- Not known. -/
  | unknown
  /-- Nobody in particular. -/
  | anonymous
  /-- A named user. -/
  | userName
  /-- The owner of a certificate. -/
  | x509
  /-- The owner of an issued token. -/
  | issued
  deriving DecidableEq

namespace IdentityType

/-- Name of the kind. -/
def name : IdentityType → String
  | unknown => "Unknown"
  | anonymous => "Anonymous"
  | userName => "UserName"
  | x509 => "X509"
  | issued => "Issued"

instance : ToString IdentityType := ⟨name⟩

end IdentityType

/-- A value kept for a session. Spec §3, Session Attribute Store. -/
inductive AttributeValue where
  /-- A text. -/
  | string (value : String)
  /-- A truth value. -/
  | bool (value : Bool)
  /-- An unsigned number of thirty-two bits. -/
  | uint32 (value : UInt32)
  deriving DecidableEq

namespace AttributeValue

/-- Name of the type of the value. -/
def typeName : AttributeValue → String
  | string _ => "String"
  | bool _ => "Bool"
  | uint32 _ => "UInt32"

/-- The diagnostic text. -/
def debugText : AttributeValue → String
  | string s => Text.wrapped "String" (Text.quoted s)
  | bool b => Text.wrapped "Bool" (toString b)
  | uint32 n => Text.wrapped "UInt32" (toString n.toNat)

/-- The JSON form. -/
def toJson : AttributeValue → Json
  | string s => .tagged "String" (.str s)
  | bool b => .tagged "Bool" (.bool b)
  | uint32 n => .tagged "UInt32" (.nat n.toNat)

end AttributeValue

/-- What is known about the owner of a session. Spec §4.4 and §9. -/
structure SessionIdentity where
  /-- Kind of identity. -/
  type : IdentityType
  /-- Is the owner an administrator? -/
  isAdmin : Bool
  /-- Name of the user. -/
  userName : Option String
  /-- Length of the certificate. -/
  certificateSize : Option UInt32
  /-- Length of the issued token. -/
  issuedTokenSize : Option UInt32
  /-- How the issued token is encrypted. -/
  issuedAlgorithm : Option String
  deriving DecidableEq

namespace SessionIdentity

/-- An identity of which nothing else is known. -/
def create (type : IdentityType) (isAdmin : Bool) : SessionIdentity :=
  ⟨type, isAdmin, none, none, none, none⟩

/-- The fact of that name, if it is known. Spec §4.4, `attribute`. -/
def attribute? (i : SessionIdentity) (key : String) : Option AttributeValue :=
  if key = "identityType" then some (.string i.type.name)
  else if key = "isAdmin" then some (.bool i.isAdmin)
  else if key = "userName" then i.userName.map .string
  else if key = "certSize" then i.certificateSize.map .uint32
  else if key = "issuedTokenSize" then i.issuedTokenSize.map .uint32
  else if key = "issuedEncAlgo" then i.issuedAlgorithm.map .string
  else none

/-- The JSON form. -/
def toJson (i : SessionIdentity) : Json :=
  .obj [
    ("identity_type", .str i.type.name), ("is_admin", .bool i.isAdmin),
    ("user_name", .option .str i.userName),
    ("certificate_size", .option (fun n => .nat n.toNat) i.certificateSize),
    ("issued_token_size", .option (fun n => .nat n.toNat) i.issuedTokenSize),
    ("issued_encryption_algorithm", .option .str i.issuedAlgorithm)]

end SessionIdentity

namespace IdentityToken

/-- Kind of the token. -/
def type : IdentityToken → IdentityType
  | anonymous => .anonymous
  | userName .. => .userName
  | x509 _ => .x509
  | issued .. => .issued

/-- The diagnostic text. It holds lengths in place of bytes, and no password. -/
def debugText : IdentityToken → String
  | anonymous => "Anonymous"
  | userName name _ => Text.record "UserName" [("user_name", Text.quoted name)] true
  | x509 certificate =>
    Text.record "X509" [("certificate_size", toString certificate.length)] false
  | issued data algorithm =>
    Text.record "Issued"
      [("token_size", toString data.length), ("encryption_algorithm", Text.quoted algorithm)] false

/-- The user whose sessions are administrator sessions. -/
def adminUser : String := "admin"

/-- A length as a number of thirty-two bits, the largest one for all that are longer. -/
def boundedLength (bytes : List UInt8) : UInt32 := UInt32.ofNat (min bytes.length 0xffffffff)

/-- What the token says about its owner. Owners of certificates and issued tokens are
administrators, as is one user. Spec §4.4, `decide_identity`. -/
def identity : IdentityToken → SessionIdentity
  | anonymous => .create .anonymous false
  | userName name _ =>
    { SessionIdentity.create .userName (name = adminUser) with userName := some name }
  | x509 certificate =>
    { SessionIdentity.create .x509 true with certificateSize := some (boundedLength certificate) }
  | issued data algorithm =>
    { SessionIdentity.create .issued true with
      issuedTokenSize := some (boundedLength data), issuedAlgorithm := some algorithm }

end IdentityToken

end AlarmServer
