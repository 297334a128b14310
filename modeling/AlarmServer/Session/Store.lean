import AlarmServer.Address.Name
import AlarmServer.Address.NodeId
import AlarmServer.Base.Table
import AlarmServer.Error
import AlarmServer.Session.Identity

/-!
# Session store

The store keeps, for each session it knows, an identity and values under qualified names. A session
becomes known by its first write and is forgotten when it is closed. The facts of an identity can be
looked up like values, in the standard namespace; a value of the same name takes precedence.

Spec: `SPEC_FULL.md` §3 and §11.4.
-/

namespace AlarmServer

/-- All that is kept for one session. Spec §3. -/
structure SessionAttributes where
  /-- Who owns the session. -/
  identity : Option SessionIdentity
  /-- Values by name. -/
  values : Table QualifiedName AttributeValue

namespace SessionAttributes

/-- Nothing is kept. -/
def empty : SessionAttributes := ⟨none, .empty⟩

/-- The value of that name, or else the fact of that name. Spec §3, `lookup`. -/
def lookup? (a : SessionAttributes) (key : QualifiedName) : Option AttributeValue :=
  match a.values.find? key with
  | some v => some v
  | none => if key.ns = 0 then a.identity.bind fun i => i.attribute? key.name else none

end SessionAttributes

/-- The attributes of all known sessions. Spec §3, Session Attribute Store. -/
structure SessionStore where
  /-- The known sessions. -/
  sessions : Table SessionId SessionAttributes

namespace SessionStore

/-- The store that knows no session. -/
def empty : SessionStore := ⟨.empty⟩

/-- Number of known sessions. -/
def size (st : SessionStore) : Nat := st.sessions.size

/-- Is the session known? -/
def contains (st : SessionStore) (s : SessionId) : Bool := st.sessions.contains s

/-- What is kept for a session, nothing if it is not known. -/
def attributes (st : SessionStore) (s : SessionId) : SessionAttributes :=
  (st.sessions.find? s).getD .empty

/-- Change what is kept for a session, which becomes known. -/
def update (st : SessionStore) (s : SessionId) (f : SessionAttributes → SessionAttributes) :
    SessionStore :=
  ⟨st.sessions.insert s (f (st.attributes s))⟩

/-- Make a session known. Spec §3, `open`. -/
def «open» (st : SessionStore) (s : SessionId) : SessionStore := st.update s fun a => a

/-- Forget a session. Spec §3, `close`. -/
def close (st : SessionStore) (s : SessionId) : SessionStore := ⟨st.sessions.erase s⟩

/-- Keep a value. Spec §3, `set`. -/
def set (st : SessionStore) (s : SessionId) (key : QualifiedName) (value : AttributeValue) :
    SessionStore :=
  st.update s fun a => { a with values := a.values.insert key value }

/-- Keep an identity, in place of any other. Spec §4.4, `record_identity`. -/
def recordIdentity (st : SessionStore) (s : SessionId) (i : SessionIdentity) : SessionStore :=
  st.update s fun a => { a with identity := some i }

/-- Who owns the session. Spec §4.4, `identity`. -/
def identity? (st : SessionStore) (s : SessionId) : Option SessionIdentity :=
  (st.attributes s).identity

/-- Look up an attribute. Spec §3, `get`. -/
def get (st : SessionStore) (s : SessionId) (key : QualifiedName) : Except Error AttributeValue :=
  match (st.attributes s).lookup? key with
  | some v => .ok v
  | none => .error (.attributeNotFound key.text)

/-- Look up a truth value. Spec §3, `get_bool`. -/
def getBool (st : SessionStore) (s : SessionId) (key : QualifiedName) : Except Error Bool := do
  match ← st.get s key with
  | .bool b => return b
  | v => throw (.typeMismatch "Bool" v.typeName)

/-- Look up a text. Spec §3, `get_string`. -/
def getString (st : SessionStore) (s : SessionId) (key : QualifiedName) : Except Error String := do
  match ← st.get s key with
  | .string t => return t
  | v => throw (.typeMismatch "String" v.typeName)

/-- Look up a number. Spec §3, `get_u32`. -/
def getUInt32 (st : SessionStore) (s : SessionId) (key : QualifiedName) : Except Error UInt32 := do
  match ← st.get s key with
  | .uint32 n => return n
  | v => throw (.typeMismatch "UInt32" v.typeName)

end SessionStore

/-- A session as seen by a callback: a client's, or the server's own, which is anonymous. Spec
§11.4. -/
abbrev Session : Type := Option SessionId

namespace SessionStore

/-- Who owns the session; nobody owns the anonymous one. Spec §11.4, `identity`. -/
def identityOf (st : SessionStore) (s : Session) : Option SessionIdentity := s.bind st.identity?

/-- Was the session activated by an administrator? Spec §11.4, `is_admin`. -/
def isAdmin (st : SessionStore) (s : Session) : Bool :=
  (st.identityOf s).any SessionIdentity.isAdmin

/-- Look up an attribute; the anonymous session has none. Spec §11.4, `attribute`. -/
def attributeOf (st : SessionStore) (s : Session) (key : QualifiedName) :
    Except Error AttributeValue :=
  match s with
  | some s => st.get s key
  | none => .error (.attributeNotFound key.text)

end SessionStore

end AlarmServer
