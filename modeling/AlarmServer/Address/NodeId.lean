import AlarmServer.Address.Guid
import AlarmServer.Text.Quoted

/-!
# Node identifiers

Every node of an address space has an identifier: a namespace and a number, a text or a GUID within
it. The null identifier names no node. Identifiers are ordered by namespace, then numbers before
texts before GUIDs, then by value.

Spec: `SPEC_FULL.md` §11.1.
-/

namespace AlarmServer

/-- What names a node within its namespace. Spec §11.1. -/
inductive Identifier where
  /-- A number. -/
  | numeric (value : UInt32)
  /-- A text. -/
  | text (value : String)
  /-- A GUID. -/
  | guid (value : Guid)
  deriving DecidableEq

/-- Identifier of a node. Spec §11.1. -/
structure NodeId where
  /-- Namespace index; 0 is the standard namespace. -/
  ns : UInt16
  /-- What names the node within the namespace. -/
  identifier : Identifier
  deriving DecidableEq

namespace Identifier

/-- Numbers before texts before GUIDs, then by value. -/
def compare : Identifier → Identifier → Ordering
  | numeric a, numeric b => Ord.compare a.toNat b.toNat
  | numeric _, _ => .lt
  | text _, numeric _ => .gt
  | text a, text b => Ord.compare a b
  | text _, guid _ => .lt
  | guid a, guid b => Ord.compare a.value.toNat b.value.toNat
  | guid _, _ => .gt

end Identifier

namespace NodeId

/-- A node named by a number. -/
def numeric (ns : UInt16) (value : UInt32) : NodeId := ⟨ns, .numeric value⟩

/-- Numeric identifiers are equal if their numbers are. -/
@[simp] theorem numeric_inj {ns ns' : UInt16} {value value' : UInt32} :
    numeric ns value = numeric ns' value' ↔ ns = ns' ∧ value = value' := by
  simp [numeric]

/-- The identifier that names no node. Spec §11.1. -/
def null : NodeId := numeric 0 0

instance : Inhabited NodeId := ⟨null⟩

/-- Does the identifier name no node? -/
def isNull (id : NodeId) : Bool := id = null

/-- The text `ns=N;i=…`, `ns=N;s=…` or `ns=N;g=…`. -/
def text (id : NodeId) : String :=
  let tail := match id.identifier with
    | .numeric v => "i=" ++ toString v.toNat
    | .text v => "s=" ++ v
    | .guid v => "g=" ++ v.text
  "ns=" ++ toString id.ns.toNat ++ ";" ++ tail

instance : ToString NodeId := ⟨text⟩

/-- The diagnostic text, with every part named. -/
def debugText (id : NodeId) : String :=
  let identifier := match id.identifier with
    | .numeric v => Text.wrapped "Numeric" (toString v.toNat)
    | .text v => Text.wrapped "String" (Text.quoted v)
    | .guid v => Text.wrapped "Guid" v.text
  Text.record "NodeId" [("namespace", toString id.ns.toNat), ("identifier", identifier)] false

/-- By namespace, then by identifier. -/
def compare (a b : NodeId) : Ordering :=
  (Ord.compare a.ns.toNat b.ns.toNat).then (a.identifier.compare b.identifier)

/-- The identifiers in increasing order, equal ones as often as they occur. -/
def sort (ids : List NodeId) : List NodeId := ids.mergeSort fun a b => a.compare b != .gt

/-! ### Standard nodes -/

/-- The folder of all objects. -/
def objectsFolder : NodeId := numeric 0 85

/-- The object that stands for the server itself. -/
def serverObject : NodeId := numeric 0 2253

/-- Reference from a folder to what it holds. -/
def organizes : NodeId := numeric 0 35

/-- Reference from a notifier to a source of events. -/
def hasEventSource : NodeId := numeric 0 36

/-- Reference from a node to its part. -/
def hasComponent : NodeId := numeric 0 47

/-- Reference from a notifier to a notifier below it. -/
def hasNotifier : NodeId := numeric 0 48

/-- Reference from a source to its condition. -/
def hasCondition : NodeId := numeric 0 9006

/-- The type of plain objects. -/
def baseObjectType : NodeId := numeric 0 58

/-- The reference types that a server supports. -/
def referenceTypes : List NodeId :=
  [organizes, hasEventSource, hasComponent, hasNotifier, hasCondition]

/-- Is this a supported reference type? -/
def isReferenceType (id : NodeId) : Bool := id ∈ referenceTypes

end NodeId

/-- Identifier of a client session. Spec §11.1. -/
structure SessionId where
  /-- Sessions are nodes too. -/
  node : NodeId
  deriving DecidableEq

instance : ToString SessionId := ⟨fun s => s.node.text⟩

/-- Identifier of a published event. Spec §11.1: 16 random bytes. -/
structure EventId where
  /-- The identifier as bytes. -/
  bytes : List UInt8
  deriving DecidableEq

end AlarmServer
