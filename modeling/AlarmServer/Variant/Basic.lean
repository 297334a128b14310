import AlarmServer.Address.Name
import AlarmServer.Address.NodeId
import AlarmServer.Calendar.Stamp
import AlarmServer.Number.Shortest

/-!
# Variants

A variant is a value of one of the built-in data types, or empty. Fields and variables hold
variants, and a write is checked against the data type that the target has.

Spec: `SPEC_FULL.md` §11.1.
-/

namespace AlarmServer

/-- The data types. Spec §11.1, `VariantType`. -/
inductive DataType where
  /-- The type of the empty variant alone. -/
  | empty
  /-- Truth values. -/
  | boolean
  /-- Unsigned numbers of sixteen bits. -/
  | uint16
  /-- Unsigned numbers of thirty-two bits. -/
  | uint32
  /-- Signed numbers of thirty-two bits. -/
  | int32
  /-- Binary64 numbers. -/
  | double
  /-- Texts. -/
  | string
  /-- Localized texts. -/
  | localizedText
  /-- Instants. -/
  | dateTime
  /-- Byte sequences. -/
  | byteString
  /-- Node identifiers. -/
  | nodeId
  deriving DecidableEq

namespace DataType

/-- All data types. -/
def all : List DataType :=
  [empty, boolean, uint16, uint32, int32, double, string, localizedText, dateTime, byteString,
    nodeId]

/-- Name of the data type. -/
def name : DataType → String
  | empty => "Empty"
  | boolean => "Boolean"
  | uint16 => "UInt16"
  | uint32 => "UInt32"
  | int32 => "Int32"
  | double => "Double"
  | string => "String"
  | localizedText => "LocalizedText"
  | dateTime => "DateTime"
  | byteString => "ByteString"
  | nodeId => "NodeId"

/-- The data type of that name. -/
def ofName? (s : String) : Option DataType := all.find? fun t => t.name = s

/-- A data type is read back from its name. -/
theorem ofName?_name (t : DataType) : ofName? t.name = some t := by
  cases t <;> rfl

end DataType

/-- A value of some data type. Spec §11.1. -/
inductive Variant where
  /-- No value. -/
  | empty
  /-- A truth value. -/
  | boolean (value : Bool)
  /-- An unsigned number of sixteen bits. -/
  | uint16 (value : UInt16)
  /-- An unsigned number of thirty-two bits. -/
  | uint32 (value : UInt32)
  /-- A signed number of thirty-two bits. -/
  | int32 (value : Int32)
  /-- A binary64 number. -/
  | double (value : Binary64)
  /-- A text. -/
  | string (value : String)
  /-- A localized text. -/
  | localizedText (value : LocalizedText)
  /-- An instant. -/
  | dateTime (value : Instant)
  /-- Bytes. -/
  | byteString (value : List UInt8)
  /-- A node identifier. -/
  | nodeId (value : NodeId)
  deriving DecidableEq

namespace Variant

instance : Inhabited Variant := ⟨empty⟩

/-- The data type of the value. -/
def dataType : Variant → DataType
  | empty => .empty
  | boolean _ => .boolean
  | uint16 _ => .uint16
  | uint32 _ => .uint32
  | int32 _ => .int32
  | double _ => .double
  | string _ => .string
  | localizedText _ => .localizedText
  | dateTime _ => .dateTime
  | byteString _ => .byteString
  | nodeId _ => .nodeId

/-- Is there no value? -/
def isEmpty (v : Variant) : Bool := v.dataType = .empty

/-- Equality of values: doubles by number, all else by identity. -/
def equals : Variant → Variant → Bool
  | double x, double y => x.equals y
  | a, b => a = b

/-- The truth value, if it is one. Spec §11.1, `as_bool`. -/
def asBool? : Variant → Option Bool
  | boolean b => some b
  | _ => none

/-- The number, if it is an integer that is not negative. -/
def asNat? : Variant → Option Nat
  | uint16 v => some v.toNat
  | uint32 v => some v.toNat
  | int32 v => if 0 ≤ v.toInt then some v.toInt.toNat else none
  | _ => none

/-- The text, if it is one, with or without a language. -/
def asText? : Variant → Option String
  | string s => some s
  | localizedText t => some t.text
  | _ => none

/-- The instant, if it is one. Spec §11.1, `as_datetime`. -/
def asInstant? : Variant → Option Instant
  | dateTime t => some t
  | _ => none

/-- The value for people. -/
def text : Variant → String
  | empty => "<empty>"
  | boolean b => toString b
  | uint16 v => toString v.toNat
  | uint32 v => toString v.toNat
  | int32 v => toString v.toInt
  | double v => v.text
  | string s => s
  | localizedText t => t.text
  | dateTime t => t.offsetText
  | byteString b => "<" ++ toString b.length ++ " bytes>"
  | nodeId id => id.text

instance : ToString Variant := ⟨text⟩

/-- Only the empty variant has no value. -/
theorem isEmpty_iff (v : Variant) : v.isEmpty = true ↔ v = empty := by
  cases v <;> simp [isEmpty, dataType]

end Variant

end AlarmServer
