import AlarmServer.Json.Value
import AlarmServer.Variant.Basic

/-!
# JSON form of values

Records are objects with a member per field. An identifier is an object whose one member is named
for its kind. A variant is an object with its data type and, unless it is empty, its value; a double
has no JSON form of its own here, because an infinity has none in JSON, and is given by its text.

Reading is strict: a number is never taken for a text or the other way round, and it has to lie
within the range of its type.
-/

namespace AlarmServer

namespace Identifier

/-- The JSON form. -/
def toJson : Identifier → Json
  | numeric v => .tagged "Numeric" (.nat v.toNat)
  | text v => .tagged "String" (.str v)
  | guid v => .tagged "Guid" (.str v.text)

/-- The identifier with the given JSON form. -/
def ofJson? (j : Json) : Option Identifier := do
  let (kind, value) ← j.onlyMember?
  if kind = "Numeric" then value.uint32?.map numeric
  else if kind = "String" then value.str?.map text
  else if kind = "Guid" then (value.str?.bind Guid.ofText?).map guid
  else none

end Identifier

namespace NodeId

/-- The JSON form. -/
def toJson (id : NodeId) : Json :=
  .obj [("namespace", .nat id.ns.toNat), ("identifier", id.identifier.toJson)]

/-- The node identifier with the given JSON form. -/
def ofJson? (j : Json) : Option NodeId := do
  match ← j.fields? ["namespace", "identifier"] with
  | [some ns, some identifier] => return ⟨← ns.uint16?, ← Identifier.ofJson? identifier⟩
  | _ => none

end NodeId

namespace QualifiedName

/-- The JSON form. -/
def toJson (q : QualifiedName) : Json :=
  .obj [("namespace", .nat q.ns.toNat), ("name", .str q.name)]

end QualifiedName

namespace LocalizedText

/-- The JSON form. -/
def toJson (t : LocalizedText) : Json := .obj [("locale", .str t.locale), ("text", .str t.text)]

/-- The localized text with the given JSON form. -/
def ofJson? (j : Json) : Option LocalizedText := do
  match ← j.fields? ["locale", "text"] with
  | [some locale, some text] => return ⟨← locale.str?, ← text.str?⟩
  | _ => none

end LocalizedText

namespace Variant

/-- The JSON form of the value alone; the empty variant has none. -/
def valueToJson? : Variant → Option Json
  | empty => none
  | boolean b => some (.bool b)
  | uint16 v => some (.nat v.toNat)
  | uint32 v => some (.nat v.toNat)
  | int32 v => some (.int v.toInt)
  | double v => some (.str v.text)
  | string s => some (.str s)
  | localizedText t => some t.toJson
  | dateTime t => some (.str t.zuluText)
  | byteString b => some (.arr (b.map fun x => .nat x.toNat))
  | nodeId id => some id.toJson

/-- The JSON form. -/
def toJson (v : Variant) : Json :=
  let type := ("type", Json.str v.dataType.name)
  match v.valueToJson? with
  | none => .obj [type]
  | some value => .obj [type, ("value", value)]

/-- The variant of the given data type with the given JSON value. -/
def ofValueJson? : DataType → Json → Option Variant
  | .empty, .null => some empty
  | .empty, _ => none
  | .boolean, j => j.bool?.map boolean
  | .uint16, j => j.uint16?.map uint16
  | .uint32, j => j.uint32?.map uint32
  | .int32, j => j.int32?.map int32
  | .double, j => j.binary64?.map double
  | .string, j => j.str?.map string
  | .localizedText, j => (LocalizedText.ofJson? j).map localizedText
  | .dateTime, j => (j.str?.bind Instant.ofText?).map dateTime
  | .byteString, j => do return byteString (← (← j.arr?).mapM Json.uint8?)
  | .nodeId, j => (NodeId.ofJson? j).map nodeId

/-- The data type that a JSON value names: its name, or an object with nothing under its name. -/
def dataTypeOfJson? : Json → Option DataType
  | .str s => DataType.ofName? s
  | .obj [(s, .null)] => DataType.ofName? s
  | _ => none

/-- The variant with the given JSON form. A list of data type and value is read too. -/
def ofJson? (j : Json) : Option Variant :=
  match j with
  | .arr [type, value] => do ofValueJson? (← dataTypeOfJson? type) value
  | .obj members => do
    let type ← dataTypeOfJson? (← members.lookup "type")
    match members.lookup "value" with
    | some value => ofValueJson? type value
    | none => if type = .empty then some empty else none
  | _ => none

end Variant

end AlarmServer
