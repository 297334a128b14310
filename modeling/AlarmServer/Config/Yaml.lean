import AlarmServer.Config.Codec
import AlarmServer.Yaml.Node

/-!
# Configurations in YAML

Any scalar is a text. Truth values and numbers are plain scalars, or literal blocks with the tag of
their type. An empty plain scalar stands for a record without fields and for an empty list. A field
may be given only once, and members with other keys are ignored, whatever they are; but every key
has to be a scalar. A used name that is ignored is not looked up.

Spec: `SPEC_FULL.md` §10.3.
-/

namespace AlarmServer

namespace Yaml

/-- Tag of truth values. -/
def boolTag : String := "tag:yaml.org,2002:bool"

/-- Tag of integers. -/
def intTag : String := "tag:yaml.org,2002:int"

/-- The text of a scalar that may be of the type with the given tag. -/
def Node.typed? (tag : String) : Node → Option String
  | .scalar own s =>
    if s.style = .plain || (s.style = .literal && own = some tag) then some s.text else none
  | _ => none

/-- Is this an empty plain scalar? -/
def Node.isEmpty : Node → Bool
  | .scalar _ s => s.style = .plain && s.text = ""
  | _ => false

/-- The truth value of a text. -/
def boolOfText? (s : String) : Option Bool :=
  if s ∈ ["true", "True", "TRUE"] then some true
  else if s ∈ ["false", "False", "FALSE"] then some false
  else none

/-- The natural number of a text: digits after an optional plus sign, where a decimal number has no
superfluous zero in front, and a number to another base is marked by `0x`, `0o` or `0b`. -/
def natOfText? (s : String) : Option Nat :=
  let digits := match s.toList with
    | '+' :: cs => cs
    | cs => cs
  match digits with
  | '0' :: 'x' :: cs => Text.natOfDigits? 16 cs
  | '0' :: 'o' :: cs => Text.natOfDigits? 8 cs
  | '0' :: 'b' :: cs => Text.natOfDigits? 2 cs
  | '0' :: _ :: _ => none
  | cs => Text.natOfDigits? 10 cs

end Yaml

namespace ConfigFormat

/-- The value of the only member whose key is that text, if there is one; two are too many. -/
def member? (members : List (String × Yaml.Node)) (name : String) : Option (Option Yaml.Node) :=
  match members.filter fun m => m.1 = name with
  | [] => some none
  | [m] => some (some m.2)
  | _ => none

/-- Configurations as the nodes of a YAML document. -/
def yaml (d : Yaml.Document) : ConfigFormat (StateT Nat Option) Yaml.Node where
  bool? n := do Yaml.boolOfText? (← (← d.resolve n).typed? Yaml.boolTag)
  uint16? n := do
    let v ← Yaml.natOfText? (← (← d.resolve n).typed? Yaml.intTag)
    if v < 0x10000 then return UInt16.ofNat v else failure
  text? n := do
    match ← d.resolve n with
    | .scalar _ s => return s.text
    | _ => failure
  list? n := do
    match ← d.resolve n with
    | .list items => return items
    | n => if n.isEmpty then return [] else failure
  fields? names n := do
    match ← d.resolve n with
    | .mapping members =>
      let keyed ← members.mapM fun m => do
        match ← d.resolve m.1 with
        | .scalar _ s => return (s.text, m.2)
        | _ => failure
      names.mapM fun name => member? keyed name
    | n => if n.isEmpty then return names.map fun _ => none else failure

end ConfigFormat

namespace Config

/-- The configuration in a document. -/
def ofDocument? (d : Yaml.Document) : Option Config :=
  ((ConfigFormat.yaml d).config? d.root).run' d.lookups

/-- The configuration that a YAML text stands for, if it keeps all rules. Spec §10.3,
`from_yaml`. -/
def ofYaml (s : String) : Except Error Config :=
  match (Yaml.Document.ofText? s).bind ofDocument? with
  | none => .error (.yaml "not a configuration")
  | some c => do
    c.validate
    return c

/-- The configuration in a file, of which the contents are given if it could be read. Spec §10.3,
`from_file`. -/
def ofFile (contents : Except String ByteArray) : Except Error Config :=
  match contents with
  | .error e => .error (.io e)
  | .ok bytes =>
    match String.fromUTF8? bytes with
    | none => .error (.io "stream did not contain valid UTF-8")
    | some s => ofYaml s

end Config

end AlarmServer
