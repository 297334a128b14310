import AlarmServer.Number.Shortest
import AlarmServer.Text.Numeral

/-!
# JSON values

Values and their compact text. Members of an object keep their order; integers and floating-point
numbers are kept apart.
-/

namespace AlarmServer

/-- A JSON value. -/
inductive Json where
  /-- Nothing. -/
  | null
  /-- A truth value. -/
  | bool (value : Bool)
  /-- A number written without point and exponent. -/
  | int (value : Int)
  /-- Any other number. -/
  | float (value : Binary64)
  /-- A text. -/
  | str (value : String)
  /-- A list. -/
  | arr (items : List Json)
  /-- Named members. -/
  | obj (members : List (String × Json))

namespace Json

instance : Inhabited Json := ⟨null⟩

/-- A natural number. -/
def nat (n : Nat) : Json := int n

/-- The value, or nothing. -/
def option {α : Type} (f : α → Json) : Option α → Json
  | none => null
  | some a => f a

/-- An object with one member. -/
def tagged (name : String) (value : Json) : Json := obj [(name, value)]

/-- A character inside double quotes. -/
def escapedChar (c : Char) : String :=
  if c = '"' then "\\\""
  else if c = '\\' then "\\\\"
  else if c = '\n' then "\\n"
  else if c = '\r' then "\\r"
  else if c = '\t' then "\\t"
  else if c.toNat = 8 then "\\b"
  else if c.toNat = 12 then "\\f"
  else if c.toNat < 0x20 then "\\u" ++ Text.lowerHex 4 c.toNat
  else String.singleton c

/-- A text between double quotes. -/
def quoted (s : String) : String := "\"" ++ String.join (s.toList.map escapedChar) ++ "\""

mutual

/-- The text `out` followed by the value, without white space. -/
def write (out : String) : Json → String
  | null => out ++ "null"
  | bool b => out ++ if b then "true" else "false"
  | int n => out ++ toString n
  | float x => out ++ if x.isNaN || x.isInfinite then "null" else x.text
  | str s => out ++ quoted s
  | arr items => writeItems (out ++ "[") true items
  | obj members => writeMembers (out ++ "\x7b") true members

/-- The text `out` followed by list items, with a comma before all but the first, and a bracket. -/
def writeItems (out : String) (first : Bool) : List Json → String
  | [] => out ++ "]"
  | j :: js => writeItems (write (if first then out else out ++ ",") j) false js

/-- The text `out` followed by members, with a comma before all but the first, and a brace. -/
def writeMembers (out : String) (first : Bool) : List (String × Json) → String
  | [] => out ++ "\x7d"
  | (k, j) :: ms =>
    writeMembers (write ((if first then out else out ++ ",") ++ quoted k ++ ":") j) false ms

end

/-- The value as text, without white space. -/
def text (j : Json) : String := write "" j

/-- Let a later member replace earlier ones of the same name. -/
def addMember (members : List (String × Json)) (name : String) (value : Json) :
    List (String × Json) :=
  members.filter (fun m => m.1 ≠ name) ++ [(name, value)]

/-! ### Views -/

/-- The member of that name, if this is an object that has one. -/
def member? (name : String) : Json → Option Json
  | obj members => members.lookup name
  | _ => none

/-- The truth value, if it is one. -/
def bool? : Json → Option Bool
  | bool b => some b
  | _ => none

/-- The text, if it is one. -/
def str? : Json → Option String
  | str s => some s
  | _ => none

/-- The items, if this is a list. -/
def arr? : Json → Option (List Json)
  | arr items => some items
  | _ => none

/-- The integer, if it is one within the bounds. -/
def intBetween? (low high : Int) : Json → Option Int
  | int n => if low ≤ n ∧ n ≤ high then some n else none
  | _ => none

/-- The natural number, if it is one with at most that many bits. -/
def nat? (bits : Nat) (j : Json) : Option Nat :=
  (j.intBetween? 0 (Nat.pow 2 bits - 1 : Nat)).map Int.toNat

/-- The integer as a number of eight bits. -/
def uint8? (j : Json) : Option UInt8 := (j.nat? 8).map UInt8.ofNat

/-- The integer as a number of sixteen bits. -/
def uint16? (j : Json) : Option UInt16 := (j.nat? 16).map UInt16.ofNat

/-- The integer as a number of thirty-two bits. -/
def uint32? (j : Json) : Option UInt32 := (j.nat? 32).map UInt32.ofNat

/-- The integer as a signed number of thirty-two bits. -/
def int32? (j : Json) : Option Int32 :=
  (j.intBetween? (-0x80000000) 0x7fffffff).map Int32.ofInt

/-- The number as binary64. -/
def binary64? : Json → Option Binary64
  | int n => some (.ofInt n)
  | float x => some x
  | _ => none

/-- The fields of a record, by name and in the given order. A record is written as an object, whose
other members are ignored, or as a list that may leave out fields at its end. -/
def fields? (names : List String) : Json → Option (List (Option Json))
  | obj members => some (names.map fun n => members.lookup n)
  | arr items =>
    if items.length ≤ names.length then
      some ((List.range names.length).map fun i => items[i]?)
    else none
  | _ => none

/-- The only member of an object that has one member. -/
def onlyMember? : Json → Option (String × Json)
  | obj [m] => some m
  | _ => none

end Json

end AlarmServer
