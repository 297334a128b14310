import AlarmServer.Text.Numeral

/-!
# Globally unique identifiers

A GUID is a number of 128 bits. It is written as thirty-two lower-case hexadecimal digits in groups
of 8, 4, 4, 4 and 12; the same without hyphens, between braces, or after `urn:uuid:` is read as
well, with all letters in either case.

Spec: `SPEC_FULL.md` §11.1.
-/

namespace AlarmServer

/-- A globally unique identifier. -/
structure Guid where
  /-- The identifier as one number, its first digit the most significant. -/
  value : BitVec 128
  deriving DecidableEq

namespace Guid

/-- The group lengths of the written form. -/
def groups : List Nat := [8, 4, 4, 4, 12]

/-- Cut a list into consecutive groups of the given lengths. -/
def cut : List Nat → List Char → List (List Char)
  | [], _ => []
  | n :: ns, cs => cs.take n :: cut ns (cs.drop n)

/-- The written form. -/
def text (g : Guid) : String :=
  let digits := Text.fixedDigits Text.lowerDigit 16 32 g.value.toNat
  String.intercalate "-" ((cut groups digits).map String.ofList)

/-- The GUID with the given thirty-two digits. -/
def ofDigits? (cs : List Char) : Option Guid :=
  if cs.length = 32 then (Text.natOfDigits? 16 cs).map fun n => ⟨BitVec.ofNat 128 n⟩ else none

/-- The GUID written with hyphens. -/
def ofHyphenated? (cs : List Char) : Option Guid :=
  let parts := cut [8, 1, 4, 1, 4, 1, 4, 1, 12] cs
  match parts with
  | [a, ['-'], b, ['-'], c, ['-'], d, ['-'], e] =>
    if cs.length = 36 then ofDigits? (a ++ b ++ c ++ d ++ e) else none
  | _ => none

/-- The GUID that a text names, if it names one. -/
def ofText? (s : String) : Option Guid :=
  let cs := s.toList
  if cs.length = 32 then ofDigits? cs
  else if cs.length = 36 then ofHyphenated? cs
  else if cs.length = 38 ∧ cs.head? = some '\x7b' ∧ cs.getLast? = some '\x7d' then
    ofHyphenated? (cs.drop 1).dropLast
  else if cs.length = 45 ∧ (cs.take 9).map Char.toLower = "urn:uuid:".toList then
    ofHyphenated? (cs.drop 9)
  else none

/-- The sixteen bytes, most significant first. -/
def bytes (g : Guid) : List UInt8 :=
  (List.range 16).map fun i => UInt8.ofNat (g.value.toNat / Nat.pow 256 (15 - i) % 256)

/-- The `n`-th identifier of a fixed series: the version and variant marks of a random GUID, a fixed
pattern, and the number. Different numbers below `2 ^ 62` give different identifiers. -/
def drawn (n : Nat) : Guid :=
  ⟨0x5d1be64f9c6240fa932a77d3f1c4e805#128 ^^^ BitVec.ofNat 128 (n % 0x4000000000000000)⟩

example :
    ofText? "6BA7B810-9dad-11d1-80b4-00c04fd430c8" = ofText? "6ba7b8109dad11d180b400c04fd430c8" ∧
    ((ofText? "6BA7B810-9dad-11d1-80b4-00c04fd430c8").map text) =
      some "6ba7b810-9dad-11d1-80b4-00c04fd430c8" ∧
    ((ofText? "Urn:UUID:6ba7b810-9dad-11d1-80b4-00c04fd430c8").map text) =
      some "6ba7b810-9dad-11d1-80b4-00c04fd430c8" ∧
    ofText? "6ba7b810-9dad-11d1-80b4-00c04fd430c" = none := by
  decide +kernel

end Guid

end AlarmServer
