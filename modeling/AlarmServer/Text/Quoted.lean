import AlarmServer.Text.Numeral
import AlarmServer.Text.Printable

/-!
# Quoted text and record texts

Diagnostic texts show strings between double quotes with escapes, and values with named parts as
`Name { part: text, part: text }`. A record text may be left open: it then ends in `.. }`, which
tells that some parts are not shown.
-/

namespace AlarmServer.Text

/-- A character inside double quotes. -/
def quotedChar (c : Char) : String :=
  if c = '"' then "\\\""
  else if c = '\\' then "\\\\"
  else if c = '\n' then "\\n"
  else if c = '\t' then "\\t"
  else if c = '\r' then "\\r"
  else if c = Char.ofNat 0 then "\\0"
  else if isPrintable c then String.singleton c
  else "\\u\x7b" ++ shortHex c.toNat ++ "\x7d"

/-- The string between double quotes, with escapes. -/
def quoted (s : String) : String := "\"" ++ String.join (s.toList.map quotedChar) ++ "\""

/-- A value with one unnamed part, as `Name(part)`. -/
def wrapped (name part : String) : String := name ++ "(" ++ part ++ ")"

/-- A value with named parts, as `Name { part: text, .. }`, and left open if asked. -/
def record (name : String) (parts : List (String × String)) (leftOpen : Bool) : String :=
  let shown := parts.map fun p => p.1 ++ ": " ++ p.2
  let all := if leftOpen then shown ++ [".."] else shown
  name ++ " \x7b " ++ String.intercalate ", " all ++ " \x7d"

end AlarmServer.Text
