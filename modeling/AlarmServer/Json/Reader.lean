import AlarmServer.Json.Value
import AlarmServer.Number.Decimal

/-!
# Reading JSON text

A reader returns the value at the front of the text and the rest. Nested values are read with a
bound on the nesting, for which the length of the text always suffices. Of several members with one
name the last counts. An integer outside the range of 64 bits, and minus zero, become floating-point
numbers. A floating-point number is found from at most 64 bits of digits, which are rounded before
they are scaled; it is the nearest one whenever the digits have at most 53 bits and the exponent is
small.
-/

namespace AlarmServer.Json

/-- Is the character JSON white space? -/
def isSpace (c : Char) : Bool := c = ' ' || c = '\n' || c = '\t' || c = '\r'

/-- The text without white space at its start. -/
def skip (cs : List Char) : List Char := cs.dropWhile isSpace

/-- Four hexadecimal digits, and the rest. -/
def readUnit? : List Char → Option (Nat × List Char)
  | a :: b :: c :: d :: cs => (Text.natOfDigits? 16 [a, b, c, d]).map fun n => (n, cs)
  | _ => none

/-- The character after a backslash and what it stands for, and the rest. -/
def readEscape? : List Char → Option (Char × List Char)
  | '"' :: cs => some ('"', cs)
  | '\\' :: cs => some ('\\', cs)
  | '/' :: cs => some ('/', cs)
  | 'n' :: cs => some ('\n', cs)
  | 'r' :: cs => some ('\r', cs)
  | 't' :: cs => some ('\t', cs)
  | 'b' :: cs => some (Char.ofNat 8, cs)
  | 'f' :: cs => some (Char.ofNat 12, cs)
  | 'u' :: cs => do
    let (high, rest) ← readUnit? cs
    if 0xd800 ≤ high ∧ high < 0xdc00 then
      match rest with
      | '\\' :: 'u' :: rest =>
        let (low, rest) ← readUnit? rest
        guard (0xdc00 ≤ low && low < 0xe000)
        return (Char.ofNat (0x10000 + (high - 0xd800) * 1024 + (low - 0xdc00)), rest)
      | _ => none
    else
      guard (!(0xdc00 ≤ high && high < 0xe000))
      return (Char.ofNat high, rest)
  | _ => none

/-- The rest of a text after its opening quote, read in reverse onto `done`. -/
def readQuoted? (done : List Char) : (fuel : Nat) → List Char → Option (String × List Char)
  | 0, _ => none
  | _, [] => none
  | _ + 1, '"' :: cs => some (String.ofList done.reverse, cs)
  | fuel + 1, '\\' :: cs => do
    let (c, cs) ← readEscape? cs
    readQuoted? (c :: done) fuel cs
  | fuel + 1, c :: cs => if c.toNat < 0x20 then none else readQuoted? (c :: done) fuel cs

/-- Is the character part of a number? -/
def isNumberChar (c : Char) : Bool :=
  c.isDigit || c = '-' || c = '+' || c = '.' || c = 'e' || c = 'E'

/-- A numeral that starts with `n` and goes on with the digits, for as long as it has at most 64
bits, and the digits left over. -/
def readDigits (n : Nat) : List Char → Nat × List Char
  | [] => (n, [])
  | c :: cs =>
    let next := n * 10 + (c.toNat - '0'.toNat)
    if next < 0x10000000000000000 then readDigits next cs else (n, c :: cs)

/-- The decimal number with the given digits before and after the point. Digits that do not fit into
64 bits count as zeros before the point and not at all after it. -/
def decimal (negative : Bool) (whole fraction : List Char) (exponent : Int) : Decimal :=
  let (n, beyond) := readDigits 0 whole
  let (n, left) := readDigits n fraction
  ⟨negative, n, exponent + beyond.length - (fraction.length - left.length : Nat)⟩

/-- An integer: it stays one within 64 bits, unless it is minus zero. -/
def ofInteger? (negative : Bool) (digits : List Char) : Option Json := do
  let n ← Text.natOfDigits? 10 digits
  if !negative && n < 0x10000000000000000 then return int n
  else if negative && 0 < n && n ≤ 0x8000000000000000 then return int (-n)
  else (decimal negative digits [] 0).inSteps?.map float

/-- A number. -/
def ofNumber? (cs : List Char) : Option Json := do
  let (negative, cs) := match cs with
    | '-' :: ds => (true, ds)
    | ds => (false, ds)
  let whole := cs.takeWhile Char.isDigit
  guard (!whole.isEmpty && (whole.length = 1 || whole.head? ≠ some '0'))
  match cs.dropWhile Char.isDigit with
  | [] => ofInteger? negative whole
  | '.' :: rest =>
    let fraction := rest.takeWhile Char.isDigit
    guard !fraction.isEmpty
    let e ← Decimal.exponent? (rest.dropWhile Char.isDigit)
    (decimal negative whole fraction e).inSteps?.map float
  | rest =>
    let e ← Decimal.exponent? rest
    (decimal negative whole [] e).inSteps?.map float

mutual

/-- The value at the front of the text. -/
def read? : (depth : Nat) → List Char → Option (Json × List Char)
  | 0, _ => none
  | depth + 1, cs =>
    match skip cs with
    | 'n' :: 'u' :: 'l' :: 'l' :: rest => some (null, rest)
    | 't' :: 'r' :: 'u' :: 'e' :: rest => some (bool true, rest)
    | 'f' :: 'a' :: 'l' :: 's' :: 'e' :: rest => some (bool false, rest)
    | '"' :: rest => (readQuoted? [] (rest.length + 1) rest).map fun r => (str r.1, r.2)
    | '[' :: rest =>
      match skip rest with
      | ']' :: rest => some (arr [], rest)
      | _ => readItems? depth [] rest
    | '\x7b' :: rest =>
      match skip rest with
      | '\x7d' :: rest => some (obj [], rest)
      | _ => readMembers? depth [] rest
    | rest =>
      (ofNumber? (rest.takeWhile isNumberChar)).map fun j => (j, rest.dropWhile isNumberChar)

/-- The items of a list up to its bracket; `done` holds those before, in reverse. -/
def readItems? : (depth : Nat) → List Json → List Char → Option (Json × List Char)
  | 0, _, _ => none
  | depth + 1, done, cs => do
    let (j, rest) ← read? depth cs
    match skip rest with
    | ',' :: rest => readItems? depth (j :: done) rest
    | ']' :: rest => some (arr (j :: done).reverse, rest)
    | _ => none

/-- The members of an object up to its brace; `done` holds those before. -/
def readMembers? : (depth : Nat) → List (String × Json) → List Char → Option (Json × List Char)
  | 0, _, _ => none
  | depth + 1, done, cs => do
    match skip cs with
    | '"' :: rest =>
      let (name, rest) ← readQuoted? [] (rest.length + 1) rest
      match skip rest with
      | ':' :: rest =>
        let (j, rest) ← read? depth rest
        match skip rest with
        | ',' :: rest => readMembers? depth (addMember done name j) rest
        | '\x7d' :: rest => some (obj (addMember done name j), rest)
        | _ => none
      | _ => none
    | _ => none

end

/-- The value that a whole text stands for. -/
def ofText? (s : String) : Option Json := do
  let cs := s.toList
  let (j, rest) ← read? (cs.length + 1) cs
  guard (rest.all isSpace)
  return j

end AlarmServer.Json
