import AlarmServer.Number.Binary64
import AlarmServer.Text.Numeral

/-!
# Reading decimal numbers

A decimal number is `± digits · 10 ^ exponent`; it is rounded once, to the nearest binary64 number.
The texts that are read are an optional sign followed by digits with at most one point and an
optional exponent, or by the name of an infinity or of a NaN in any case.
-/

namespace AlarmServer

/-- The decimal number `± digits · 10 ^ exponent`. -/
structure Decimal where
  /-- Is there a minus sign? -/
  negative : Bool
  /-- All digits, read as one numeral. -/
  digits : Nat
  /-- Power of ten to multiply by. -/
  exponent : Int
  deriving DecidableEq

namespace Decimal

/-- The nearest binary64 number. Powers far outside the range are answered without being computed.
-/
def toBinary64 (d : Decimal) : Binary64 :=
  let leading : Int := (Nat.toDigits 10 d.digits).length + d.exponent
  if d.digits = 0 ∨ leading < -400 then .ofMagnitude d.negative 0
  else if 400 < leading then .infinity d.negative
  else .ofRatio d.negative (d.digits * Nat.pow 10 d.exponent.toNat) (Nat.pow 10 (-d.exponent).toNat)

/-- The power of ten as a binary64 number. -/
def powerOfTen (n : Nat) : Binary64 := .ofRatio false (Nat.pow 10 n) 1

/-- A number times a power of ten, rounded after each step; a step goes down by at most 308 places.
There is none if the result is too large. -/
def scaleInSteps? (x : Binary64) (exponent : Int) : Option Binary64 :=
  if x.isZero then some x
  else if 308 < exponent then none
  else if 0 ≤ exponent then
    let y := x.times (powerOfTen exponent.toNat)
    if y.isInfinite then none else some y
  else if -308 ≤ exponent then some (x.dividedBy (powerOfTen (-exponent).toNat))
  else scaleInSteps? (x.dividedBy (powerOfTen 308)) (exponent + 308)
termination_by (-exponent).toNat
decreasing_by omega

/-- The binary64 number found by rounding the digits first and then scaling in steps. It may differ
from the nearest one in the last place. -/
def inSteps? (d : Decimal) : Option Binary64 :=
  (scaleInSteps? (.ofRatio false d.digits 1) d.exponent).map fun x =>
    .ofMagnitude d.negative x.magnitude

/-- An optional sign, and the rest. -/
def splitSign : List Char → Bool × List Char
  | '-' :: cs => (true, cs)
  | '+' :: cs => (false, cs)
  | cs => (false, cs)

/-- An exponent part: nothing, or `e` or `E` and a signed numeral. -/
def exponent? : List Char → Option Int
  | [] => some 0
  | c :: cs =>
    if c = 'e' ∨ c = 'E' then
      let (negative, ds) := splitSign cs
      (Text.natOfDigits? 10 ds).map fun n => if negative then -(n : Int) else n
    else none

/-- Digits with at most one point among them and an optional exponent after them. -/
def ofUnsigned? (negative : Bool) (cs : List Char) : Option Decimal := do
  let whole := cs.takeWhile Char.isDigit
  let rest := cs.dropWhile Char.isDigit
  let (fraction, rest) := match rest with
    | '.' :: rest => (rest.takeWhile Char.isDigit, rest.dropWhile Char.isDigit)
    | rest => ([], rest)
  let digits ← Text.natOfDigits? 10 (whole ++ fraction)
  let e ← exponent? rest
  return ⟨negative, digits, e - fraction.length⟩

end Decimal

namespace Binary64

/-- The number that a text names, if it names one. -/
def ofText? (s : String) : Option Binary64 :=
  let (negative, cs) := Decimal.splitSign s.toList
  let word := String.ofList (cs.map Char.toLower)
  if word = "inf" ∨ word = "infinity" then some (infinity negative)
  else if word = "nan" then some nan
  else (Decimal.ofUnsigned? negative cs).map Decimal.toBinary64

example : ofText? "-0" = some ⟨0x8000000000000000⟩ ∧ ofText? ".5e1" = some (ofInt 5) ∧
    ofText? "1." = some (ofInt 1) ∧ ofText? "." = none ∧ ofText? "1e" = none := by
  decide +kernel

end Binary64

end AlarmServer
