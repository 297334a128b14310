/-!
# Binary floating-point numbers of 64 bits

A number is its bit pattern. A finite pattern stands for `significand · 2 ^ scale`, and rounding
takes a quotient of natural numbers to the nearest pattern, a half to the even one. All of this is
exact arithmetic on natural numbers.
-/

namespace AlarmServer

/-- A binary64 number, given by its bit pattern. -/
structure Binary64 where
  /-- Sign bit, eleven exponent bits, fifty-two fraction bits. -/
  bits : UInt64
  deriving DecidableEq

namespace Binary64

/-- The sign bit of a pattern. -/
def signBit : Nat := 0x8000000000000000

/-- One more than the largest fraction: the bit that is understood in front of most fractions. -/
def hiddenBit : Nat := 0x10000000000000

/-- The bit pattern without its sign. -/
def magnitude (x : Binary64) : Nat := x.bits.toNat % signBit

/-- Is the sign bit set? -/
def isNegative (x : Binary64) : Bool := signBit ≤ x.bits.toNat

/-- The pattern of an infinity without its sign. -/
def infiniteMagnitude : Nat := 2047 * hiddenBit

/-- Is this the result of an undefined operation? -/
def isNaN (x : Binary64) : Bool := infiniteMagnitude < x.magnitude

/-- Is this one of the two infinities? -/
def isInfinite (x : Binary64) : Bool := x.magnitude = infiniteMagnitude

/-- Is this one of the two zeros? -/
def isZero (x : Binary64) : Bool := x.magnitude = 0

/-- Numeric equality: nothing equals a NaN, and the two zeros are equal. -/
def equals (x y : Binary64) : Bool :=
  !x.isNaN && !y.isNaN && (x = y || (x.isZero && y.isZero))

/-- The number with the given sign and unsigned pattern. -/
def ofMagnitude (negative : Bool) (magnitude : Nat) : Binary64 :=
  ⟨UInt64.ofNat ((if negative then signBit else 0) + magnitude)⟩

/-- The infinity of the given sign. -/
def infinity (negative : Bool) : Binary64 := ofMagnitude negative infiniteMagnitude

/-- A NaN. -/
def nan : Binary64 := ofMagnitude false (infiniteMagnitude + 0x8000000000000)

/-- The integer `m` with which a finite number is `± m · 2 ^ scale`. -/
def significand (x : Binary64) : Nat :=
  if x.magnitude < hiddenBit then x.magnitude else hiddenBit + x.magnitude % hiddenBit

/-- The exponent `q` with which a finite number is `± significand · 2 ^ q`. -/
def scale (x : Binary64) : Int :=
  if x.magnitude < hiddenBit then -1074 else (x.magnitude / hiddenBit : Nat) - 1075

/-- The natural number nearest to `num / den`; a half goes to the even one. -/
def roundHalfEven (num den : Nat) : Nat :=
  let q := num / den
  let r := num % den
  if den < 2 * r ∨ (2 * r = den ∧ q % 2 = 1) then q + 1 else q

/-- `num / den` divided by `2 ^ e`, as a numerator and a denominator. -/
def scaledBy (num den : Nat) (e : Int) : Nat × Nat :=
  (num * Nat.pow 2 (-e).toNat, den * Nat.pow 2 e.toNat)

/-- The number nearest to `± num / den`, a half going to the even pattern; too large a quotient
becomes an infinity. -/
def ofRatio (negative : Bool) (num den : Nat) : Binary64 :=
  if num = 0 then ofMagnitude negative 0 else
    let low : Int := max (-1074) ((num.log2 : Int) - den.log2 - 53)
    let atLow := scaledBy num den low
    let e := if 2 * hiddenBit ≤ atLow.1 / atLow.2 then low + 1 else low
    let parts := scaledBy num den e
    let m := roundHalfEven parts.1 parts.2
    let pattern :=
      if m < hiddenBit then m else (e + 1075).toNat * hiddenBit + (m - hiddenBit)
    ofMagnitude negative (min pattern infiniteMagnitude)

/-- The number nearest to an integer. -/
def ofInt (n : Int) : Binary64 := ofRatio (n < 0) n.natAbs 1

/-- The product of two finite numbers, without their signs and rounded once. -/
def times (x y : Binary64) : Binary64 :=
  let parts := scaledBy (x.significand * y.significand) 1 (-(x.scale + y.scale))
  ofRatio false parts.1 parts.2

/-- The quotient of two finite numbers, without their signs and rounded once. -/
def dividedBy (x y : Binary64) : Binary64 :=
  let parts := scaledBy x.significand y.significand (y.scale - x.scale)
  ofRatio false parts.1 parts.2

/-- `1`, `-2`, `0.1`, the smallest positive number, a half between two neighbours, and an overflow.
-/
example :
    (ofRatio false 1 1).bits = 0x3ff0000000000000 ∧ (ofInt (-2)).bits = 0xc000000000000000 ∧
    (ofRatio false 1 10).bits = 0x3fb999999999999a ∧ (ofRatio false 5 (Nat.pow 10 324)).bits = 1 ∧
    ofInt 9007199254740993 = ofInt 9007199254740992 ∧
    (ofRatio true (Nat.pow 10 309) 1).isInfinite := by
  decide +kernel

end Binary64

end AlarmServer
