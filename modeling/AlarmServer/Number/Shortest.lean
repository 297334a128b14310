import AlarmServer.Number.Binary64

/-!
# Shortest decimal text of a binary64 number

A finite number is written with the fewest decimal digits that read back as the same number; among
those the nearest decimal is taken, and an exact tie goes up. The digits are written positionally,
whatever the size of the number, and an integer has no point.
-/

namespace AlarmServer.Binary64

/-- The multiple of `10 ^ p` that stands for `m · 2 ^ q`, as a factor of `10 ^ p`, if one of the two
multiples next to it reads back as the same number. The numbers that read back lie between
`4 m - below` and `4 m + 2` times `2 ^ (q - 2)`, the ends included if `m` is even. -/
def onGrid? (m : Nat) (q : Int) (below : Nat) (p : Int) : Option Nat :=
  let unit := Nat.pow 10 p.toNat * Nat.pow 2 (2 - q).toNat
  let weight := Nat.pow 2 (q - 2).toNat * Nat.pow 10 (-p).toNat
  let value := 4 * m * weight
  let low := (4 * m - below) * weight
  let high := (4 * m + 2) * weight
  let inside (c : Nat) : Bool :=
    if m % 2 = 0 then low ≤ c * unit && c * unit ≤ high else low < c * unit && c * unit < high
  let c := value / unit
  if inside c && inside (c + 1) then
    if value - c * unit < (c + 1) * unit - value then some c else some (c + 1)
  else if inside (c + 1) then some (c + 1)
  else if inside c then some c
  else none

/-- The exponent of the leading decimal digit of `m · 2 ^ q`, for `m` above zero. -/
def leadingExponent (m : Nat) (q : Int) : Int :=
  (Nat.toDigits 10 (m * Nat.pow 2 q.toNat * Nat.pow 10 400 / Nat.pow 2 (-q).toNat)).length - 401

/-- Digits and power of ten of the shortest decimal that reads back as `m · 2 ^ q`. Seventeen digits
always suffice. Rounding up to a power of ten leaves one zero at the end, which is dropped. -/
def shortest (m : Nat) (q : Int) : Nat × Int :=
  let below := if m = hiddenBit ∧ -1074 < q then 1 else 2
  let top := leadingExponent m q
  let attempt (k : Nat) : Option (Nat × Int) :=
    (onGrid? m q below (top - k)).map fun c =>
      if c % 10 = 0 then (c / 10, top - k + 1) else (c, top - k)
  ((List.range 18).findSome? attempt).getD (m, q)

/-- `digits · 10 ^ p` without an exponent. -/
def positional (digits : Nat) (p : Int) : String :=
  let ds := Nat.toDigits 10 digits
  let point := ds.length + p
  if 0 ≤ p then String.ofList (ds ++ List.replicate p.toNat '0')
  else if 0 < point then
    String.ofList (ds.take point.toNat) ++ "." ++ String.ofList (ds.drop point.toNat)
  else "0." ++ String.ofList (List.replicate (-point).toNat '0' ++ ds)

/-- The text of a number. -/
def text (x : Binary64) : String :=
  let sign := if x.isNegative then "-" else ""
  if x.isNaN then "NaN"
  else if x.isInfinite then sign ++ "inf"
  else if x.isZero then sign ++ "0"
  else
    let (digits, p) := shortest x.significand x.scale
    sign ++ positional digits p

example : text (ofRatio false 3 10) = "0.3" ∧ text (ofInt (-1)) = "-1" ∧
    text (ofInt 9007199254740993) = "9007199254740992" ∧ text (ofRatio true 0 1) = "-0" ∧
    shortest 2 (-1074) = (1, -323) := by
  decide +kernel

end AlarmServer.Binary64
