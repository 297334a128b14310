/-!
# Numerals of fixed width

Decimal and hexadecimal numerals with leading zeros, as used in status codes, identifiers and
times.
-/

namespace AlarmServer.Text

/-- The digit `n` of a base up to sixteen, with letters from `a`. -/
def lowerDigit (n : Nat) : Char :=
  if n < 10 then Char.ofNat (48 + n) else Char.ofNat (87 + n)

/-- The digit `n` of a base up to sixteen, with letters from `A`. -/
def upperDigit (n : Nat) : Char :=
  if n < 10 then Char.ofNat (48 + n) else Char.ofNat (55 + n)

/-- The last `width` digits of `n` in the given base. -/
def fixedDigits (digit : Nat → Char) (base : Nat) : (width : Nat) → Nat → List Char
  | 0, _ => []
  | width + 1, n => fixedDigits digit base width (n / base) ++ [digit (n % base)]

/-- Value of a digit of a base up to sixteen, in either case. -/
def digitValue? (c : Char) : Option Nat :=
  if '0' ≤ c ∧ c ≤ '9' then some (c.toNat - 48)
  else if 'a' ≤ c ∧ c ≤ 'f' then some (c.toNat - 87)
  else if 'A' ≤ c ∧ c ≤ 'F' then some (c.toNat - 55)
  else none

/-- Value of a digit below `base`. -/
def digitBelow? (base : Nat) (c : Char) : Option Nat :=
  (digitValue? c).filter (· < base)

/-- Value of a nonempty numeral in the given base, of digits only. -/
def natOfDigits? (base : Nat) (cs : List Char) : Option Nat :=
  if cs.isEmpty then none
  else cs.foldlM (fun n c => (digitBelow? base c).map (n * base + ·)) 0

/-- The last `width` decimal digits of `n`. -/
def decimal (width n : Nat) : String := String.ofList (fixedDigits lowerDigit 10 width n)

/-- Decimal numeral of `n` with at least `width` digits. -/
def decimalAtLeast (width n : Nat) : String :=
  if n < Nat.pow 10 width then decimal width n else toString n

/-- Upper-case hexadecimal numeral with exactly `width` digits. -/
def upperHex (width n : Nat) : String := String.ofList (fixedDigits upperDigit 16 width n)

/-- Lower-case hexadecimal numeral with exactly `width` digits. -/
def lowerHex (width n : Nat) : String := String.ofList (fixedDigits lowerDigit 16 width n)

/-- Lower-case hexadecimal numeral without leading zeros. -/
def shortHex (n : Nat) : String := String.ofList (Nat.toDigits 16 n)

/-- A number of fixed width has that width. -/
theorem length_fixedDigits (digit : Nat → Char) (base width n : Nat) :
    (fixedDigits digit base width n).length = width := by
  induction width generalizing n with
  | zero => rfl
  | succ w ih => simp [fixedDigits, ih]

end AlarmServer.Text
