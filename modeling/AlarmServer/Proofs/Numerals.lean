import AlarmServer.Text.Numeral
import Mathlib.Data.List.TakeWhile
import Mathlib.Tactic.Ring

/-!
# Numerals

A numeral is read back as the number it was written for: one of fixed width up to the digits it has
no place for, a plain decimal numeral exactly. A plain numeral has no needless zero in front, and
decimal numerals of either kind are found in a text as its digits up to something else.
-/

namespace AlarmServer.Text

/-! ### Digits -/

/-- A written digit is read as its value. -/
theorem digitBelow?_lowerDigit {base d : Nat} (hb : base ≤ 16) (hd : d < base) :
    digitBelow? base (lowerDigit d) = some d := by
  have value : ∀ d < 16, digitValue? (lowerDigit d) = some d := by decide
  rw [digitBelow?, value d (by omega), Option.filter_some, if_pos (by simpa using hd)]

/-- Decimal digits are written alike in both kinds of numeral. -/
theorem lowerDigit_eq_digitChar {d : Nat} (hd : d < 10) : lowerDigit d = d.digitChar := by
  have same : ∀ d < 10, lowerDigit d = d.digitChar := by decide
  exact same d hd

/-- Digits with capital letters are different. -/
theorem upperDigit_inj : ∀ d < 16, ∀ e < 16, upperDigit d = upperDigit e → d = e := by decide

/-! ### Numerals of fixed width -/

/-- Reading on over a numeral of fixed width. -/
theorem foldlM_fixedDigits {base : Nat} (h0 : 0 < base) (hb : base ≤ 16) (width m n : Nat) :
    (fixedDigits lowerDigit base width n).foldlM
      (fun n c => (digitBelow? base c).map (n * base + ·)) m =
        some (m * base ^ width + n % base ^ width) := by
  induction width generalizing n with
  | zero => simp [fixedDigits, Nat.mod_one]
  | succ w ih =>
    have step : m * base ^ (w + 1) + n % base ^ (w + 1) =
        (m * base ^ w + n / base % base ^ w) * base + n % base := by
      rw [Nat.pow_succ', Nat.mod_mul]
      ring
    rw [fixedDigits, List.foldlM_append, ih, step]
    simp [digitBelow?_lowerDigit hb (Nat.mod_lt n h0)]

/-- A numeral of fixed width is read as the number, without the digits that had no place. -/
theorem natOfDigits?_fixedDigits {base width : Nat} (h0 : 0 < base) (hb : base ≤ 16)
    (hw : 0 < width) (n : Nat) :
    natOfDigits? base (fixedDigits lowerDigit base width n) = some (n % base ^ width) := by
  have nonempty : fixedDigits lowerDigit base width n ≠ [] := by
    rw [← List.length_pos_iff, length_fixedDigits]
    exact hw
  rw [natOfDigits?, if_neg (by simpa using nonempty), foldlM_fixedDigits h0 hb]
  simp

/-- A numeral of fixed width has digits only. -/
theorem exists_of_mem_fixedDigits {digit : Nat → Char} {base : Nat} (h0 : 0 < base)
    {width n : Nat} {c : Char} (hc : c ∈ fixedDigits digit base width n) :
    ∃ d < base, c = digit d := by
  induction width generalizing n with
  | zero => simp [fixedDigits] at hc
  | succ w ih =>
    rcases List.mem_append.mp hc with hc | hc
    · exact ih hc
    · exact ⟨n % base, Nat.mod_lt n h0, List.mem_singleton.mp hc⟩

/-- Numbers that have a place for all their digits have different numerals of fixed width. -/
theorem fixedDigits_inj {digit : Nat → Char} {base : Nat}
    (hdigit : ∀ d < base, ∀ e < base, digit d = digit e → d = e) (h0 : 0 < base)
    {width m n : Nat} (hm : m < base ^ width) (hn : n < base ^ width)
    (h : fixedDigits digit base width m = fixedDigits digit base width n) : m = n := by
  induction width generalizing m n with
  | zero => rw [Nat.lt_one_iff.mp hm, Nat.lt_one_iff.mp hn]
  | succ w ih =>
    obtain ⟨front, last⟩ := List.append_inj' h rfl
    have quotient : m / base = n / base :=
      ih (Nat.div_lt_of_lt_mul (Nat.pow_succ' ▸ hm)) (Nat.div_lt_of_lt_mul (Nat.pow_succ' ▸ hn))
        front
    have remainder : m % base = n % base :=
      hdigit _ (Nat.mod_lt m h0) _ (Nat.mod_lt n h0) (List.singleton_inj.mp last)
    rw [← Nat.div_add_mod m base, quotient, remainder, Nat.div_add_mod]

/-! ### Plain decimal numerals -/

/-- Reading a plain decimal numeral. -/
theorem foldlM_toDigits (n : Nat) :
    (Nat.toDigits 10 n).foldlM (fun n c => (digitBelow? 10 c).map (n * 10 + ·)) 0 = some n := by
  induction n using Nat.strongRecOn with
  | ind n ih =>
    have digit : digitBelow? 10 (n % 10).digitChar = some (n % 10) := by
      rw [← lowerDigit_eq_digitChar (by omega), digitBelow?_lowerDigit (by omega) (by omega)]
    rw [Nat.toDigits_eq_if (by omega)]
    split
    · next h =>
      rw [Nat.mod_eq_of_lt h] at digit
      simp [digit]
    · next h =>
      rw [List.foldlM_append, ih (n / 10) (by omega)]
      simp [digit, Nat.div_add_mod']

/-- A plain decimal numeral of more than one digit starts with another digit than zero. -/
theorem head?_toDigits {n : Nat} (hn : 0 < n) : (Nat.toDigits 10 n).head? ≠ some '0' := by
  induction n using Nat.strongRecOn with
  | ind n ih =>
    rw [Nat.toDigits_eq_if (by omega)]
    split
    · next h =>
      have other : ∀ d < 10, 0 < d → d.digitChar ≠ '0' := by decide
      simpa using other n h hn
    · next h =>
      have front := ih (n / 10) (by omega) (by omega)
      obtain ⟨c, cs, hc⟩ := List.exists_cons_of_ne_nil (@Nat.toDigits_ne_nil (n / 10) 10)
      rw [hc] at front ⊢
      exact front

/-! ### Decimal numerals in a text -/

/-- Is the text a decimal numeral for the number? -/
structure Numeral (cs : List Char) (n : Nat) : Prop where
  /-- It has digits only. -/
  digits : ∀ c ∈ cs, c.isDigit = true
  /-- They are read as the number. -/
  value : natOfDigits? 10 cs = some n

namespace Numeral

variable {cs : List Char} {m n : Nat}

/-- A numeral is one for a single number. -/
theorem unique (h : Numeral cs m) (h' : Numeral cs n) : m = n :=
  Option.some.inj (h.value.symm.trans h'.value)

/-- A numeral starts with a digit. -/
theorem exists_cons (h : Numeral cs n) : ∃ c ds, cs = c :: ds ∧ c.isDigit = true := by
  cases cs with
  | nil => exact absurd h.value (by simp [natOfDigits?])
  | cons c ds => exact ⟨c, ds, rfl, h.digits c List.mem_cons_self⟩

/-- The digits of a numeral are all taken when something else follows. -/
theorem takeWhile (h : Numeral cs n) {c : Char} (hc : c.isDigit = false) (rest : List Char) :
    (cs ++ c :: rest).takeWhile Char.isDigit = cs := by
  rw [List.takeWhile_append_of_pos h.digits]
  simp [hc]

end Numeral

/-- A plain decimal numeral. -/
theorem numeral_toDigits (n : Nat) : Numeral (Nat.toDigits 10 n) n where
  digits _ hc := Nat.isDigit_of_mem_toDigits (by omega) (by omega) hc
  value := by rw [natOfDigits?, if_neg (by simp), foldlM_toDigits]

/-- A number is shown as its plain decimal numeral. -/
theorem numeral_toString (n : Nat) : Numeral (toString n).toList n := by
  have digits : (toString n).toList = Nat.toDigits 10 n := Nat.toList_repr
  rw [digits]
  exact numeral_toDigits n

/-- Different numbers are shown differently. -/
theorem eq_of_toString {m n : Nat} (h : toString m = toString n) : m = n :=
  (numeral_toString m).unique (h ▸ numeral_toString n)

/-- The digits of a decimal numeral of fixed width are decimal digits. -/
theorem isDigit_fixedDigits (width n : Nat) :
    ∀ c ∈ fixedDigits lowerDigit 10 width n, c.isDigit = true := by
  intro c hc
  obtain ⟨d, hd, rfl⟩ := exists_of_mem_fixedDigits (by omega) hc
  rw [lowerDigit_eq_digitChar hd, Nat.isDigit_digitChar]
  exact decide_eq_true hd

/-- A decimal numeral of fixed width, for a number that has a place for all its digits. -/
theorem numeral_decimal {width n : Nat} (hw : 0 < width) (hn : n < 10 ^ width) :
    Numeral (decimal width n).toList n := by
  rw [decimal, String.toList_ofList]
  refine ⟨isDigit_fixedDigits width n, ?_⟩
  rw [natOfDigits?_fixedDigits (by omega) (by omega) hw, Nat.mod_eq_of_lt hn]

/-- A decimal numeral of fixed width has that many digits. -/
theorem length_decimal (width n : Nat) : (decimal width n).toList.length = width := by
  rw [decimal, String.toList_ofList, length_fixedDigits]

/-- A decimal numeral of at least some width. -/
theorem numeral_decimalAtLeast {width : Nat} (hw : 0 < width) (n : Nat) :
    Numeral (decimalAtLeast width n).toList n := by
  unfold decimalAtLeast
  split
  · next small => exact numeral_decimal hw small
  · exact numeral_toString n

end AlarmServer.Text
