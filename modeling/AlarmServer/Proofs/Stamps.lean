import AlarmServer.Proofs.Calendars
import AlarmServer.Proofs.Numerals

/-!
# Written times

The text of an instant is read back as the instant, for every instant that a clock can show: those
within the years that are read, leap seconds among them.
-/

namespace AlarmServer

/-! ### White space -/

namespace Text

/-- Decimal digits are no white space. -/
theorem isBlank_of_isDigit {c : Char} (h : c.isDigit = true) : isBlank c = false := by
  have range : 48 ≤ c.toNat ∧ c.toNat ≤ 57 := by
    simpa [Char.isDigit, UInt32.le_iff_toNat_le] using h
  simp [isBlank]
  omega

/-- No white space is trimmed from a text that starts with none. -/
theorem trimStart_cons {c : Char} (h : isBlank c = false) (cs : List Char) :
    trimStart (c :: cs) = c :: cs := by
  simp [trimStart, h]

/-- No white space is trimmed from a numeral. -/
theorem Numeral.trimStart {cs : List Char} {n : Nat} (h : Numeral cs n) (rest : List Char) :
    Text.trimStart (cs ++ rest) = cs ++ rest := by
  obtain ⟨c, ds, rfl, hc⟩ := h.exists_cons
  exact trimStart_cons (isBlank_of_isDigit hc) (ds ++ rest)

end Text

namespace Instant

/-! ### Reading numerals -/

/-- A numeral of full width is read, whatever follows. -/
theorem readNumeral?_decimal {width n : Nat} (hw : 0 < width) (hn : n < 10 ^ width)
    (rest : List Char) :
    readNumeral? width ((Text.decimal width n).toList ++ rest) = some (n, rest) := by
  have numeral := Text.numeral_decimal hw hn
  have length := Text.length_decimal width n
  have whole : (((Text.decimal width n).toList ++ rest).take width).takeWhile Char.isDigit =
      (Text.decimal width n).toList := by
    rw [List.take_left' length, List.takeWhile_eq_self_iff.mpr numeral.digits]
  rw [readNumeral?]
  simp only [numeral.trimStart, whole, numeral.value, Option.map_some, List.drop_left' rfl]

/-- A sign is read where it stands. -/
theorem readSign?_cons {c : Char} (h : Text.isBlank c = false) (rest : List Char) :
    readSign? c (c :: rest) = some rest := by
  simp [readSign?, Text.trimStart_cons h]

/-- All digits of a year with a sign are read. -/
theorem signed_numeral {cs : List Char} {n : Nat} (h : Text.Numeral cs n) (rest : List Char)
    (sign : Int → Int) :
    readYear?.signed (cs ++ '-' :: rest) sign = some (sign n, '-' :: rest) := by
  rw [readYear?.signed]
  simp only [h.takeWhile (show Char.isDigit '-' = false from rfl), h.value, List.drop_left' rfl]
  rfl

/-- A year is read up to the hyphen. -/
theorem readYear?_yearText (y : Int) (rest : List Char) :
    readYear? ((yearText y).toList ++ '-' :: rest) = some (y, '-' :: rest) := by
  unfold yearText
  split_ifs with plain negative
  · have small : y.toNat < 10 ^ 4 := by omega
    have numeral := Text.numeral_decimal (by omega) small
    have read := readNumeral?_decimal (by omega) small ('-' :: rest)
    obtain ⟨c, ds, hc, digit⟩ := numeral.exists_cons
    rw [readYear?, numeral.trimStart]
    rw [hc] at read ⊢
    split
    case h_3 =>
      rw [read]
      simp
      omega
    all_goals
      next heq =>
        rw [(List.cons.inj heq).1] at digit
        exact absurd digit (by decide)
  · have numeral := @Text.numeral_decimalAtLeast 4 (by omega) y.natAbs
    have minus := Text.trimStart_cons (show Text.isBlank '-' = false from rfl)
    have read := signed_numeral numeral rest fun n => -n
    have value : -(y.natAbs : Int) = y := by omega
    rw [value] at read
    simp [readYear?, minus, read]
  · have numeral := @Text.numeral_decimalAtLeast 4 (by omega) y.natAbs
    have plus := Text.trimStart_cons (show Text.isBlank '+' = false from rfl)
    have read := signed_numeral numeral rest fun n => n
    have value : (y.natAbs : Int) = y := by omega
    rw [value] at read
    simp [readYear?, plus, read]

/-- A fraction is read from as many digits as it has. -/
theorem readFraction?_decimal {width n : Nat} (hw : 0 < width) (h9 : width ≤ 9)
    (hn : n < 10 ^ width) :
    readFraction? ('.' :: ((Text.decimal width n).toList ++ ['Z'])) =
      some (n * 10 ^ (9 - width), ['Z']) := by
  have numeral := Text.numeral_decimal hw hn
  have length := Text.length_decimal width n
  have whole : (Text.decimal width n).toList.take 9 = (Text.decimal width n).toList :=
    List.take_of_length_le (by omega)
  simp only [readFraction?, numeral.takeWhile (show Char.isDigit 'Z' = false from rfl), whole,
    numeral.value, length, Option.map_some, List.drop_left' length, Nat.pow_eq]

/-- A fraction of a second is read up to the zone. -/
theorem readFraction?_fractionText {n : Nat} (h : n < 1000000000) :
    readFraction? ((fractionText n).toList ++ ['Z']) = some (n, ['Z']) := by
  unfold fractionText
  split_ifs with none milli micro
  · subst none
    rfl
  · have read := @readFraction?_decimal 3 (n / 1000000) (by omega) (by omega) (by omega)
    simp [read]
    omega
  · have read := @readFraction?_decimal 6 (n / 1000) (by omega) (by omega) (by omega)
    simp [read]
    omega
  · have read := @readFraction?_decimal 9 n (by omega) (by omega) (by omega)
    simp [read]

/-- The zone at the end is universal time. -/
theorem readZone?_zulu : readZone? ['Z'] = some (0, []) := by
  decide

/-! ### Reading stamps -/

/-- A date and a time of the day in universal time, as they are written. -/
def stamp (date : Date) (hour minute second fraction : Nat) : List Char :=
  (yearText date.year).toList ++ '-' :: ((Text.decimal 2 date.month).toList ++ '-' ::
    ((Text.decimal 2 date.day).toList ++ 'T' :: ((Text.decimal 2 hour).toList ++ ':' ::
      ((Text.decimal 2 minute).toList ++ ':' :: ((Text.decimal 2 second).toList ++
        ((fractionText fraction).toList ++ ['Z']))))))

/-- The instant of a date and a time of the day. The second numbered 60 is a leap second, which
counts as a longer second 59. -/
def ofStamp (date : Date) (hour minute second fraction : Nat) : Instant :=
  ⟨date.dayNumber * 86400 +
      (hour * 3600 + minute * 60 + (if second = 60 then 59 else second : Nat)),
    if second = 60 then fraction + 1000000000 else fraction⟩

/-- Month and day of a date have at most two digits. -/
theorem lt_of_isValid {date : Date} (h : date.isValid = true) :
    date.month < 10 ^ 2 ∧ date.day < 10 ^ 2 := by
  have short : Date.daysInMonth date.year date.month ≤ 31 := by
    unfold Date.daysInMonth
    split_ifs <;> omega
  simp only [Date.isValid, Bool.and_eq_true, decide_eq_true_eq] at h
  omega

/-- A part that is read hands on what it is. -/
theorem bind_of_eq_some {α β : Type} {x : Option α} {a : α} (h : x = some a) (f : α → Option β) :
    (x >>= f) = f a := by
  rw [h]
  rfl

/-- A condition that holds lets the rest be read. -/
theorem guard_bind {α : Type} {p : Prop} [Decidable p] (h : p) (f : Unit → Option α) :
    (guard p >>= f) = f () := by
  simp [h]

/-- A stamp is read as its instant, if that lies within the years. -/
theorem ofText?_stamp {s : String} {date : Date} {hour minute second fraction : Nat}
    (hs : s.toList = stamp date hour minute second fraction) (valid : date.isValid = true)
    (years : firstYear ≤ date.year ∧ date.year ≤ lastYear)
    (clock : hour < 24 ∧ minute < 60 ∧ second ≤ 60) (hf : fraction < 1000000000)
    (inside : (ofStamp date hour minute second fraction).inYears = true) :
    ofText? s = some (ofStamp date hour minute second fraction) := by
  obtain ⟨hmonth, hday⟩ := lt_of_isValid valid
  have pair {n : Nat} (hn : n < 10 ^ 2) := readNumeral?_decimal (by omega : 0 < 2) hn
  have hyphen := readSign?_cons (show Text.isBlank '-' = false from rfl)
  have colon := readSign?_cons (show Text.isBlank ':' = false from rfl)
  have hhour : hour < 10 ^ 2 := by omega
  have hminute : minute < 10 ^ 2 := by omega
  have hsecond : second < 10 ^ 2 := by omega
  rw [ofText?, hs, stamp]
  refine (bind_of_eq_some (readYear?_yearText _ _) _).trans ?_
  refine (bind_of_eq_some (hyphen _) _).trans ?_
  refine (bind_of_eq_some (pair hmonth _) _).trans ?_
  refine (bind_of_eq_some (hyphen _) _).trans ?_
  refine (bind_of_eq_some (pair hday _) _).trans ?_
  refine (bind_of_eq_some rfl _).trans ?_
  refine (bind_of_eq_some (pair hhour _) _).trans ?_
  refine (bind_of_eq_some (colon _) _).trans ?_
  refine (bind_of_eq_some (pair hminute _) _).trans ?_
  refine (bind_of_eq_some (colon _) _).trans ?_
  refine (bind_of_eq_some (pair hsecond _) _).trans ?_
  refine (bind_of_eq_some (readFraction?_fractionText hf) _).trans ?_
  refine (bind_of_eq_some readZone?_zulu _).trans ?_
  refine (guard_bind (by simp [valid, years]) _).trans ?_
  refine (guard_bind (by simp [clock]) _).trans ?_
  rw [ofStamp] at inside ⊢
  dsimp only
  rw [Int.sub_zero]
  exact guard_bind inside _

/-! ### Instants -/

/-- An instant that a clock can show: it lies within the years, and its fraction within the second,
or within the leap second after the last one of a minute. -/
structure Shown (t : Instant) : Prop where
  /-- The years. -/
  years : t.inYears = true
  /-- The fraction. -/
  fraction : t.nanosecond < 1000000000 ∨ t.nanosecond < 2000000000 ∧ t.second % 60 = 59

/-- The date of an instant within the years is a date within the years. -/
theorem Shown.year {t : Instant} (h : t.Shown) :
    firstYear ≤ (Date.ofDayNumber (t.second / 86400)).year ∧
      (Date.ofDayNumber (t.second / 86400)).year ≤ lastYear := by
  have years := h.years
  simp only [inYears, Bool.and_eq_true, decide_eq_true_eq] at years
  constructor
  · rw [← Date.dayNumber_january_le_iff]
    omega
  · by_contra late
    have after : lastYear + 1 ≤ (Date.ofDayNumber (t.second / 86400)).year := by omega
    rw [← Date.dayNumber_january_le_iff] at after
    omega

/-- The text of an instant is the stamp of its date and its time of the day. -/
theorem exists_stamp {t : Instant} (h : t.Shown) :
    ∃ hour minute second fraction, (hour < 24 ∧ minute < 60 ∧ second ≤ 60) ∧
      fraction < 1000000000 ∧
      t.zuluText.toList = stamp (.ofDayNumber (t.second / 86400)) hour minute second fraction ∧
      ofStamp (.ofDayNumber (t.second / 86400)) hour minute second fraction = t := by
  obtain ⟨clock, hclock⟩ : ∃ clock : Nat, (t.second % 86400).toNat = clock := ⟨_, rfl⟩
  have number := (Date.ofDayNumber_spec (t.second / 86400)).2
  have fraction := h.fraction
  by_cases leap : 1000000000 ≤ t.nanosecond
  · refine ⟨clock / 3600, clock / 60 % 60, clock % 60 + 1, t.nanosecond - 1000000000,
      by omega, by omega, ?_, ?_⟩
    · simp [zuluText, text, stamp, hclock, leap]
    · have last : clock % 60 + 1 = 60 := by omega
      rw [ofStamp, number, if_pos last, if_pos last, Nat.sub_add_cancel leap]
      congr 1
      omega
  · refine ⟨clock / 3600, clock / 60 % 60, clock % 60, t.nanosecond, by omega, by omega, ?_, ?_⟩
    · simp [zuluText, text, stamp, hclock, leap]
    · have within : clock % 60 ≠ 60 := by omega
      rw [ofStamp, number, if_neg within, if_neg within]
      congr 1
      omega

/-- An instant is read back from its text. -/
theorem ofText?_zuluText {t : Instant} (h : t.Shown) : ofText? t.zuluText = some t := by
  obtain ⟨hour, minute, second, fraction, clock, hf, written, same⟩ := exists_stamp h
  have inside := h.years
  rw [← same] at inside
  rw [ofText?_stamp written (Date.ofDayNumber_spec _).1 h.year clock hf inside, same]

end Instant

end AlarmServer
