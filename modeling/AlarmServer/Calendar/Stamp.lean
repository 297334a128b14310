import AlarmServer.Calendar.Instant
import AlarmServer.Text.Blank

/-!
# Written times

An instant is written as date, `T`, time and zone, with no fraction or with three, six or nine
digits of one, whichever is the shortest that loses nothing. Reading is more generous: the separator
may be a space, numbers may be short, white space may stand around them, the fraction may have any
length, and the zone may be `Z`, `UTC` or an offset. The years of what is read are bounded, both in
the zone it is written for and in universal time.
-/

namespace AlarmServer.Instant

/-- A year: four digits, or a sign and at least five places. -/
def yearText (y : Int) : String :=
  if 0 ≤ y ∧ y ≤ 9999 then Text.decimal 4 y.toNat
  else if y < 0 then "-" ++ Text.decimalAtLeast 4 y.natAbs
  else "+" ++ Text.decimalAtLeast 4 y.natAbs

/-- A fraction of a second: as many groups of three digits as it needs. -/
def fractionText (n : Nat) : String :=
  if n = 0 then ""
  else if n % 1000000 = 0 then "." ++ Text.decimal 3 (n / 1000000)
  else if n % 1000 = 0 then "." ++ Text.decimal 6 (n / 1000)
  else "." ++ Text.decimal 9 n

/-- The instant in universal time, followed by the given name of the zone. -/
def text (t : Instant) (zone : String) : String :=
  let date := Date.ofDayNumber (t.second / 86400)
  let clock := (t.second % 86400).toNat
  let leap := 1000000000 ≤ t.nanosecond
  let second := clock % 60 + if leap then 1 else 0
  let fraction := if leap then t.nanosecond - 1000000000 else t.nanosecond
  yearText date.year ++ "-" ++ Text.decimal 2 date.month ++ "-" ++ Text.decimal 2 date.day ++ "T" ++
    Text.decimal 2 (clock / 3600) ++ ":" ++ Text.decimal 2 (clock / 60 % 60) ++ ":" ++
    Text.decimal 2 second ++ fractionText fraction ++ zone

/-- The text with the zone as an offset. -/
def offsetText (t : Instant) : String := t.text "+00:00"

/-- The text with the zone as a letter. -/
def zuluText (t : Instant) : String := t.text "Z"

/-! ### Reading -/

/-- A numeral of one to `width` digits after white space, and the rest. -/
def readNumeral? (width : Nat) (cs : List Char) : Option (Nat × List Char) :=
  let cs := Text.trimStart cs
  let digits := (cs.take width).takeWhile Char.isDigit
  (Text.natOfDigits? 10 digits).map fun n => (n, cs.drop digits.length)

/-- A year: up to four digits, or a sign and any number of digits. -/
def readYear? (cs : List Char) : Option (Int × List Char) :=
  match Text.trimStart cs with
  | '-' :: rest => signed rest fun n => -n
  | '+' :: rest => signed rest fun n => n
  | rest => (readNumeral? 4 rest).map fun r => (r.1, r.2)
where
  /-- All digits at the front. -/
  signed (cs : List Char) (sign : Int → Int) : Option (Int × List Char) :=
    let digits := cs.takeWhile Char.isDigit
    (Text.natOfDigits? 10 digits).map fun n => (sign n, cs.drop digits.length)

/-- The character `c` after white space, and the rest. -/
def readSign? (c : Char) (cs : List Char) : Option (List Char) :=
  match Text.trimStart cs with
  | [] => none
  | c' :: rest => if c' = c then some rest else none

/-- A fraction of a second in nanoseconds; digits past the ninth are dropped. -/
def readFraction? : List Char → Option (Nat × List Char)
  | '.' :: cs =>
    let digits := cs.takeWhile Char.isDigit
    (Text.natOfDigits? 10 (digits.take 9)).map fun n =>
      (n * Nat.pow 10 (9 - (digits.take 9).length), cs.drop digits.length)
  | cs => some (0, cs)

/-- Two digits, and the rest. -/
def readPair? : List Char → Option (Nat × List Char)
  | a :: b :: cs => (Text.natOfDigits? 10 [a, b]).map fun n => (n, cs)
  | _ => none

/-- A zone, as seconds east of universal time, and the rest. -/
def readZone? (cs : List Char) : Option (Int × List Char) := do
  let cs := Text.trimStart cs
  if (cs.take 3).map Char.toUpper = ['U', 'T', 'C'] then return (0, cs.drop 3)
  match cs with
  | 'Z' :: rest => return (0, rest)
  | 'z' :: rest => return (0, rest)
  | sign :: rest =>
    guard (sign = '+' || sign = '-' || sign = '−')
    let (hours, rest) ← readPair? rest
    let (minutes, rest) ← readPair? (rest.dropWhile fun c => c = ':' || Text.isBlank c)
    guard (minutes < 60 && hours < 24)
    let offset : Int := hours * 3600 + minutes * 60
    return (if sign = '+' then offset else -offset, rest)
  | [] => failure

/-- The first year that is read. -/
def firstYear : Int := -262143

/-- The last year that is read. -/
def lastYear : Int := 262142

/-- Is the instant between the first second of the first year and the end of the last? -/
def inYears (t : Instant) : Bool :=
  (⟨firstYear, 1, 1⟩ : Date).dayNumber * 86400 ≤ t.second &&
    t.second < (⟨lastYear + 1, 1, 1⟩ : Date).dayNumber * 86400

/-- The instant that a text names, if it names one. -/
def ofText? (s : String) : Option Instant := do
  let (year, cs) ← readYear? s.toList
  let (month, cs) ← readNumeral? 2 (← readSign? '-' cs)
  let (day, cs) ← readNumeral? 2 (← readSign? '-' cs)
  let cs ← match cs with
    | 'T' :: cs => some cs
    | 't' :: cs => some cs
    | ' ' :: cs => some cs
    | _ => none
  let (hour, cs) ← readNumeral? 2 cs
  let (minute, cs) ← readNumeral? 2 (← readSign? ':' cs)
  let (second, cs) ← readNumeral? 2 (← readSign? ':' cs)
  let (nano, cs) ← readFraction? cs
  let (offset, cs) ← readZone? cs
  let date : Date := ⟨year, month, day⟩
  guard (cs.all Text.isBlank && date.isValid && firstYear ≤ year && year ≤ lastYear)
  guard (hour < 24 && minute < 60 && second ≤ 60)
  let leap := second = 60
  let inDay : Int := hour * 3600 + minute * 60 + if leap then 59 else second
  let second := date.dayNumber * 86400 + inDay - offset
  let instant : Instant := ⟨second, if leap then nano + 1000000000 else nano⟩
  guard instant.inYears
  return instant

end AlarmServer.Instant
