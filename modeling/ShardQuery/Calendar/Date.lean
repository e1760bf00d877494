import ShardQuery.Decimal.Digits

namespace ShardQuery.Calendar

structure Date where
  year : Int
  month : Nat
  day : Nat
deriving DecidableEq, Repr

def isLeapYear (y : Int) : Bool := y % 4 = 0 && (y % 100 ≠ 0 || y % 400 = 0)

def daysInMonth (y : Int) (m : Nat) : Nat :=
  if m = 2 then (if isLeapYear y then 29 else 28)
  else if m = 4 ∨ m = 6 ∨ m = 9 ∨ m = 11 then 30 else 31

namespace Date

def isValid (d : Date) : Bool :=
  1 ≤ d.month && d.month ≤ 12 && 1 ≤ d.day && d.day ≤ daysInMonth d.year d.month

/-- The number of a day; years are counted from March so that a leap day comes last. -/
def toDays (d : Date) : Int :=
  let y := if d.month ≤ 2 then d.year - 1 else d.year
  let era := Int.fdiv y 400
  let yearOfEra := y - era * 400
  let monthFromMarch : Nat := (d.month + 9) % 12
  let dayOfYear : Int := (153 * monthFromMarch + 2) / 5 + d.day - 1
  era * 146097 + (yearOfEra * 365 + yearOfEra / 4 - yearOfEra / 100 + dayOfYear) - 719468

def ofDays (n : Int) : Date :=
  let z := n + 719468
  let era := Int.fdiv z 146097
  let dayOfEra := z - era * 146097
  let yearOfEra := (dayOfEra - dayOfEra / 1460 + dayOfEra / 36524 - dayOfEra / 146096) / 365
  let dayOfYear := dayOfEra - (365 * yearOfEra + yearOfEra / 4 - yearOfEra / 100)
  let monthFromMarch := (5 * dayOfYear + 2) / 153
  let day := dayOfYear - (153 * monthFromMarch + 2) / 5 + 1
  let month := if monthFromMarch < 10 then monthFromMarch + 3 else monthFromMarch - 9
  ⟨era * 400 + yearOfEra + (if month ≤ 2 then 1 else 0), month.toNat, day.toNat⟩

/-- Four digits of the year, or more after a sign, then month and day. -/
def text (d : Date) : List Char :=
  let year :=
    if 0 ≤ d.year ∧ d.year ≤ 9999 then Decimal.padded 4 d.year.toNat
    else (if d.year < 0 then '-' else '+') :: Decimal.padded 4 d.year.natAbs
  year ++ '-' :: Decimal.padded 2 d.month ++ '-' :: Decimal.padded 2 d.day

def ofParts? (year month day : List Char) : Option Date := do
  let y ← Decimal.toNat? year
  let m ← Decimal.toNat? month
  let d ← Decimal.toNat? day
  let date : Date := ⟨y, m, d⟩
  if date.isValid then some date else none

/-- Reads `YYYY-MM-DD` and nothing else. -/
def readExact? : List Char → Option Date
  | [a, b, c, d, '-', e, f, '-', g, h] => ofParts? [a, b, c, d] [e, f] [g, h]
  | _ => none

def isShortNumber (digits : List Char) : Bool := digits.length = 1 || digits.length = 2

/--
Reads a date whose month and day may have one digit, or eight digits without hyphens. What follows
the day is passed over if it holds no digit.
-/
def readShort? : List Char → Option Date
  | a :: b :: c :: d :: '-' :: rest =>
    let month := rest.takeWhile Char.isDigit
    match rest.dropWhile Char.isDigit with
    | '-' :: rest =>
      let day := rest.takeWhile Char.isDigit
      if isShortNumber month ∧ isShortNumber day ∧
          (rest.dropWhile Char.isDigit).all (!·.isDigit) then
        ofParts? [a, b, c, d] month day
      else none
    | _ => none
  | [a, b, c, d, e, f, g, h] => ofParts? [a, b, c, d] [e, f] [g, h]
  | _ => none

def shortBytes : Nat := 10

def isLong (cs : List Char) : Bool := shortBytes < (String.ofList cs).utf8ByteSize

/-- Whether a day lies in the years -262143 to 262142, beyond which no date is shown. -/
def isShown (n : Int) : Bool := -96465292 ≤ n && n ≤ 95026236

end Date

end ShardQuery.Calendar
