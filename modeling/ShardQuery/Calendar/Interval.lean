import ShardQuery.Decimal.Digits
import ShardQuery.Text.Blank

namespace ShardQuery.Calendar

/-- What a column of intervals keeps of them. -/
inductive IntervalUnit where
  | yearMonth
  | dayTime
  | monthDayNano
deriving DecidableEq, Repr

/-- A length of time by the calendar: months and days are not all of one length. -/
structure Interval where
  months : Int
  days : Int
  nanos : Int
deriving DecidableEq, Repr

namespace Interval

def fitsBits (bits : Nat) (i : Int) : Bool := -(2 ^ (bits - 1)) ≤ i && i < 2 ^ (bits - 1)

/-- Whether the months and days have four bytes, and the nanoseconds eight. -/
def isHeld (x : Interval) : Bool :=
  fitsBits 32 x.months && fitsBits 32 x.days && fitsBits 64 x.nanos

def checked (x : Interval) : Option Interval := if x.isHeld then some x else none

def add (x y : Interval) : Interval := ⟨x.months + y.months, x.days + y.days, x.nanos + y.nanos⟩

def scaled (x : Interval) (num : Int) (den : Nat) : Interval :=
  ⟨Int.tdiv (num * x.months) den, Int.tdiv (num * x.days) den, Int.tdiv (num * x.nanos) den⟩

/-- A unit in which lengths of time are written. -/
structure Measure where
  names : List String
  /-- How long one of it is. -/
  whole : Interval
  /-- What it is taken to be where only a fraction of it is given. -/
  broken : Interval
deriving DecidableEq, Repr

def secondNanos : Int := 1000000000

def ofMonths (names : List String) (n : Int) : Measure := ⟨names, ⟨n, 0, 0⟩, ⟨n, 0, 0⟩⟩

def ofDays (names : List String) (n : Int) : Measure :=
  ⟨names, ⟨0, n, 0⟩, ⟨0, 0, n * 86400 * secondNanos⟩⟩

def ofNanos (names : List String) (n : Int) : Measure := ⟨names, ⟨0, 0, n⟩, ⟨0, 0, n⟩⟩

def year : Measure := ofMonths ["y", "yr", "yrs", "year", "years"] 12

def month : Measure := ⟨["mon", "mons", "month", "months"], ⟨1, 0, 0⟩, ⟨0, 30, 0⟩⟩

def day : Measure := ofDays ["d", "day", "days"] 1

def units : List Measure :=
  [ofMonths ["c", "cent", "cents", "century", "centuries"] 1200,
   ofMonths ["dec", "decs", "decade", "decades"] 120, year, month,
   ofDays ["w", "week", "weeks"] 7, day,
   ofNanos ["h", "hr", "hrs", "hour", "hours"] (3600 * secondNanos),
   ofNanos ["m", "min", "mins", "minute", "minutes"] (60 * secondNanos),
   ofNanos ["s", "sec", "secs", "second", "seconds"] secondNanos,
   ofNanos ["ms", "msec", "msecs", "msecond", "mseconds", "millisecond", "milliseconds"] 1000000,
   ofNanos ["us", "usec", "usecs", "usecond", "useconds", "microsecond", "microseconds"] 1000,
   ofNanos ["nanosecond", "nanoseconds"] 1]

/-- The unit of a name in any case. Beside the ASCII letters only the Kelvin sign has a small form
that stands in a name. -/
def Measure.ofName? (cs : List Char) : Option Measure :=
  let name := String.ofList (cs.map fun c => if c.toNat = 0x212a then 'k' else c.toLower)
  units.find? (·.names.contains name)

/-- The unit of an amount without one. -/
def implied : IntervalUnit → Measure
  | .yearMonth => year
  | .dayTime => day
  | .monthDayNano => month

def isAmount (c : Char) : Bool := c.isDigit || c = '.' || c = '-'

/-- Words between white space; there is an empty one between two blanks. -/
def words : List Char → List (List Char)
  | [] => [[]]
  | c :: cs =>
    if Text.isBlank c then [] :: words cs
    else match words cs with
      | w :: ws => (c :: w) :: ws
      | [] => [[c]]

/-- Amounts with the names of their units, which may follow at once or as a word of their own. -/
def split : List (List Char) → List (List Char × Option (List Char))
  | [] => []
  | w :: ws =>
    match w.dropWhile isAmount, ws with
    | [], [] => [(w, none)]
    | [], name :: ws => (w, some name) :: split ws
    | name, ws => (w.takeWhile isAmount, some name) :: split ws

/-- The digits after the point of an amount. -/
def places : Nat := 15

/-- An amount: an integer, and a fraction in units of its last place. -/
def amount? (cs : List Char) : Option (Int × Int) := do
  let whole (cs : List Char) : Option Int := (Decimal.toInt? cs).filter (fitsBits 64)
  match cs.dropWhile (· ≠ '.') with
  | [] => some (← whole cs, 0)
  | _ :: digits =>
    let before := cs.takeWhile (· ≠ '.')
    let i ← if before = [] ∨ before = ['-'] then some 0 else whole before
    let f ← if digits.length ≤ places then Decimal.toNat? digits else none
    let fraction : Int := f * 10 ^ (places - digits.length)
    some (i, if before.head? = some '-' then -fraction else fraction)

/-- One length after another is added; each, and each sum, has to be held. -/
def total? (parts : List ((Int × Int) × Measure)) : Option Interval :=
  parts.foldlM (fun sum ((i, f), unit) => do
    let part ← ((unit.whole.scaled i 1).add (unit.broken.scaled f (10 ^ places))).checked
    (sum.add part).checked) ⟨0, 0, 0⟩

/-- Reads amounts of units of which none comes twice. -/
def read? (default : Measure) (cs : List Char) : Option Interval := do
  let parts ← (split (words cs)).mapM fun (amount, name) => do
    let a ← amount? amount
    let unit ← name.elim (some default) Measure.ofName?
    some (a, unit)
  if (parts.map Prod.snd).Nodup then total? parts else none

/--
The number by which a column holds an interval, if it can. Of two intervals the one that has more of
the greatest part in which they differ has the greater number.
-/
def count? (x : Interval) : IntervalUnit → Option Int
  | .yearMonth => if x.days = 0 ∧ x.nanos = 0 then some x.months else none
  | .dayTime =>
    let days := x.months * 30 + x.days
    let millis := x.nanos / 1000000
    if fitsBits 32 (x.months * 30) ∧ fitsBits 32 days ∧ x.nanos % 1000000 = 0 ∧ fitsBits 32 millis
    then some (days * 2 ^ (32 : Nat) + millis)
    else none
  | .monthDayNano => some ((x.months * 2 ^ (32 : Nat) + x.days) * 2 ^ (64 : Nat) + x.nanos)

def isNumber : IntervalUnit → Int → Bool
  | .yearMonth, i => fitsBits 32 i
  | .dayTime, i => fitsBits 64 (i + 2 ^ (31 : Nat))
  | .monthDayNano, i => fitsBits 128 (i + 2 ^ (95 : Nat) + 2 ^ (63 : Nat))

theorem isHeld_iff {x : Interval} : x.isHeld = true ↔
    (-2147483648 ≤ x.months ∧ x.months < 2147483648) ∧
      (-2147483648 ≤ x.days ∧ x.days < 2147483648) ∧
      -9223372036854775808 ≤ x.nanos ∧ x.nanos < 9223372036854775808 := by
  simp [isHeld, fitsBits, and_assoc]

theorem isNumber_of_count? {x : Interval} (hx : x.isHeld = true) (h : x.count? u = some i) :
    isNumber u i = true := by
  obtain ⟨hmonths, hdays, hnanos⟩ := isHeld_iff.1 hx
  cases u with
  | yearMonth =>
    simp only [count?, Option.ite_none_right_eq_some, Option.some.injEq] at h
    obtain ⟨-, rfl⟩ := h
    simpa [isNumber, fitsBits] using hmonths
  | dayTime =>
    dsimp only [count?] at h
    split at h
    · next hfits =>
      cases h
      simp only [isNumber, fitsBits, Bool.and_eq_true, decide_eq_true_eq] at hfits ⊢
      omega
    · cases h
  | monthDayNano =>
    simp only [count?, Option.some.injEq] at h
    subst h
    simp only [isNumber, fitsBits, Bool.and_eq_true, decide_eq_true_eq]
    omega

/-- The numbers stand as the parts do, the greatest first. -/
theorem count?_lt_iff {x y : Interval} (hx : x.isHeld = true) (hy : y.isHeld = true)
    (hi : x.count? .monthDayNano = some i) (hj : y.count? .monthDayNano = some j) :
    i < j ↔ x.months < y.months ∨ x.months = y.months ∧
      (x.days < y.days ∨ x.days = y.days ∧ x.nanos < y.nanos) := by
  obtain ⟨-, hdays, hnanos⟩ := isHeld_iff.1 hx
  obtain ⟨-, hdays', hnanos'⟩ := isHeld_iff.1 hy
  obtain rfl := Option.some.inj hi
  obtain rfl := Option.some.inj hj
  omega

end Interval

/-- The number of the interval that a text writes. -/
def readInterval? (u : IntervalUnit) (cs : List Char) : Option Int :=
  (Interval.read? (Interval.implied u) cs).bind (·.count? u)

end ShardQuery.Calendar
