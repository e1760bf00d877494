import ShardQuery.Calendar.Date
import ShardQuery.Text.Blank

namespace ShardQuery.Calendar

inductive TimeUnit where
  | second
  | millisecond
  | microsecond
  | nanosecond
deriving DecidableEq, Repr

namespace TimeUnit

def all : List TimeUnit := [second, millisecond, microsecond, nanosecond]

def perSecond : TimeUnit → Nat
  | second => 1
  | millisecond => 1000
  | microsecond => 1000000
  | nanosecond => 1000000000

def name : TimeUnit → String
  | second => "Second"
  | millisecond => "Millisecond"
  | microsecond => "Microsecond"
  | nanosecond => "Nanosecond"

def symbol : TimeUnit → String
  | second => "s"
  | millisecond => "ms"
  | microsecond => "us"
  | nanosecond => "ns"

end TimeUnit

/-- A moment: seconds, and nanoseconds after them, a billion or more in a leap second. -/
structure Moment where
  seconds : Int
  nanos : Nat
deriving DecidableEq, Repr

namespace Moment

def count (m : Moment) (u : TimeUnit) : Int :=
  match u with
  | .second => m.seconds
  | u => m.seconds * u.perSecond + (m.nanos / (1000000000 / u.perSecond) : Nat)

def ofCount (n : Int) (u : TimeUnit) : Moment :=
  let per : Int := u.perSecond
  ⟨Int.fdiv n per, (Int.fmod n per).toNat * (1000000000 / u.perSecond)⟩

def day (m : Moment) : Int := Int.fdiv m.seconds 86400

/-- A fraction of a second with three, six or nine digits, none for a whole second. -/
def fractionText (nanos : Nat) : List Char :=
  if nanos = 0 then []
  else if nanos % 1000000 = 0 then '.' :: Decimal.padded 3 (nanos / 1000000)
  else if nanos % 1000 = 0 then '.' :: Decimal.padded 6 (nanos / 1000)
  else '.' :: Decimal.padded 9 nanos

def clockText (secondOfDay : Nat) : List Char :=
  Decimal.padded 2 (secondOfDay / 3600) ++ ':' :: Decimal.padded 2 (secondOfDay / 60 % 60) ++
    ':' :: Decimal.padded 2 (secondOfDay % 60)

/-- The text `YYYY-MM-DDTHH:MM:SS` with a fraction if there is one. -/
def text (m : Moment) : List Char :=
  (Date.ofDays m.day).text ++ 'T' :: clockText (Int.fmod m.seconds 86400).toNat ++
    fractionText m.nanos

/-- A time of day: the second of the day and nanoseconds; a sixtieth second is a leap second. -/
def ofClock? (hour minute second : List Char) (nanos : Nat) : Option (Nat × Nat) := do
  let h ← Decimal.toNat? hour
  let m ← Decimal.toNat? minute
  let s ← Decimal.toNat? second
  if 23 < h ∨ 59 < m ∨ 60 < s then none
  else if s = 60 then some (h * 3600 + m * 60 + 59, 1000000000 + nanos)
  else some (h * 3600 + m * 60 + s, nanos)

/-- The nanoseconds that fraction digits write; from the tenth on they are dropped. -/
def nanosOf (digits : List Char) : Nat :=
  let kept := digits.take 9
  Nat.ofDigitChars 10 kept 0 * 10 ^ (9 - kept.length)

/-- Reads `HH:MM:SS` with an optional fraction, or six digits; gives what follows. -/
def readClock? : List Char → Option ((Nat × Nat) × List Char)
  | a :: b :: ':' :: c :: d :: ':' :: e :: f :: '.' :: rest =>
    let digits := rest.takeWhile Char.isDigit
    if digits = [] then none
    else (ofClock? [a, b] [c, d] [e, f] (nanosOf digits)).map (·, rest.dropWhile Char.isDigit)
  | a :: b :: ':' :: c :: d :: ':' :: e :: f :: rest =>
    (ofClock? [a, b] [c, d] [e, f] 0).map (·, rest)
  | a :: b :: c :: d :: e :: f :: rest =>
    if rest.head?.any Char.isDigit || (rest.drop 1).head?.any Char.isDigit then none
    else (ofClock? [a, b] [c, d] [e, f] 0).map (·, rest)
  | _ => none

/-- Reads an offset from universal time in seconds: a sign and two or four digits. -/
def readOffset? (cs : List Char) : Option Int := do
  let (sign, a, b, c, d) ← match cs with
    | [s, a, b, ':', c, d] => some (s, a, b, c, d)
    | [s, a, b, c, d] => some (s, a, b, c, d)
    | [s, a, b] => some (s, a, b, '0', '0')
    | _ => none
  let hours ← Decimal.toNat? [a, b]
  let minutes ← Decimal.toNat? [c, d]
  let seconds : Int := hours * 3600 + minutes * 60
  if 86400 ≤ seconds then none
  else if sign = '+' then some seconds
  else if sign = '-' then some (-seconds)
  else none

/-- What follows the time of day: nothing, where a given offset holds, a mark for universal time, or
an offset. -/
def readZone? (offset : Int) : List Char → Option Int
  | [] => some offset
  | ['Z'] => some 0
  | ['z'] => some 0
  | cs => readOffset? (Text.trimStart cs)

/--
Reads a date, or a date and a time of day, as universal time. One without an offset of its own is
read at a given one.
-/
def readAt? (offset : Int) (cs : List Char) : Option Moment := do
  let date ← Date.readExact? (cs.take 10)
  let midnight := date.toDays * 86400
  match cs.drop 10 with
  | [] => some ⟨midnight - offset, 0⟩
  | c :: rest =>
    if c = 'T' ∨ c = 't' ∨ c = ' ' then do
      let ((second, nanos), zone) ← readClock? rest
      let offset ← readZone? offset zone
      some ⟨midnight + second - offset, nanos⟩
    else none

def read? (cs : List Char) : Option Moment := readAt? 0 cs

/-- The moment as clocks show it at an offset from universal time. -/
def shifted (m : Moment) (offset : Int) : Moment := ⟨m.seconds + offset, m.nanos⟩

/-- An offset by its sign, hours and minutes, that of universal time by its mark. -/
def offsetText (offset : Int) : List Char :=
  let minutes := offset.natAbs / 60
  if offset = 0 then ['Z']
  else (if offset < 0 then '-' else '+') :: Decimal.padded 2 (minutes / 60) ++
    ':' :: Decimal.padded 2 (minutes % 60)

end Moment

/-- Reads the day of a date in any of its forms, or of a date with a time. -/
def readDay? (cs : List Char) : Option Int :=
  if Date.isLong cs then (Moment.read? cs).map Moment.day else (Date.readShort? cs).map Date.toDays

/-- A span of time: seconds without zeros at the end of their fraction, after `PT`. -/
def spanText (n : Int) (u : TimeUnit) : List Char :=
  let per := u.perSecond
  let whole := n.natAbs / per
  let nanos := n.natAbs % per * (1000000000 / per)
  let sign := if n < 0 then ['-'] else []
  if n = 0 then ['P', '0', 'D']
  else
    let fraction := if nanos = 0 then []
      else '.' :: ((Decimal.padded 9 nanos).reverse.dropWhile (· = '0')).reverse
    sign ++ 'P' :: 'T' :: Decimal.ofNat whole ++ fraction ++ ['S']

end ShardQuery.Calendar
