import ShardQuery.Calendar.Moment

namespace ShardQuery.Calendar

inductive HalfDay where
  | am
  | pm
deriving DecidableEq, Repr

namespace HalfDay

def hour? (half : Option HalfDay) (h : Nat) : Option Nat :=
  match half with
  | none => some h
  | some half =>
    if h < 1 ∨ 12 < h then none
    else match half with
      | am => some (h % 12)
      | pm => some (h % 12 + 12)

/-- The mark at the end of a text, and the text before it. -/
def split (cs : List Char) : Option HalfDay × List Char :=
  let mark := (cs.drop (cs.length - 3)).map Char.toLower
  let rest := cs.take (cs.length - 3)
  if mark = [' ', 'a', 'm'] then (some am, rest)
  else if mark = [' ', 'p', 'm'] then (some pm, rest)
  else (none, cs)

end HalfDay

/-- The digits of the hour, one or two before a colon, and what follows. -/
def splitHour? : List Char → Option (List Char × List Char)
  | a :: ':' :: rest => some ([a], rest)
  | a :: b :: ':' :: rest => some ([a, b], rest)
  | _ => none

def readSeconds? : List Char → Option (List Char × Nat)
  | [] => some (['0', '0'], 0)
  | [':', a, b] => some ([a, b], 0)
  | ':' :: a :: b :: '.' :: fraction =>
    if fraction ≠ [] ∧ fraction.all Char.isDigit then some ([a, b], Moment.nanosOf fraction)
    else none
  | _ => none

def readTime? (cs : List Char) : Option (Nat × Nat) := do
  let (half, cs) := HalfDay.split cs
  let (hour, rest) ← splitHour? cs
  match rest with
  | a :: b :: rest =>
    let (second, nanos) ← readSeconds? rest
    let h ← HalfDay.hour? half (← Decimal.toNat? hour)
    Moment.ofClock? (Decimal.ofNat h) [a, b] second nanos
  | _ => none

/-- A time of day as a count of a unit; a leap second counts as the one after it. -/
def readTimeCount? (u : TimeUnit) (cs : List Char) : Option Int :=
  (readTime? cs).map fun (second, nanos) =>
    (⟨second + nanos / 1000000000, nanos % 1000000000⟩ : Moment).count u

/-- The time of day of a moment as a count of a unit. -/
def clockOf (u : TimeUnit) (m : Moment) : Int :=
  (⟨Int.fmod m.seconds 86400, m.nanos⟩ : Moment).count u

/-- The text of a time of day, if the count lies within a day. -/
def clockText? (u : TimeUnit) (n : Int) : Option (List Char) :=
  let m := Moment.ofCount n u
  if 0 ≤ m.seconds ∧ m.seconds < 86400 then
    some (Moment.clockText m.seconds.toNat ++ Moment.fractionText m.nanos)
  else none

end ShardQuery.Calendar
