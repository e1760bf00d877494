import ShardQuery.Binary.Format
import ShardQuery.Decimal.Digits

namespace ShardQuery.Binary

/-- A decimal number: an integer times a power of ten. -/
structure Decimal where
  coefficient : Nat
  exponent : Int
deriving DecidableEq, Repr

/-- The reals that round to a positive number, over one denominator, with the number itself. -/
structure Neighbourhood where
  low : Nat
  value : Nat
  high : Nat
  den : Nat
  closed : Bool

/-- The neighbourhood of a positive finite number. -/
def Format.neighbourhood (f : Format) (mantissa : Nat) (exponent : Int) : Neighbourhood :=
  let below := if mantissa = 2 ^ f.fractionBits ∧ f.minExponent < exponent then 1 else 2
  let e := exponent - 2
  let up := if 0 ≤ e then 2 ^ e.toNat else 1
  let den := if 0 ≤ e then 1 else 2 ^ (-e).toNat
  ⟨(4 * mantissa - below) * up, 4 * mantissa * up, (4 * mantissa + 2) * up, den,
    mantissa % 2 = 0⟩

/-- The fraction `num / den` in units of a power of ten, as a fraction again. -/
def inTens (num den : Nat) (exponent : Int) : Nat × Nat :=
  if 0 ≤ exponent then (num, den * 10 ^ exponent.toNat) else (num * 10 ^ (-exponent).toNat, den)

/-- The least number of digits before the point, negative for a small fraction. -/
def digitsBefore (num den : Nat) : Int :=
  if den ≤ num then (Decimal.ofNat (num / den)).length
  else
    let t := (Decimal.ofNat (den / num)).length
    if den ≤ num * 10 ^ (t - 1) then 2 - (t : Int) else 1 - (t : Int)

/-- Which of two neighbours is taken when the number lies halfway between them. -/
inductive Tie where
  | upper
  | even
deriving DecidableEq, Repr

/-- The lower neighbour or the one above it, given what the number exceeds the lower one by. -/
def Tie.choose (tie : Tie) (lower excess den : Nat) : Nat :=
  if 2 * excess < den then lower
  else if 2 * excess = den ∧ tie = even then lower + lower % 2
  else lower + 1

namespace Neighbourhood

def contains (n : Neighbourhood) (coefficient : Nat) (exponent : Int) : Bool :=
  let low := inTens n.low n.den exponent
  let high := inTens n.high n.den exponent
  if n.closed then low.1 ≤ coefficient * low.2 && coefficient * high.2 ≤ high.1
  else low.1 < coefficient * low.2 && coefficient * high.2 < high.1

/-- The point of the grid of a power of ten that is nearest to the number, if one rounds to it. -/
def onGrid? (n : Neighbourhood) (tie : Tie) (exponent : Int) : Option Nat :=
  let v := inTens n.value n.den exponent
  let c := v.1 / v.2
  match n.contains c exponent, n.contains (c + 1) exponent with
  | true, true => some (tie.choose c (v.1 % v.2) v.2)
  | true, false => some c
  | false, true => some (c + 1)
  | false, false => none

/-- The first grid with a hit, from `place` digits after the leading one on. -/
def search (n : Neighbourhood) (tie : Tie) (top : Int) : Nat → Nat → Decimal
  | 0, _ => ⟨0, 0⟩
  | fuel + 1, place =>
    match n.onGrid? tie (top - place) with
    | some c => ⟨c, top - place⟩
    | none => search n tie top fuel (place + 1)

end Neighbourhood

def Decimal.trimmed (d : Decimal) : Nat → Decimal
  | 0 => d
  | fuel + 1 =>
    if d.coefficient ≠ 0 ∧ d.coefficient % 10 = 0 then
      Decimal.trimmed ⟨d.coefficient / 10, d.exponent + 1⟩ fuel
    else d

/-- The shortest decimal that rounds to a positive finite number; twenty digits always do. -/
def Format.shortest (f : Format) (tie : Tie) (mantissa : Nat) (exponent : Int) : Decimal :=
  let n := f.neighbourhood mantissa exponent
  ((n.search tie (digitsBefore n.value n.den) 20 1)).trimmed 20

end ShardQuery.Binary
