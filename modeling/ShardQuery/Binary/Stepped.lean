import ShardQuery.Binary.Shortest

namespace ShardQuery.Binary

/-- How the two grids are chosen and used. -/
structure Steps where
  /-- How many powers of ten the fine grid is coarser than the unit. -/
  fine : Nat
  /-- The point of the fine grid that is taken halfway between two of them. -/
  tie : Tie
  /-- The greatest exponent for which the lower end of an even number's neighbourhood is in it. -/
  lowUpTo : Option Int

def singleSteps : Steps := ⟨1, .upper, none⟩

def doubleSteps : Steps := ⟨2, .even, some 9⟩

namespace Steps

/-- The unit in which the spacing lies between a step of the fine and one of the coarse grid. -/
def unit (s : Steps) (exponent : Int) : Int :=
  (if 0 ≤ exponent then digitsBefore (2 ^ exponent.toNat) 1
    else digitsBefore 1 (2 ^ (-exponent).toNat)) - 1 - s.fine

/-- The greatest point of the coarse grid up to the neighbourhood's upper end, if it lies in it. -/
def coarse? (s : Steps) (n : Neighbourhood) (exponent : Int) : Option Decimal :=
  let place := s.unit exponent + s.fine + 1
  let low := inTens n.low n.den place
  let high := inTens n.high n.den place
  let c := high.1 / high.2
  let atLow := low.1 = c * low.2 ∧ n.closed ∧ s.lowUpTo.any (exponent ≤ ·)
  if (low.1 < c * low.2 ∨ atLow) ∧ (n.closed ∨ high.1 ≠ c * high.2) then some ⟨c, place⟩
  else none

def nearest (s : Steps) (n : Neighbourhood) (exponent : Int) : Decimal :=
  let place := s.unit exponent + s.fine
  let v := inTens n.value n.den place
  ⟨s.tie.choose (v.1 / v.2) (v.1 % v.2) v.2, place⟩

def digits (s : Steps) (f : Format) (mantissa : Nat) (exponent : Int) : Decimal :=
  if mantissa = 2 ^ f.fractionBits then f.shortest .even mantissa exponent
  else
    let n := f.neighbourhood mantissa exponent
    match s.coarse? n exponent with
    | some d => d.trimmed 20
    | none => s.nearest n exponent

end Steps

end ShardQuery.Binary
