import ShardQuery.Decimal.Digits

namespace ShardQuery.Decimal

/--
The text of a decimal with all its fraction digits. Of more digits than the precision allows only
the first are written.
-/
def fixedText (precision : Nat) (scale : Int) (unscaled : Int) : List Char :=
  let kept := (ofNat unscaled.natAbs).take precision
  let places := scale.toNat
  let digits := List.replicate (places + 1 - kept.length) '0' ++ kept
  let whole := digits.take (digits.length - places)
  let sign := if unscaled < 0 then ['-'] else []
  if scale ≤ 0 then sign ++ digits ++ List.replicate scale.natAbs '0'
  else sign ++ whole ++ '.' :: digits.drop (digits.length - places)

def isWithin (precision : Nat) (unscaled : Int) : Bool := unscaled.natAbs < 10 ^ precision

/-- The quotient rounded to the nearest integer, a half away from zero. -/
def divHalfAway (i : Int) (den : Nat) : Int :=
  let q := (2 * i.natAbs + den) / (2 * den)
  if i < 0 then -(q : Int) else q

/-- The same number in units of another scale, rounded if digits are lost. -/
def rescale (unscaled : Int) (source target : Int) : Int :=
  if source ≤ target then unscaled * 10 ^ (target - source).toNat
  else divHalfAway unscaled (10 ^ (source - target).toNat)

def splitPoint (cs : List Char) : List Char × Option (List Char) :=
  match cs.dropWhile (· ≠ '.') with
  | [] => (cs, none)
  | _ :: fraction => (cs.takeWhile (· ≠ '.'), some fraction)

def splitSign : List Char → Bool × List Char
  | '-' :: cs => (true, cs)
  | '+' :: cs => (false, cs)
  | cs => (false, cs)

def withSign (negative : Bool) (n : Nat) : Int := if negative then -(n : Int) else n

def digitsValue? (cs : List Char) : Option Nat :=
  if cs.all Char.isDigit then some (Nat.ofDigitChars 10 cs 0) else none

/-- Digits of a fraction are counted in integers of 256 bits. -/
def fractionLimit : Nat := 2 ^ (255 : Nat)

/--
Reads a decimal text into units of a scale, rounding a half away from zero. Missing digits are
zeros, but without a scale a digit has to be there.
-/
def readRounded? (scale : Nat) (cs : List Char) : Option Int := do
  let (negative, body) := splitSign cs
  let (whole, point) := splitPoint body
  let fraction := point.getD []
  let w ← digitsValue? whole
  let f ← digitsValue? fraction
  if scale = 0 ∧ whole = [] ∧ fraction = [] then none
  else if scale + 77 ≤ fraction.length ∨ fractionLimit ≤ f then none
  else some (rescale (withSign negative (w * 10 ^ fraction.length + f)) fraction.length scale)

def significant (n : Nat) : Nat := if n = 0 then 0 else (ofNat n).length

/-- A field's integer as sixteen bytes hold it. -/
def wrapped (i : Int) : Int := Int.bmod i (2 ^ (128 : Nat))

/-- An exponent as two bytes hold it. -/
def wrappedExponent (i : Int) : Int := Int.bmod i 65536

/-- The exponent after its mark: whether it is negative, and its magnitude. -/
def readExponent? : List Char → Option (Bool × Int)
  | [] => none
  | '-' :: cs => (digitsValue? cs).map fun n => (true, wrappedExponent n)
  | '+' :: cs => (digitsValue? cs).map fun n => (false, wrappedExponent n)
  | cs => (digitsValue? cs).map fun n => (false, wrappedExponent n)

/-- The digits of a stored field, before and after the point; leading zeros do not count. -/
structure Mantissa where
  value : Nat
  digits : Nat
  fractionDigits : Nat

/--
The number of a mantissa with an exponent. Places that are lost are cut off, and a number of too
many places is refused; a small one is zero, unless it is not even written.
-/
def Mantissa.scaled? (m : Mantissa) (precision scale : Nat) (negative : Bool) (exponent : Int) :
    Option Int :=
  let digits : Int := m.digits
  if m.digits = 0 ∧ m.fractionDigits = 0 ∧ exponent = 0 then none
  else if negative ∧ 0 < wrappedExponent (exponent - (digits + scale)) then some 0
  else
    let e := if negative then wrappedExponent (-exponent) else exponent
    let shift := wrappedExponent (m.fractionDigits - e)
    let digits := if negative ∧ digits < shift then shift else digits
    let places := wrappedExponent (scale - shift)
    let total := wrappedExponent (digits + places)
    if total < 0 ∨ precision < total then none
    else if 0 ≤ places then some (wrapped (m.value * 10 ^ places.toNat))
    else some (Int.tdiv (wrapped m.value) (wrapped (10 ^ (-places).toNat)))

def isExponentMark (c : Char) : Bool := c = 'e' || c = 'E'

/--
Reads a stored decimal field: digits with an optional point. Fraction digits beyond the scale are
dropped; without a scale the point is passed over and its digits count as whole ones.
-/
def readField? (precision scale : Nat) (cs : List Char) : Option Int := do
  let (negative, body) := splitSign cs
  let (whole, point) := splitPoint (body.takeWhile fun c => !isExponentMark c)
  let w ← digitsValue? whole
  let f ← digitsValue? (point.getD [])
  let given := (point.getD []).length
  match body.dropWhile fun c => !isExponentMark c with
  | [] =>
    let kept := if scale = 0 then given else min given scale
    let n := w * 10 ^ kept + f / 10 ^ (given - kept)
    let digits := significant w + kept
    if whole = [] ∧ point = none ∨ point.isSome ∧ digits = 0 then none
    else if precision < (scale - kept) + digits then none
    else some (withSign negative (n * 10 ^ (scale - kept)))
  | _ :: exponent =>
    let (down, e) ← readExponent? exponent
    if point = some [] then none
    else
      let m : Mantissa := ⟨w * 10 ^ given + f, significant w + given, given⟩
      (m.scaled? precision scale down e).map fun i => if negative then wrapped (-i) else i

end ShardQuery.Decimal
