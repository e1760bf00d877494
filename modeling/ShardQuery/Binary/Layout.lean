import ShardQuery.Binary.Stepped

namespace ShardQuery.Binary

/-- How the digits of a number are set out. -/
structure Layout where
  /-- The point is written in its place if it stands after more than this many digits, -/
  low : Option Int
  /-- and after at most this many; otherwise an exponent is written. -/
  high : Option Int
  /-- Whether a whole number gets a fraction digit, -/
  wholeDigit : Bool
  /-- and whether one digit before an exponent does. -/
  exponentDigit : Bool
  nan : String
  infinity : String
  negativeInfinity : String
  /-- The digits of a positive number. -/
  digits : Format → Nat → Int → Decimal

/-- Never an exponent, and no fraction digit for a whole number. -/
def plainLayout : Layout :=
  ⟨none, none, false, false, "NaN", "inf", "-inf", (Format.shortest · .upper)⟩

def doubleLayout : Layout :=
  ⟨some (-5), some 16, true, false, "NaN", "inf", "-inf", (Format.shortest · .even)⟩

def singleLayout : Layout :=
  ⟨some (-6), some 13, true, false, "NaN", "inf", "-inf", (Format.shortest · .even)⟩

/-- The layout of numbers in JSON rows, which have no word for what is not finite. -/
def jsonLayout : Layout :=
  ⟨some (-5), some 10, true, true, "null", "null", "null", doubleSteps.digits⟩

def jsonSingleLayout : Layout := { jsonLayout with digits := singleSteps.digits }

namespace Layout

/-- The digits with a point after the first `point` of them. -/
def positional (l : Layout) (digits : List Char) (point : Int) : List Char :=
  if point ≤ 0 then ['0', '.'] ++ List.replicate (-point).toNat '0' ++ digits
  else if (digits.length : Int) ≤ point then
    digits ++ List.replicate (point.toNat - digits.length) '0' ++
      (if l.wholeDigit then ['.', '0'] else [])
  else digits.take point.toNat ++ '.' :: digits.drop point.toNat

/-- One digit, the point, the other digits and the exponent. -/
def scientific (l : Layout) (digits : List Char) (point : Int) : List Char :=
  let fraction := match digits.drop 1 with
    | [] => if l.exponentDigit then ['.', '0'] else []
    | rest => '.' :: rest
  digits.take 1 ++ fraction ++ 'e' :: Decimal.ofInt (point - 1)

/-- Whether the layout writes no exponent for a point at this place. -/
def isPositional (l : Layout) (point : Int) : Bool :=
  l.low.all (· < point) && l.high.all (point ≤ ·)

def set (l : Layout) (d : Decimal) : List Char :=
  let digits := Decimal.ofNat d.coefficient
  let point := digits.length + d.exponent
  if l.isPositional point then l.positional digits point else l.scientific digits point

def write (l : Layout) (f : Format) (bits : Nat) : String :=
  match f.decode bits with
  | .nan => l.nan
  | .infinite negative => if negative then l.negativeInfinity else l.infinity
  | .finite negative m e =>
    let digits := if m = 0 then l.set ⟨0, 0⟩ else l.set (l.digits f m e)
    String.ofList (if negative then '-' :: digits else digits)

end Layout

end ShardQuery.Binary
