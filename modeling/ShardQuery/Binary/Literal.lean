import ShardQuery.Binary.Format
import ShardQuery.Decimal.Digits

namespace ShardQuery.Binary

structure Parts where
  negative : Bool
  whole : List Char
  fraction : List Char
  exponent : Int

def spanDigits (cs : List Char) : List Char × List Char :=
  (cs.takeWhile Char.isDigit, cs.dropWhile Char.isDigit)

/-- The exponent of a text that is empty or starts with its mark. -/
def readExponent? : List Char → Option Int
  | [] => some 0
  | c :: cs => if c = 'e' ∨ c = 'E' then Decimal.toInt? cs else none

/-- The parts of an unsigned decimal text; it has a digit before or after the point. -/
def readParts? (negative : Bool) (cs : List Char) : Option Parts :=
  let (whole, rest) := spanDigits cs
  let (fraction, rest) := match rest with
    | '.' :: rest => spanDigits rest
    | rest => ([], rest)
  if whole = [] ∧ fraction = [] then none
  else (readExponent? rest).map fun e => ⟨negative, whole, fraction, e⟩

/-- Beyond this power of ten every format overflows, and below its inverse every one underflows. -/
def decimalReach : Int := 500

def Parts.round (p : Parts) (f : Format) : Nat :=
  let digits := (p.whole ++ p.fraction).dropWhile (· = '0')
  let n := Nat.ofDigitChars 10 digits 0
  let e := p.exponent - p.fraction.length
  let top := (digits.length : Int) + e
  f.withSign p.negative <|
    if n = 0 ∨ top < -decimalReach then 0
    else if decimalReach < top then f.infinity
    else if 0 ≤ e then f.nearest (n * 10 ^ e.toNat) 1
    else f.nearest n (10 ^ (-e).toNat)

/-- The words for what is not finite, in any case. -/
def readWord? (f : Format) (negative : Bool) (cs : List Char) : Option Nat :=
  let word := String.ofList (cs.map Char.toLower)
  if word = "nan" then some (f.withSign negative f.quietNaN)
  else if word = "inf" || word = "infinity" then some (f.withSign negative f.infinity)
  else none

def readUnsigned? (f : Format) (negative : Bool) (cs : List Char) : Option Nat :=
  match readParts? negative cs with
  | some p => some (p.round f)
  | none => readWord? f negative cs

/-- The pattern of a whole text, none if it is no number. -/
def read? (f : Format) : List Char → Option Nat
  | '-' :: cs => readUnsigned? f true cs
  | '+' :: cs => readUnsigned? f false cs
  | cs => readUnsigned? f false cs

end ShardQuery.Binary
