import ShardQuery.Decimal.Digits

namespace ShardQuery.Binary

/-- A format, given by the number of bits of its fraction and of its exponent. -/
structure Format where
  fractionBits : Nat
  exponentBits : Nat
deriving DecidableEq, Repr

def half : Format := ⟨10, 5⟩

def single : Format := ⟨23, 8⟩

def double : Format := ⟨52, 11⟩

/-- What a bit pattern stands for; a finite one is a mantissa times a power of two. -/
inductive Value where
  | nan
  | infinite (negative : Bool)
  | finite (negative : Bool) (mantissa : Nat) (exponent : Int)
deriving DecidableEq, Repr

/-- The quotient rounded to the nearest integer, a tie to the even one. -/
def divRound (num den : Nat) : Nat :=
  let q := num / den
  let r := num % den
  if 2 * r < den then q else if den < 2 * r then q + 1 else q + q % 2

/-- The fraction `num / den` in units of a power of two, as a fraction again. -/
def inUnits (num den : Nat) (exponent : Int) : Nat × Nat :=
  if 0 ≤ exponent then (num, den * 2 ^ exponent.toNat) else (num * 2 ^ (-exponent).toNat, den)

namespace Format

def signBit (f : Format) : Nat := 2 ^ (f.fractionBits + f.exponentBits)

/-- The pattern of infinity; greater magnitudes are no numbers. -/
def infinity (f : Format) : Nat := (2 ^ f.exponentBits - 1) * 2 ^ f.fractionBits

/-- The pattern that operations give for no number. -/
def quietNaN (f : Format) : Nat := f.infinity + 2 ^ (f.fractionBits - 1)

/-- The exponent of the last place of the smallest numbers. -/
def minExponent (f : Format) : Int := 2 - 2 ^ (f.exponentBits - 1) - f.fractionBits

def isNegative (f : Format) (bits : Nat) : Bool := f.signBit ≤ bits

def magnitude (f : Format) (bits : Nat) : Nat := bits % f.signBit

def withSign (f : Format) (negative : Bool) (magnitude : Nat) : Nat :=
  if negative then f.signBit + magnitude else magnitude

def isNaN (f : Format) (bits : Nat) : Bool := f.infinity < f.magnitude bits

def decode (f : Format) (bits : Nat) : Value :=
  let negative := f.isNegative bits
  let m := f.magnitude bits
  if f.infinity < m then .nan
  else if m = f.infinity then .infinite negative
  else
    let unit := 2 ^ f.fractionBits
    if m / unit = 0 then .finite negative (m % unit) f.minExponent
    else .finite negative (unit + m % unit) (f.minExponent + (m / unit - 1 : Nat))

def placeOf (f : Format) (num den : Nat) : Int :=
  let e : Int := num.log2 - den.log2 - f.fractionBits
  let scaled := inUnits num den e
  max f.minExponent (if scaled.1 / scaled.2 < 2 ^ f.fractionBits then e - 1 else e)

/-- The magnitude nearest to `num / den`, a tie to the even one; too large a quotient is
infinite. -/
def nearest (f : Format) (num den : Nat) : Nat :=
  if num = 0 then 0
  else
    let e := f.placeOf num den
    let scaled := inUnits num den e
    min f.infinity ((e - f.minExponent).toNat * 2 ^ f.fractionBits + divRound scaled.1 scaled.2)

def ofInt (f : Format) (i : Int) : Nat := f.withSign (i < 0) (f.nearest i.natAbs 1)

def ofValue (f : Format) : Value → Nat
  | .nan => f.quietNaN
  | .infinite negative => f.withSign negative f.infinity
  | .finite negative m e =>
    f.withSign negative
      (if 0 ≤ e then f.nearest (m * 2 ^ e.toNat) 1 else f.nearest m (2 ^ (-e).toNat))

/-- The pattern in this format of a pattern in another. What is no number keeps its sign. -/
def convert (f source : Format) (bits : Nat) : Nat :=
  if source.isNaN bits then f.withSign (source.isNegative bits) f.quietNaN
  else f.ofValue (source.decode bits)

/-- The pattern nearest to a product. What has no product is no number. -/
def mul (f : Format) (a b : Nat) : Nat :=
  match f.decode a, f.decode b with
  | .finite s m e, .finite t n d => f.ofValue (.finite (s != t) (m * n) (e + d))
  | .infinite s, .infinite t => f.ofValue (.infinite (s != t))
  | .infinite s, .finite t n _ => f.ofValue (if n = 0 then .nan else .infinite (s != t))
  | .finite s m _, .infinite t => f.ofValue (if m = 0 then .nan else .infinite (s != t))
  | _, _ => f.quietNaN

/-- The pattern nearest to the quotient of a number and one that is finite and not zero. -/
def div (f : Format) (a b : Nat) : Nat :=
  match f.decode a, f.decode b with
  | .finite s m e, .finite t n d =>
    let quotient := inUnits m n (d - e)
    f.withSign (s != t) (f.nearest quotient.1 quotient.2)
  | .infinite s, .finite t _ _ => f.ofValue (.infinite (s != t))
  | _, _ => f.quietNaN

/-- A power of a number by repeated squaring, where each product is rounded. -/
def power (f : Format) (base exponent : Nat) : Nat :=
  ((List.range (exponent.log2 + 1)).foldl (fun (r, square) k =>
    (if exponent.testBit k then f.mul r square else r, f.mul square square))
    (f.ofInt 1, base)).1

/-- A power of ten as it is computed, which is not always the pattern nearest to it. -/
def tenPower (f : Format) (exponent : Int) : Nat :=
  let p := f.power (f.ofInt 10) exponent.natAbs
  if exponent < 0 then f.div (f.ofInt 1) p else p

/-- The integer toward zero from a number; none for the infinities and for no number. -/
def truncate? (f : Format) (bits : Nat) : Option Int :=
  match f.decode bits with
  | .finite negative m e =>
    let n : Nat := if 0 ≤ e then m * 2 ^ e.toNat else m / 2 ^ (-e).toNat
    some (if negative then -(n : Int) else n)
  | _ => none

def isZero (f : Format) (bits : Nat) : Bool := f.magnitude bits = 0

/--
A key in the order of which all patterns stand: the negative ones by falling magnitude, then the
others by magnitude. So `-0` is below `0` and what is no number lies beyond the infinities.
-/
def orderKey (f : Format) (bits : Nat) : Int :=
  if f.isNegative bits then -(f.magnitude bits : Int) - 1 else f.magnitude bits

end Format

end ShardQuery.Binary
