-- Powers are those of the number types themselves, also where a library of algebra has its own.
attribute [instance (2000)] instPowNat

namespace ShardQuery.Decimal

def ofNat (n : Nat) : List Char := Nat.toDigits 10 n

def ofInt (i : Int) : List Char :=
  if i < 0 then '-' :: ofNat i.natAbs else ofNat i.natAbs

def natText (n : Nat) : String := String.ofList (ofNat n)

def intText (i : Int) : String := String.ofList (ofInt i)

def toNat? (cs : List Char) : Option Nat :=
  if cs ≠ [] ∧ cs.all Char.isDigit then some (Nat.ofDigitChars 10 cs 0) else none

/-- The integer that digits after an optional sign write. -/
def toInt? : List Char → Option Int
  | '-' :: cs => (toNat? cs).map fun n => -(n : Int)
  | '+' :: cs => (toNat? cs).map fun n => (n : Int)
  | cs => (toNat? cs).map fun n => (n : Int)

def toIntWithin? (lo hi : Int) (cs : List Char) : Option Int :=
  (toInt? cs).filter fun i => lo ≤ i && i ≤ hi

def toNatBelow? (bound : Nat) (cs : List Char) : Option Nat :=
  let digits := match cs with
    | '+' :: rest => rest
    | cs => cs
  (toNat? digits).filter fun n => n < bound

def padded (width n : Nat) : List Char :=
  List.replicate (width - (ofNat n).length) '0' ++ ofNat n

theorem ofNat_ne_nil (n : Nat) : ofNat n ≠ [] := Nat.toDigits_ne_nil

theorem isDigit_of_mem_ofNat {n : Nat} {c : Char} (h : c ∈ ofNat n) : c.isDigit = true :=
  Nat.isDigit_of_mem_toDigits (by decide) (by decide) h

theorem all_isDigit_ofNat (n : Nat) : (ofNat n).all Char.isDigit = true :=
  List.all_eq_true.2 fun _ h => isDigit_of_mem_ofNat h

theorem toNat?_ofNat (n : Nat) : toNat? (ofNat n) = some n := by
  rw [toNat?, if_pos ⟨ofNat_ne_nil n, all_isDigit_ofNat n⟩]
  simp [ofNat]

theorem ofNat_injective {m n : Nat} (h : ofNat m = ofNat n) : m = n := by
  have := congrArg toNat? h
  simpa [toNat?_ofNat] using this

theorem natText_injective {m n : Nat} (h : natText m = natText n) : m = n :=
  ofNat_injective (String.ofList_injective h)

end ShardQuery.Decimal
