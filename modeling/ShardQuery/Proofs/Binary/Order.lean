import ShardQuery.Binary.Format
import Mathlib.Algebra.Order.Field.Power
import Mathlib.Algebra.Order.Field.Rat
import Mathlib.Order.Monotone.Basic
import Mathlib.Tactic.Linarith
import Mathlib.Tactic.Ring

namespace ShardQuery.Binary.Format

/-- Negative patterns come first, by falling magnitude, and then the others by magnitude. -/
def totalOrder (f : Format) (a b : Nat) : Ordering :=
  match f.isNegative a, f.isNegative b with
  | true, true => compare (f.magnitude b) (f.magnitude a)
  | true, false => .lt
  | false, true => .gt
  | false, false => compare (f.magnitude a) (f.magnitude b)

theorem compare_orderKey (f : Format) (a b : Nat) :
    compare (f.orderKey a) (f.orderKey b) = f.totalOrder a b := by
  rw [totalOrder, orderKey, orderKey]
  cases f.isNegative a <;> cases f.isNegative b <;>
    simp only [Bool.false_eq_true, ↓reduceIte, compare, compareOfLessAndEq] <;> split_ifs <;>
    first | rfl | omega

/-- A finite magnitude in units of the last place of the smallest numbers. -/
def units (f : Format) (magnitude : Nat) : Nat :=
  let unit := 2 ^ f.fractionBits
  if magnitude / unit = 0 then magnitude % unit
  else (unit + magnitude % unit) * 2 ^ (magnitude / unit - 1)

theorem units_of_div_mod {f : Format} (hr : r < 2 ^ f.fractionBits)
    (hn : r + 2 ^ f.fractionBits * q = n) :
    f.units n = if q = 0 then r else (2 ^ f.fractionBits + r) * 2 ^ (q - 1) := by
  obtain ⟨hq, hm⟩ := (Nat.div_mod_unique (Nat.two_pow_pos f.fractionBits)).2 ⟨hn, hr⟩
  rw [units, hq, hm]

/-- The next pattern is one unit of its own place above, also where the exponent grows. -/
theorem units_lt_succ (f : Format) (n : Nat) : f.units n < f.units (n + 1) := by
  generalize hu : 2 ^ f.fractionBits = unit
  have hpos : 0 < unit := hu ▸ Nat.two_pow_pos _
  have hlt := Nat.mod_lt n hpos
  have hn := Nat.mod_add_div n unit
  rw [units_of_div_mod (hu ▸ hlt) (hu ▸ hn), hu]
  generalize n / unit = q at hn
  generalize n % unit = r at hn hlt
  rcases Nat.lt_or_eq_of_le (Nat.succ_le_of_lt hlt) with hr | hr
  · rw [units_of_div_mod (r := r + 1) (q := q) (hu ▸ hr) (by rw [hu]; omega), hu]
    split
    · exact Nat.lt_succ_self r
    · exact Nat.mul_lt_mul_of_pos_right (by omega) (Nat.two_pow_pos _)
  · rw [units_of_div_mod (r := 0) (q := q + 1) (hu ▸ hpos) (by rw [hu, Nat.mul_succ]; omega), hu,
      if_neg (Nat.succ_ne_zero q), Nat.add_zero, Nat.add_sub_cancel]
    split
    · next hz =>
      subst hz
      omega
    · next hz =>
      obtain ⟨k, rfl⟩ := Nat.exists_eq_succ_of_ne_zero hz
      rw [Nat.succ_sub_one, Nat.pow_succ, Nat.mul_comm (2 ^ k) 2, ← Nat.mul_assoc]
      exact Nat.mul_lt_mul_of_pos_right (by omega) (Nat.two_pow_pos _)

theorem strictMono_units (f : Format) : StrictMono f.units :=
  strictMono_nat_of_lt_succ f.units_lt_succ

end ShardQuery.Binary.Format

namespace ShardQuery.Binary

/-- The number that a value is, if it is one. -/
def Value.number? : Value → Option ℚ
  | .finite negative m e => some ((if negative then -1 else 1) * (m * 2 ^ e))
  | _ => none

/-- Numbers, infinities and what is no number lie further and further out. -/
def Value.distance : Value → Nat
  | .finite .. => 0
  | .infinite _ => 1
  | .nan => 2

namespace Format

theorem number?_decode {f : Format} (h : (f.decode a).number? = some x) :
    x = (if f.isNegative a then -1 else 1) * (f.units (f.magnitude a) * 2 ^ f.minExponent) := by
  rw [decode] at h
  split at h
  · cases h
  split at h
  · cases h
  rw [units]
  dsimp only at h
  split at h
  · next hz =>
    rw [if_pos hz]
    exact (Option.some.inj h).symm
  · next hz =>
    rw [if_neg hz, ← Option.some.inj h, zpow_add₀ two_ne_zero, zpow_natCast]
    push_cast
    ring

/-- Patterns stand in the order of their numbers. -/
theorem totalOrder_of_number_lt {f : Format} (ha : (f.decode a).number? = some x)
    (hb : (f.decode b).number? = some y) (h : x < y) : f.totalOrder a b = .lt := by
  have hpos : (0 : ℚ) < 2 ^ f.minExponent := zpow_pos two_pos _
  have hunits (n : Nat) : (0 : ℚ) ≤ f.units n * 2 ^ f.minExponent :=
    mul_nonneg (Nat.cast_nonneg _) hpos.le
  have hlt {m n : Nat}
      (hmn : (f.units m : ℚ) * 2 ^ f.minExponent < f.units n * 2 ^ f.minExponent) : m < n :=
    (f.strictMono_units.lt_iff_lt).1 (Nat.cast_lt.1 (lt_of_mul_lt_mul_right hmn hpos.le))
  have hua := hunits (f.magnitude a)
  have hub := hunits (f.magnitude b)
  rw [number?_decode ha, number?_decode hb] at h
  rw [totalOrder]
  cases hna : f.isNegative a <;> cases hnb : f.isNegative b <;>
    simp only [hna, hnb, Bool.false_eq_true, ↓reduceIte, one_mul, neg_mul, neg_lt_neg_iff] at h ⊢
  · exact Nat.compare_eq_lt.2 (hlt h)
  · linarith
  · exact Nat.compare_eq_lt.2 (hlt h)

theorem magnitude_lt_of_distance_lt {f : Format}
    (h : (f.decode a).distance < (f.decode b).distance) : f.magnitude a < f.magnitude b := by
  rw [decode, decode] at h
  dsimp only at h
  split_ifs at h <;> simp only [Value.distance] at h <;> omega

/-- What lies further out than another pattern is below or above it by its sign alone. -/
theorem totalOrder_of_distance_lt {f : Format}
    (h : (f.decode a).distance < (f.decode b).distance) :
    f.totalOrder a b = if f.isNegative b then .gt else .lt := by
  have hlt := magnitude_lt_of_distance_lt h
  rw [totalOrder]
  cases f.isNegative a <;> cases f.isNegative b
  · exact Nat.compare_eq_lt.2 hlt
  · rfl
  · rfl
  · exact Nat.compare_eq_gt.2 hlt

end Format

end ShardQuery.Binary
