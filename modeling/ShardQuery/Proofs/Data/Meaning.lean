import ShardQuery.Proofs.Query.Coercion
import Mathlib.Algebra.Order.Field.Rat

namespace ShardQuery

/-- What a cell that is not null stands for, whatever type it is held in. -/
inductive Meaning where
  | number (value : ℚ)
  | real (value : Binary.Value)
  | truth (value : Bool)
  | text (value : String)
  | day (since1970 : Int)
  /-- A point in time or a length of time, in seconds. -/
  | instant (seconds : ℚ)
  | span (seconds : ℚ)

namespace DataType

/-- What a cell of a column that can be declared stands for. -/
def meaning? : DataType → Cell → Option Meaning
  | .integer _, .int i => some (.number i)
  | .decimal _ _ scale, .int i => some (.number (i / 10 ^ scale))
  | .float p, .float bits => some (.real (p.format.decode bits))
  | .boolean, .bool b => some (.truth b)
  | .text _, .text s => some (.text s)
  | .date, .int i => some (.day i)
  | .timestamp unit _, .int i => some (.instant (i / unit.perSecond))
  | .duration unit, .int i => some (.span (i / unit.perSecond))
  | _, _ => none

/-- Whether the declared type has room for what a cell stands for: of decimals, unless they have the
declared type, it has for whole numbers of up to eighteen digits. -/
def IsKept : DataType → Cell → Prop
  | .decimal wide precision scale, .int i =>
    DataType.decimal wide precision scale = ColumnType.decimal.stored ∨
      ∃ whole : Int, (i : ℚ) = whole * 10 ^ scale ∧ whole.natAbs < 10 ^ 18
  | _, _ => True

end DataType

namespace Decimal

theorem divHalfAway_mul (k : Int) {d : Nat} (hd : 0 < d) : divHalfAway (k * d) d = k := by
  have hpos : (0 : Int) < d := Int.natCast_pos.2 hd
  have hq : (2 * (k * d).natAbs + d) / (2 * d) = k.natAbs := by
    rw [Int.natAbs_mul, Int.natAbs_natCast, ← Nat.mul_assoc, Nat.mul_right_comm,
      Nat.mul_add_div (by omega), Nat.div_eq_of_lt (by omega), Nat.add_zero]
  rw [divHalfAway, hq]
  by_cases hk : k < 0
  · rw [if_pos (Int.mul_neg_of_neg_of_pos hk hpos)]
    omega
  · have hnonneg : 0 ≤ k * d := Int.mul_nonneg (Int.not_lt.1 hk) (Int.le_of_lt hpos)
    rw [if_neg (Int.not_lt.2 hnonneg)]
    omega

theorem rescale_of_whole {i whole scale : Int} (h : (i : ℚ) = whole * 10 ^ scale) :
    rescale i scale 0 = whole := by
  have hten : (10 : ℚ) ≠ 0 := by decide
  rw [rescale]
  split
  · next hle =>
    rw [Int.zero_sub]
    obtain ⟨n, rfl⟩ := Int.exists_eq_neg_ofNat hle
    rw [zpow_neg, zpow_natCast, ← div_eq_mul_inv, eq_div_iff (pow_ne_zero n hten)] at h
    rw [Int.neg_neg, Int.toNat_natCast]
    exact_mod_cast h
  · next hlt =>
    rw [Int.sub_zero]
    obtain ⟨n, rfl⟩ := Int.eq_ofNat_of_zero_le (Int.le_of_lt (Int.not_le.1 hlt))
    rw [zpow_natCast] at h
    have hi : i = whole * (10 ^ n : Nat) := by exact_mod_cast h
    rw [hi, Int.toNat_natCast]
    exact divHalfAway_mul whole (Nat.pow_pos (by decide))

end Decimal

open Conversion

/-- A decimal is rounded to a whole number, or lost if that has more than eighteen digits. -/
theorem meaning?_rescaled (i scale : Int) :
    ColumnType.decimal.stored.meaning? (within 18 (Decimal.rescale i scale 0)) =
        some (.number (i / 10 ^ scale)) ↔
      ∃ whole : Int, (i : ℚ) = whole * 10 ^ scale ∧ whole.natAbs < 10 ^ 18 := by
  have hpow : (10 : ℚ) ^ scale ≠ 0 := zpow_ne_zero _ (by decide)
  constructor
  · intro h
    by_cases hin : Decimal.isWithin 18 (Decimal.rescale i scale 0) = true
    · rw [within, if_pos hin] at h
      have hvalue := Meaning.number.inj (Option.some.inj h)
      refine ⟨_, ?_, of_decide_eq_true hin⟩
      rw [zpow_zero, div_one, eq_div_iff hpow] at hvalue
      exact hvalue.symm
    · rw [within, if_neg hin] at h
      cases h
  · rintro ⟨whole, hwhole, hdigits⟩
    have hin : Decimal.isWithin 18 whole = true := decide_eq_true hdigits
    rw [Decimal.rescale_of_whole hwhole, within, if_pos hin]
    have hvalue : (whole : ℚ) / 10 ^ (0 : Int) = i / 10 ^ scale := by
      rw [zpow_zero, div_one, eq_div_iff hpow, hwhole]
    exact congrArg some (congrArg Meaning.number hvalue)

theorem Conversion.changeUnit_self (u : Calendar.TimeUnit) (i : Int) :
    changeUnit u u i = .int i := by
  have hpos : 0 < u.perSecond := by cases u <;> decide
  rw [changeUnit, if_pos (Nat.le_refl _), Nat.div_self hpos]
  exact congrArg Cell.int (Int.tdiv_one i)

namespace DataType

variable {type : DataType} {declared : ColumnType}

/-- What becomes of a cell that is held under another type. -/
structure Carried (source target : DataType) (c d : Cell) : Prop where
  null : c = .null → d = .null
  meaning : c ≠ .null → ∃ m, source.meaning? c = some m ∧
    (target.meaning? d = some m ↔ source.IsKept c)

theorem exists_meaning? (hd : ColumnType.ofStored? type = some declared)
    (hc : type.contains c = true) (hnull : c ≠ .null) : ∃ m, type.meaning? c = some m := by
  cases type with
  | integer | decimal | date | timestamp | duration =>
    cases c with
    | int i => exact ⟨_, rfl⟩
    | null => exact absurd rfl hnull
    | _ => cases hc
  | float =>
    cases c with
    | float bits => exact ⟨_, rfl⟩
    | null => exact absurd rfl hnull
    | _ => cases hc
  | boolean =>
    cases c with
    | bool b => exact ⟨_, rfl⟩
    | null => exact absurd rfl hnull
    | _ => cases hc
  | text =>
    cases c with
    | text s => exact ⟨_, rfl⟩
    | null => exact absurd rfl hnull
    | _ => cases hc
  | _ => cases hd

theorem isKept_stored (declared : ColumnType) (c : Cell) : declared.stored.IsKept c := by
  cases declared with
  | decimal =>
    cases c with
    | int i => exact .inl rfl
    | _ => trivial
  | _ => trivial

/-- A cell that is left as it is keeps what it stands for. -/
theorem carried_same (hd : ColumnType.ofStored? type = some declared)
    (hc : type.contains c = true) (hm : declared.stored.meaning? c = type.meaning? c)
    (hk : type.IsKept c) : type.Carried declared.stored c c where
  null := id
  meaning hnull := by
    obtain ⟨m, hm'⟩ := exists_meaning? hd hc hnull
    exact ⟨m, hm', iff_of_true (hm.trans hm') hk⟩

/-- Each column that can be declared is cast to its declared type, and the cast takes each cell. -/
theorem exists_cast (hd : ColumnType.ofStored? type = some declared) :
    ∃ convert, Cast.of? type declared.stored = some convert ∧
      ∀ c, type.contains c = true → ∃ d, convert c = some d ∧ type.Carried declared.stored c d := by
  by_cases hsame : type = declared.stored
  · subst hsame
    refine ⟨_, Cast.of?_self _, fun c hc => ⟨c, rfl, ?_⟩⟩
    exact carried_same hd hc rfl (isKept_stored declared c)
  · cases type with
    | integer | boolean | date | duration =>
      cases hd
      exact absurd rfl hsame
    | float p =>
      cases p with
      | half => cases hd
      | _ =>
        cases hd
        exact absurd rfl hsame
    | text form =>
      cases form with
      | small =>
        cases hd
        exact absurd rfl hsame
      | large =>
        cases hd
        refine ⟨_, rfl, fun c hc => ⟨c, rfl, ?_⟩⟩
        apply carried_same rfl hc
        · cases c <;> rfl
        · cases c <;> trivial
      | view => cases hd
    | timestamp unit zone =>
      cases hd
      cases zone with
      | none => exact absurd rfl hsame
      | some zone =>
        refine ⟨onInt (changeUnit unit unit), ?_, fun c hc => ?_⟩
        · rw [Cast.of?, if_neg hsame]
          rfl
        cases c with
        | int i =>
          refine ⟨.int i, congrArg some (changeUnit_self unit i), ?_⟩
          exact carried_same rfl hc rfl trivial
        | null => exact ⟨_, rfl, carried_same rfl hc rfl trivial⟩
        | _ => cases hc
    | decimal wide p s =>
      cases wide with
      | true => cases hd
      | false =>
        cases hd
        refine ⟨onInt fun i => within 18 (Decimal.rescale i s 0), ?_, fun c hc => ?_⟩
        · rw [Cast.of?, if_neg hsame]
          rfl
        · cases c with
          | int i =>
            refine ⟨_, rfl, fun h => absurd h (by simp), fun _ => ⟨_, rfl, ?_⟩⟩
            rw [meaning?_rescaled]
            exact (or_iff_right hsame).symm
          | null => exact ⟨_, rfl, fun _ => rfl, fun h => absurd rfl h⟩
          | _ => cases hc
    | _ => cases hd

end DataType

end ShardQuery
