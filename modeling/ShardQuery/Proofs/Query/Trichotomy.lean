import ShardQuery.Proofs.Query.Predicate
import Mathlib.Data.List.Perm.Basic

namespace ShardQuery

/-- Whether a cell is too great for the integers of eight bytes in which a constant is compared. -/
def Literal.overflows : Literal → DataType → Cell → Bool
  | .integer _, .integer ⟨false, .bits64⟩, .int j => int64.greatest < j
  | _, _, _ => false

theorem int64_holds_of_holds {t : IntegerType} (ht : t ≠ ⟨false, .bits64⟩)
    (h : t.holds i = true) : int64.holds i = true := by
  obtain ⟨signed, width⟩ := t
  cases signed <;> cases width <;>
    simp_all [IntegerType.holds, IntegerType.least, IntegerType.greatest, Width.bits, int64] <;>
    omega

theorem Literal.overflows_integer {t : IntegerType} (h : t.holds j = true) (i : Int) :
    (Literal.integer i).overflows (.integer t) (.int j) = !int64.holds j := by
  by_cases ht : t = ⟨false, .bits64⟩
  · subst ht
    have hj : 0 ≤ j := of_decide_eq_true (Bool.and_eq_true_iff.1 h).1
    have hleast : int64.least ≤ j := Int.le_trans (by decide) hj
    rw [IntegerType.holds, decide_eq_true hleast, Bool.true_and, ← decide_not]
    exact decide_eq_decide.2 Int.not_le.symm
  · rw [int64_holds_of_holds ht h, overflows]
    · rfl
    · intro _ _ _ ht' _
      exact ht (DataType.integer.inj ht')

theorem Literal.Meets.known (h : Literal.Meets value type target constant)
    (hc : type.contains c = true) (hnull : c ≠ .null) :
    ((value.basis type).key? c).isSome = !value.overflows type c := by
  cases h with
  | integer i t =>
    cases c with
    | int j =>
      rw [Literal.overflows_integer hc, Bool.not_not]
      show (if int64.holds j then some _ else none).isSome = _
      cases int64.holds j <;> rfl
    | null => exact absurd rfl hnull
    | _ => cases hc
  | mixed i ht hhalf =>
    cases type with
    | float p => cases p <;> cases c <;> first | rfl | contradiction
    | decimal => cases c <;> first | rfl | contradiction
    | _ => rcases ht with ht | ht <;> cases ht
  | real bits ht hhalf =>
    cases type with
    | float p => cases p <;> cases c <;> first | rfl | contradiction
    | decimal | integer => cases c <;> first | rfl | contradiction
    | _ => cases ht
  | text s ht => rcases ht with rfl | rfl <;> cases c <;> first | rfl | contradiction
  | temporal ht => cases type <;> cases c <;> first | rfl | contradiction
  | truth b => cases c <;> first | rfl | contradiction

/-- The comparison that holds where another does not. -/
def Comparison.complement : Comparison → Comparison
  | eq => ne
  | ne => eq
  | lt => ge
  | le => gt
  | gt => le
  | ge => lt

theorem Comparison.holds_complement (c : Comparison) (o : Ordering) :
    c.complement.holds o = !c.holds o := by
  cases c <;> cases o <;> rfl

/-- Exactly one of three comparisons is met, and the other three are made up of them. -/
structure Trichotomy (met : Comparison → Prop) : Prop where
  one : met .eq ∨ met .lt ∨ met .gt
  eq_lt : ¬ (met .eq ∧ met .lt)
  eq_gt : ¬ (met .eq ∧ met .gt)
  lt_gt : ¬ (met .lt ∧ met .gt)
  ne : met .ne ↔ ¬ met .eq
  le : met .le ↔ met .lt ∨ met .eq
  ge : met .ge ↔ met .gt ∨ met .eq

theorem trichotomy_holds (o : Ordering) : Trichotomy fun op => op.holds o = true := by
  cases o <;> constructor <;> decide

theorem Cell.isNull_eq_false {c : Cell} (h : c ≠ .null) : c.isNull = false := by
  cases c with
  | null => exact absurd rfl h
  | _ => rfl

theorem Basis.key?_null (basis : Basis) : basis.key? .null = none := by
  cases basis <;> simp [key?]

namespace Test

theorem mark_of_null {t : Test} {row : Row} (h : row.cell t.position = .null) :
    t.mark row = none := by
  rw [mark, h, Basis.key?_null]
  rfl

theorem mark_with_op_eq_none {t : Test} (h : t.mark row = none) (op : Comparison) :
    { t with op := op }.mark row = none := by
  rw [mark, Option.map_eq_none_iff] at h
  rw [mark, h]
  rfl

theorem trichotomy_mark {t : Test} (h : (t.mark row).isSome = true) :
    Trichotomy fun op => { t with op := op }.mark row = some true := by
  rw [mark, Option.isSome_map] at h
  obtain ⟨k, hk⟩ := Option.isSome_iff_exists.1 h
  -- all six look at the order of this one key to the constant
  simp only [mark, hk, Option.map_some, Option.some.injEq]
  exact trichotomy_holds (k.order t.key)

theorem mark_complement (t : Test) (op : Comparison) (row : Row) :
    { t with op := op.complement }.mark row = ({ t with op := op }.mark row).map (!·) := by
  rw [mark, mark, Option.map_map]
  simp only [Comparison.holds_complement]
  rfl

theorem keep_append_keep_complement (t : Test) (b : Batch) (op : Comparison) :
    ((b.keep (b.rows.map { t with op := op }.mark)).rows ++
        (b.keep (b.rows.map { t with op := op.complement }.mark)).rows).Perm
      (b.rows.filter fun row => (t.mark row).isSome) := by
  have hsome (row : Row) : (t.mark row).isSome = ({ t with op := op }.mark row).isSome := by
    rw [mark, mark, Option.isSome_map, Option.isSome_map]
  rw [Batch.keep_map, Batch.keep_map]
  simp only [Batch.filter, mark_complement, hsome]
  generalize { t with op := op }.mark = f
  refine .trans (.of_eq ?_) (List.filter_append_perm (fun row => f row = some true) _)
  rw [List.filter_filter, List.filter_filter]
  congr 2
  · funext row
    cases f row <;> simp
  · funext row
    cases f row with
    | none => rfl
    | some a => cases a <;> rfl

end Test

namespace Predicate

variable {schema : Schema} {b : Batch} {name : String} {value : Literal} {op : Comparison}

theorem bind_with_op (h : bind schema ⟨name, op, value⟩ = .ok t) (op' : Comparison) :
    bind schema ⟨name, op', value⟩ = .ok { t with op := op' } := by
  obtain ⟨i, f, basis, key, hf, hcoerce, rfl⟩ := bind_eq_ok_iff.1 h
  exact bind_eq_ok_iff.2 ⟨i, f, basis, key, hf, hcoerce, rfl⟩

theorem isSome_mark (h : bind schema ⟨name, op, value⟩ = .ok t) (hf : schema.Finds name i f)
    (hrow : schema.describes row = true) :
    (t.mark row).isSome = (!(row.cell i).isNull && !value.overflows f.type (row.cell i)) := by
  obtain ⟨j, g, basis, key, hg, hcoerce, rfl⟩ := bind_eq_ok_iff.1 h
  obtain ⟨rfl, rfl⟩ := hf.unique hg
  obtain ⟨target, constant, hm⟩ := exists_meets hcoerce
  obtain ⟨key', convert, hcoerce', -⟩ := hm.coerce
  cases hcoerce.symm.trans hcoerce'
  by_cases hnull : row.cell i = .null
  · rw [Test.mark_of_null hnull, hnull]
    rfl
  · rw [Test.mark, Option.isSome_map,
      hm.known (Schema.contains_of_describes hrow hf.field) hnull, Cell.isNull_eq_false hnull]
    rfl

/-- The six comparisons of a column with a constant are linked at every cell that is no null and
does not overflow, and a comparison and its complement split the rows of such cells; where a cell
overflows, none of the six is met. -/
theorem trichotomy_unless_overflow (hb : b.Typed)
    (h : evaluate ⟨name, op, value⟩ b = .ok m) :
    ∃ (i : Nat) (f : Field) (mark : Comparison → Row → Option Bool), b.schema.Finds name i f ∧
      (∀ op', evaluate ⟨name, op', value⟩ b = .ok (b.rows.map (mark op'))) ∧
      (∀ row ∈ b.rows, row.cell i ≠ .null →
        if value.overflows f.type (row.cell i) then ∀ op', mark op' row = none
        else Trichotomy fun op' => mark op' row = some true) ∧
      ∀ op', ((b.keep (b.rows.map (mark op'))).rows ++
          (b.keep (b.rows.map (mark op'.complement))).rows).Perm
        (b.rows.filter fun row =>
          !(row.cell i).isNull && !value.overflows f.type (row.cell i)) := by
  rw [evaluate_eq] at h
  obtain ⟨t, ht, -⟩ := Except.map_eq_ok_iff.1 h
  obtain ⟨i, f, -, -, hf, -, -⟩ := bind_eq_ok_iff.1 ht
  have hsome (row : Row) (hrow : row ∈ b.rows) := isSome_mark ht hf (hb row hrow)
  refine ⟨i, f, fun op' => { t with op := op' }.mark, hf, fun op' => ?_, fun row hrow hnull => ?_,
    fun op' => ?_⟩
  · rw [evaluate_eq, bind_with_op ht op']
    rfl
  · have hmark := hsome row hrow
    rw [Cell.isNull_eq_false hnull, Bool.not_false, Bool.true_and] at hmark
    split
    · next hover =>
      rw [hover] at hmark
      exact Test.mark_with_op_eq_none (Option.not_isSome_iff_eq_none.1 (by simp [hmark]))
    · next hfits =>
      rw [eq_false_of_ne_true hfits] at hmark
      exact Test.trichotomy_mark hmark
  · rw [List.filter_congr fun row hrow => (hsome row hrow).symm]
    exact t.keep_append_keep_complement b op'

/-- Two unsigned integers and a gap; the first is beyond the integers of eight bytes. -/
def counters : Batch :=
  ⟨[⟨"u", .integer ⟨false, .bits64⟩, true⟩], [[.int (2 ^ 63)], [.int 5], [.null]]⟩

theorem trichotomy_unless_overflow_counters :
    counters.Typed ∧ ∃ mark : Comparison → Row → Option Bool,
      (∀ op, evaluate ⟨"u", op, .integer 0⟩ counters = .ok (counters.rows.map (mark op))) ∧
      (∀ op, mark op [.int (2 ^ 63)] = none) ∧
      Trichotomy fun op => mark op [.int 5] = some true := by
  have hb : counters.Typed := by
    unfold Batch.Typed
    decide
  obtain ⟨i, f, mark, hf, hmark, hrow, -⟩ := trichotomy_unless_overflow hb
    (show evaluate ⟨"u", .eq, .integer 0⟩ counters = .ok [none, some false, none] from rfl)
  have hfirst : counters.schema.Finds "u" 0 ⟨"u", .integer ⟨false, .bits64⟩, true⟩ :=
    ⟨rfl, rfl, fun j hj => absurd hj (Nat.not_lt_zero j)⟩
  obtain ⟨rfl, rfl⟩ := hf.unique hfirst
  have hgreat := hrow [.int (2 ^ 63)] (by decide) (by decide)
  have hsmall := hrow [.int 5] (by decide) (by decide)
  rw [if_pos (by decide)] at hgreat
  rw [if_neg (by decide)] at hsmall
  exact ⟨hb, mark, hmark, hgreat, hsmall⟩

end Predicate

end ShardQuery
