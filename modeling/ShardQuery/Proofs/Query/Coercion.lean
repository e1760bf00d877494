import ShardQuery.Query.Execute
import ShardQuery.Proofs.Except
import ShardQuery.Proofs.Option
import ShardQuery.Proofs.Text.Order
import ShardQuery.Proofs.Binary.Order

namespace ShardQuery

/-- Whether a column of a type can hold a cell. -/
def DataType.contains : DataType → Cell → Bool
  | _, .null => true
  | .integer t, .int i => t.holds i
  | .float p, .float bits => bits < 2 * p.format.signBit
  | .boolean, .bool _ => true
  | .text _, .text _ => true
  | .binary, .text _ => true
  | .date, .int i => int32.holds i
  | .dateTime, .int i => int64.holds i
  | .timeOfDay u, .int i => (clockInteger u).holds i
  | .timestamp _ _, .int i => int64.holds i
  | .duration _, .int i => int64.holds i
  | .interval u, .int i => Calendar.Interval.isNumber u i
  | .decimal wide _ _, .int i =>
    -(2 ^ (if wide then 255 else 127)) ≤ i && i < 2 ^ (if wide then 255 else 127)
  | .integerList, .text _ => true
  | _, _ => false

/-- Each cell of a row is one that its column can hold. -/
def Schema.describes (schema : Schema) (row : Row) : Bool :=
  schema.zipIdx.all fun (p : Field × Nat) => p.1.type.contains (row.cell p.2)

def Batch.Typed (b : Batch) : Prop := ∀ row ∈ b.rows, b.schema.describes row = true

theorem Schema.contains_of_describes {schema : Schema} {f : Field}
    (h : schema.describes row = true) (hf : schema[i]? = some f) :
    f.type.contains (row.cell i) = true :=
  List.all_eq_true.1 h (f, i) (List.mem_zipIdx_iff_getElem?.2 hf)

/-- How two cells of a type compare; with a null there is no order. Floats are doubles here. -/
def Cell.order? : Cell → Cell → Option Ordering
  | .int i, .int j => some (compare i j)
  | .float a, .float b => some (Binary.double.totalOrder a b)
  | .bool a, .bool b => some (compare a b)
  | .text s, .text t => some (compare (Text.bytes s) (Text.bytes t))
  | _, _ => none

/-- A constant and a column type meet on a type, of which the constant is a cell. -/
inductive Literal.Meets : Literal → DataType → DataType → Cell → Prop where
  /-- Integers meet as integers of eight bytes, -/
  | integer (i : Int) (t : IntegerType) :
    Meets (.integer i) (.integer t) (.integer int64) (.int i)
  /-- and all other numbers as doubles, which half floats cannot be turned into. -/
  | mixed (i : Int) (ht : type.isFloat = true ∨ type.isDecimal = true)
      (hhalf : type ≠ .float .half) :
    Meets (.integer i) type (.float .double) (.float (Binary.double.ofInt i))
  | real (bits : Nat) (ht : type.isNumeric = true) (hhalf : type ≠ .float .half) :
    Meets (.real bits) type (.float .double) (.float bits)
  | text (s : String) (ht : type = .text .small ∨ type = .text .large) :
    Meets (.text s) type .utf8 (.text s)
  /-- A text is read as a date or time of the column's type. -/
  | temporal (ht : type.isTemporal = true) (hc : Cast.of? .utf8 type = some convert)
      (hr : convert (.text s) = some (.int k)) :
    Meets (.text s) type type (.int k)
  | truth (b : Bool) : Meets (.truth b) .boolean .boolean (.bool b)

theorem Key.order_realKey (a b : Nat) :
    (Basis.realKey a).order (Basis.realKey b) = Binary.double.totalOrder a b :=
  Binary.double.compare_orderKey a b

theorem Key.order_truth (a b : Bool) :
    (Key.number (if a then 1 else 0)).order (.number (if b then 1 else 0)) = compare a b := by
  cases a <;> cases b <;> rfl

/-- Where a constant meets a column type, the keys of cells stand as the cells do after a cast. -/
structure Keyed (type target : DataType) (constant : Cell) (basis : Basis) (key : Key)
    (convert : Conversion) : Prop where
  cast : Cast.of? type target = some convert
  order : ∀ c, type.contains c = true →
    ∃ d, convert c = some d ∧ d.order? constant = (basis.key? c).map (·.order key)

theorem keyed_integer (i : Int) (t : IntegerType) :
    ∃ convert, Keyed (.integer t) (.integer int64) (.int i) .integer (.number i) convert := by
  by_cases ht : t = int64
  · subst ht
    refine ⟨_, Cast.of?_self _, fun c hc => ⟨c, rfl, ?_⟩⟩
    cases c with
    | int j =>
      have hj : int64.holds j = true := hc
      simp only [Basis.key?, hj]
      rfl
    | null => rfl
    | _ => cases hc
  · refine ⟨Conversion.onInt (Conversion.fitted int64), ?_, fun c hc => ?_⟩
    · have hne : DataType.integer t ≠ .integer int64 := fun h => ht (DataType.integer.inj h)
      rw [Cast.of?, if_neg hne]
      rfl
    · cases c with
      | int j =>
        refine ⟨_, rfl, ?_⟩
        simp only [Basis.key?, Conversion.fitted]
        cases int64.holds j <;> rfl
      | null => exact ⟨_, rfl, rfl⟩
      | _ => cases hc

/-- Doubles are compared as they are, and other numbers after they were rounded to doubles. -/
theorem keyed_real (bits : Nat) (ht : type.isNumeric = true) (hhalf : type ≠ .float .half) :
    ∃ convert, Keyed type (.float .double) (.float bits) (.real type) (Basis.realKey bits)
      convert := by
  have horder (a : Nat) : (Cell.float a).order? (.float bits) =
      (some (Basis.realKey a)).map (·.order (Basis.realKey bits)) :=
    congrArg some (Key.order_realKey a bits).symm
  cases type with
  | integer t =>
    refine ⟨_, rfl, fun c hc => ?_⟩
    cases c with
    | int j => exact ⟨_, rfl, horder _⟩
    | null => exact ⟨_, rfl, rfl⟩
    | _ => cases hc
  | float p =>
    cases p with
    | half => exact absurd rfl hhalf
    | _ =>
      refine ⟨_, rfl, fun c hc => ?_⟩
      cases c with
      | float a => exact ⟨_, rfl, horder _⟩
      | null => exact ⟨_, rfl, rfl⟩
      | _ => cases hc
  | decimal wide p s =>
    refine ⟨_, rfl, fun c hc => ?_⟩
    cases c with
    | int j => exact ⟨_, rfl, horder _⟩
    | null => exact ⟨_, rfl, rfl⟩
    | _ => cases hc
  | _ => cases ht

theorem keyed_text (s : String) (ht : type = .text .small ∨ type = .text .large) :
    ∃ convert, Keyed type .utf8 (.text s) .text (.text s) convert := by
  have hcast : Cast.of? type .utf8 = some Conversion.same := by
    rcases ht with rfl | rfl <;> rfl
  refine ⟨_, hcast, fun c hc => ⟨c, rfl, ?_⟩⟩
  rcases ht with rfl | rfl <;> cases c with
    | text t => exact congrArg some (Text.compare_bytes _ _)
    | null => rfl
    | _ => cases hc

theorem keyed_temporal (k : Int) (type : DataType) :
    ∃ convert, Keyed type type (.int k) .count (.number k) convert := by
  refine ⟨_, Cast.of?_self type, fun c hc => ⟨c, rfl, ?_⟩⟩
  cases c with
  | _ => rfl

theorem keyed_truth (b : Bool) :
    ∃ convert, Keyed .boolean .boolean (.bool b) .truth (.number (if b then 1 else 0))
      convert := by
  refine ⟨_, Cast.of?_self _, fun c hc => ⟨c, rfl, ?_⟩⟩
  cases c with
  | bool a => exact congrArg some (Key.order_truth a b).symm
  | null => rfl
  | _ => cases hc

theorem realBasis_eq_ok_iff : realBasis type = .ok basis ↔
    basis = .real type ∧ ∃ convert, Cast.of? type (.float .double) = some convert := by
  rw [realBasis]
  cases Cast.of? type (.float .double) with
  | none => simp
  | some convert => simp [eq_comm]

/-- How the cells of a type are turned into keys where a constant meets it. -/
def Literal.basis : Literal → DataType → Basis
  | .integer _, .integer _ => .integer
  | .integer _, type => .real type
  | .real _, type => .real type
  | .text _, .text _ => .text
  | .text _, _ => .count
  | .truth _, _ => .truth

/-- A constant that meets a column type is coerced to a key that stands as it does. -/
theorem Literal.Meets.coerce (h : Literal.Meets value type target constant) :
    ∃ key convert, coerce type value = .ok (value.basis type, key) ∧
      Keyed type target constant (value.basis type) key convert := by
  cases h with
  | integer i t =>
    obtain ⟨convert, ha⟩ := keyed_integer i t
    exact ⟨_, convert, rfl, ha⟩
  | mixed i ht hhalf =>
    have hnumeric : type.isNumeric = true := by
      rcases ht with ht | ht <;> simp [DataType.isNumeric, ht]
    have hinteger : type.isInteger = false := by
      cases type <;> first | rfl | rcases ht with ht | ht <;> cases ht
    have hbasis : (Literal.integer i).basis type = .real type := by
      cases type <;> first | rfl | cases hinteger
    obtain ⟨convert, ha⟩ := keyed_real (Binary.double.ofInt i) hnumeric hhalf
    rw [hbasis]
    refine ⟨_, convert, ?_, ha⟩
    rw [ShardQuery.coerce, hinteger, hnumeric, realBasis_eq_ok_iff.2 ⟨rfl, _, ha.cast⟩]
    rfl
  | real bits ht hhalf =>
    obtain ⟨convert, ha⟩ := keyed_real bits ht hhalf
    refine ⟨_, convert, ?_, ha⟩
    rw [ShardQuery.coerce, ht, realBasis_eq_ok_iff.2 ⟨rfl, _, ha.cast⟩]
    rfl
  | text s ht =>
    have hbasis : (Literal.text s).basis type = .text := by
      rcases ht with rfl | rfl <;> rfl
    obtain ⟨convert, ha⟩ := keyed_text s ht
    rw [hbasis]
    exact ⟨_, convert, if_pos ht, ha⟩
  | @temporal type convert s k ht hc hr =>
    have hno : ¬ (type = .text .small ∨ type = .text .large) := by
      rintro (rfl | rfl) <;> cases ht
    have hbasis : (Literal.text s).basis type = .count := by
      cases type <;> first | rfl | cases ht
    obtain ⟨convert', ha⟩ := keyed_temporal k type
    rw [hbasis]
    refine ⟨_, convert', ?_, ha⟩
    rw [ShardQuery.coerce, if_neg hno, ht, readTemporal, hc]
    simp only [hr]
    rfl
  | truth b =>
    obtain ⟨convert, ha⟩ := keyed_truth b
    exact ⟨_, convert, rfl, ha⟩

theorem ne_half_of_realBasis (h : realBasis type = .ok basis) : type ≠ .float .half := by
  rintro rfl
  cases h

/-- A constant is coerced only where it meets the column type. -/
theorem exists_meets (h : coerce type value = .ok r) :
    ∃ target constant, value.Meets type target constant := by
  cases value with
  | integer i =>
    rw [coerce] at h
    split at h
    · next ht =>
      cases type with
      | integer t => exact ⟨_, _, .integer i t⟩
      | _ => cases ht
    · next hno =>
      split at h
      · next ht =>
        obtain ⟨basis, hb, -⟩ := Except.map_eq_ok_iff.1 h
        refine ⟨_, _, .mixed i ?_ (ne_half_of_realBasis hb)⟩
        rw [DataType.isNumeric, Bool.or_eq_true, Bool.or_eq_true, or_assoc] at ht
        exact ht.resolve_left hno
      · cases h
  | real bits =>
    rw [coerce] at h
    split at h
    · next ht =>
      obtain ⟨basis, hb, -⟩ := Except.map_eq_ok_iff.1 h
      exact ⟨_, _, .real bits ht (ne_half_of_realBasis hb)⟩
    · cases h
  | text s =>
    rw [coerce] at h
    split at h
    · next ht => exact ⟨_, _, .text s ht⟩
    · split at h
      · next ht =>
        obtain ⟨key, hk, -⟩ := Except.map_eq_ok_iff.1 h
        rw [readTemporal] at hk
        split at hk
        · next convert hc =>
          split at hk
          · next k hr => exact ⟨_, _, .temporal ht hc hr⟩
          · cases hk
        · cases hk
      · cases h
  | truth b =>
    rw [coerce] at h
    split at h
    · next ht =>
      subst ht
      exact ⟨_, _, .truth b⟩
    · cases h

end ShardQuery
