import ShardQuery.Proofs.Table.Plan
import ShardQuery.Proofs.Option
import Mathlib.Algebra.Order.Floor.Div
import Mathlib.Data.Nat.PSub

namespace ShardQuery

/-! ### In words -/

namespace Word

/-- A number that fits in a word. -/
def fit? (n : Nat) : Option Nat := if n < UInt64.size then some n else none

theorem fit?_eq (h : n < UInt64.size) : fit? n = some n := if_pos h

/-- The quotient, and one more unless nothing is left. -/
def ceilDiv? (a b : Nat) : Option Nat :=
  if b = 0 then none else if a % b = 0 then fit? (a / b) else fit? (a / b + 1)

/-- The range at a position. There is none where a product, sum or difference is not a word. -/
def rowRange? (total chunk i : Nat) : Option Range := do
  let lower ← fit? (i * chunk)
  let next ← fit? (i + 1)
  let upper ← fit? (next * chunk)
  let len ← (min upper total).psub' (min lower total)
  some ⟨min lower total, len⟩

def rowRanges? (total parts : Nat) : Option (List Range) := do
  let chunk ← ceilDiv? total parts
  (List.range parts).mapM (rowRange? total chunk)

/-- The rows of a range whose end is a word and lies in the batch. -/
def cut? (b : Batch) (r : Range) : Option Batch := do
  let stop ← fit? (r.start + r.len)
  if b.size < stop then none else some (b.slice r.start r.len)

def split? (b : Batch) (parts : Nat) : Option (List Batch) := do
  let ranges ← rowRanges? b.size parts
  ranges.mapM (cut? b)

end Word

/-! ### The quotient rounded up -/

section Quotient

variable {total parts : Nat}

theorem ceilDiv_eq (total : Nat) (hp : 0 < parts) : ceilDiv total parts = total ⌈/⌉ parts := by
  rw [ceilDiv, Nat.ceilDiv_eq_add_pred_div, Nat.add_sub_assoc hp]

theorem mul_ceilDiv_le (total parts : Nat) :
    parts * ceilDiv total parts ≤ total + (parts - 1) := Nat.mul_div_le ..

theorem ceilDiv_mul (q : Nat) (hp : 0 < parts) : ceilDiv (parts * q) parts = q := by
  have hless : (parts - 1) / parts = 0 := Nat.div_eq_of_lt (by omega)
  rw [ceilDiv, Nat.mul_add_div hp, hless, Nat.add_zero]

theorem ceilDiv_mul_add (q : Nat) (hm : 0 < m) (hlt : m < parts) :
    ceilDiv (parts * q + m) parts = q + 1 := by
  have hone : (m + (parts - 1)) / parts = 1 := Nat.div_eq_of_lt_le (by omega) (by omega)
  rw [ceilDiv, Nat.add_assoc, Nat.mul_add_div (Nat.zero_lt_of_lt hlt), hone]

theorem Word.ceilDiv?_eq (hp : 0 < parts) (hw : total + parts - 1 < UInt64.size) :
    ceilDiv? total parts = some (ceilDiv total parts) := by
  have hlt : ceilDiv total parts < UInt64.size := by
    have hle := Nat.div_le_self (total + (parts - 1)) parts
    rw [ceilDiv]
    omega
  have hd := Nat.div_add_mod total parts
  rw [ceilDiv?, if_neg hp.ne']
  split
  · next hzero =>
    have hq : ceilDiv total parts = total / parts := by
      rw [hzero, Nat.add_zero] at hd
      conv_lhs => rw [← hd]
      exact ceilDiv_mul _ hp
    rw [← hq]
    exact fit?_eq hlt
  · next hrest =>
    have hq : ceilDiv total parts = total / parts + 1 := by
      conv_lhs => rw [← hd]
      exact ceilDiv_mul_add _ (Nat.pos_of_ne_zero hrest) (Nat.mod_lt total hp)
    rw [← hq]
    exact fit?_eq hlt

end Quotient

/-! ### The ranges -/

/-- What the division of some rows is: ranges end to end that are full while there are rows for it,
of which one takes what is left, and the others nothing. -/
structure AreRowRanges (total parts : Nat) (rs : List Range) : Prop where
  length : rs.length = parts
  tiles : Range.Tiles 0 rs total
  len_le : ∀ r ∈ rs, r.len ≤ total ⌈/⌉ parts
  descending : rs.Pairwise fun r s => s.len ≤ r.len
  partial_le_one : (rs.filter fun r => r.len ≠ total ⌈/⌉ parts ∧ r.len ≠ 0).length ≤ 1

/-- Of a list in which no two elements pass a test at most one is left. -/
theorem length_filter_le_one {p : α → Bool} {l : List α}
    (h : l.Pairwise fun a b => p a = false ∨ p b = false) : (l.filter p).length ≤ 1 := by
  induction h with
  | nil => exact Nat.zero_le 1
  | @cons a l ha _ ih =>
    cases hp : p a with
    | false =>
      rw [List.filter_cons_of_neg (by rw [hp]; decide)]
      exact ih
    | true =>
      have hnone : l.filter p = [] := by
        rw [List.filter_eq_nil_iff]
        intro b hb
        rcases ha b hb with hf | hf
        · exact absurd hp (by rw [hf]; decide)
        · rw [hf]
          decide
      rw [List.filter_cons_of_pos hp, hnone, List.length_singleton]

namespace RowRanges

/-- The range between two multiples of a length. -/
def nth (total chunk i : Nat) : Range :=
  ⟨min (i * chunk) total, min ((i + 1) * chunk) total - min (i * chunk) total⟩

variable {total parts chunk i j : Nat}

theorem len_nth : (nth total chunk i).len =
    min (i * chunk + chunk) total - min (i * chunk) total := by
  rw [← Nat.succ_mul]
  rfl

theorem len_nth_le : (nth total chunk i).len ≤ chunk := by
  rw [len_nth]
  omega

/-- Once a range is not full the rows have run out. -/
theorem full_or_empty (hij : i < j) :
    (nth total chunk i).len = chunk ∨ (nth total chunk j).len = 0 := by
  have hle : (i + 1) * chunk ≤ j * chunk := Nat.mul_le_mul_right chunk hij
  rw [Nat.succ_mul] at hle
  rw [len_nth, len_nth]
  omega

theorem pairwise_nth (total chunk parts : Nat) :
    ((List.range parts).map (nth total chunk)).Pairwise
      fun r s => r.len = chunk ∨ s.len = 0 := by
  rw [List.pairwise_map]
  exact List.pairwise_lt_range.imp full_or_empty

theorem areRowRanges_of_eq_ok (hp : 0 < parts) (h : planRowRanges total parts = .ok rs) :
    AreRowRanges total parts rs := by
  obtain ⟨rs', hrs, hlength, htiles⟩ := planRowRanges_eq_ok hp total
  rw [h] at hrs
  cases hrs
  have hmap : rs = (List.range parts).map (nth total (total ⌈/⌉ parts)) := by
    rw [planRowRanges, if_neg hp.ne', ceilDiv_eq total hp] at h
    exact (Except.ok.inj h).symm
  have hle : ∀ r ∈ rs, r.len ≤ total ⌈/⌉ parts := by
    rw [hmap]
    intro r hr
    obtain ⟨i, -, rfl⟩ := List.mem_map.1 hr
    exact len_nth_le
  have hpairs := pairwise_nth total (total ⌈/⌉ parts) parts
  rw [← hmap] at hpairs
  refine ⟨hlength, htiles, hle, ?_, ?_⟩
  · refine hpairs.imp_of_mem fun hr hs h => ?_
    rcases h with hfull | hempty
    · rw [hfull]
      exact hle _ hs
    · rw [hempty]
      exact Nat.zero_le _
  · refine length_filter_le_one (hpairs.imp fun h => ?_)
    rcases h with hfull | hempty
    · exact .inl (decide_eq_false fun h => h.1 hfull)
    · exact .inr (decide_eq_false fun h => h.2 hempty)

/-! ### Nothing on the way is too large -/

theorem rowRange?_eq (hp : 0 < parts) (hw : total + parts - 1 < UInt64.size)
    (hparts : parts < UInt64.size) (hi : i < parts) :
    Word.rowRange? total (ceilDiv total parts) i = some (nth total (ceilDiv total parts) i) := by
  have hall := mul_ceilDiv_le total parts
  have hlower : i * ceilDiv total parts ≤ (i + 1) * ceilDiv total parts :=
    Nat.mul_le_mul_right _ (Nat.le_succ i)
  have hupper : (i + 1) * ceilDiv total parts ≤ parts * ceilDiv total parts :=
    Nat.mul_le_mul_right _ hi
  have hle : min (i * ceilDiv total parts) total ≤ min ((i + 1) * ceilDiv total parts) total := by
    omega
  simp only [Word.rowRange?, Word.fit?_eq (show i * ceilDiv total parts < UInt64.size by omega),
    Word.fit?_eq (show i + 1 < UInt64.size by omega),
    Word.fit?_eq (show (i + 1) * ceilDiv total parts < UInt64.size by omega),
    Nat.psub'_eq_psub, Nat.psub_eq_sub hle, Option.bind_eq_bind, Option.bind_some]
  rfl

theorem rowRanges?_eq (hp : 0 < parts) (hw : total + parts - 1 < UInt64.size)
    (hparts : parts < UInt64.size) (h : planRowRanges total parts = .ok rs) :
    Word.rowRanges? total parts = some rs := by
  have hmap : rs = (List.range parts).map (nth total (ceilDiv total parts)) := by
    rw [planRowRanges, if_neg hp.ne'] at h
    exact (Except.ok.inj h).symm
  rw [Word.rowRanges?, Word.ceilDiv?_eq hp hw, hmap]
  refine mapM_eq_some_iff.2 ?_
  rw [List.map_map]
  exact List.map_congr_left fun i hi => rowRange?_eq hp hw hparts (List.mem_range.1 hi)

theorem cut?_eq {b : Batch} (hr : r.stop ≤ b.size) (hb : b.size < UInt64.size) :
    Word.cut? b r = some (b.slice r.start r.len) := by
  have hstop : r.start + r.len ≤ b.size := hr
  simp only [Word.cut?, Word.fit?_eq (show r.start + r.len < UInt64.size by omega),
    Option.bind_eq_bind, Option.bind_some, if_neg (Nat.not_lt.2 hstop)]

theorem split?_eq {b : Batch} (hp : 0 < parts) (hw : b.size + parts - 1 < UInt64.size)
    (hparts : parts < UInt64.size) (h : planRowRanges b.size parts = .ok rs) :
    Word.split? b parts = some (rs.map fun r => b.slice r.start r.len) := by
  have hinside : ∀ r ∈ rs, r.stop ≤ b.size := fun _ => (areRowRanges_of_eq_ok hp h).tiles.stop_le
  rw [Word.split?, rowRanges?_eq hp hw hparts h]
  refine mapM_eq_some_iff.2 ?_
  rw [List.map_map]
  exact List.map_congr_left fun r hr => cut?_eq (hinside r hr) (by omega)

theorem split_eq {b : Batch} (hp : 0 < parts) (h : planRowRanges b.size parts = .ok rs) :
    b.split parts = .ok (rs.map fun r => b.slice r.start r.len) := by
  have hinside : ∀ r ∈ rs, r.stop ≤ b.size := fun _ => (areRowRanges_of_eq_ok hp h).tiles.stop_le
  rw [Batch.split, h, Except.ok_bind]
  exact Except.mapM_eq_ok_of fun r hr => if_neg (Nat.not_lt.2 (hinside r hr))

end RowRanges

/-- Rows are divided exactly, and in words as in numbers: no product, sum or difference on the way
is too large or negative. The pieces of a batch put together are the batch. -/
theorem planRowRanges_exact (total parts : UInt64) (hp : 1 ≤ parts.toNat)
    (hw : total.toNat + parts.toNat - 1 < UInt64.size) :
    ∃ rs, planRowRanges total.toNat parts.toNat = .ok rs ∧
      Word.rowRanges? total.toNat parts.toNat = some rs ∧
      AreRowRanges total.toNat parts.toNat rs ∧
      ∀ b : Batch, b.size = total.toNat → ∃ pieces,
        b.split parts.toNat = .ok pieces ∧ Word.split? b parts.toNat = some pieces ∧
        pieces.map Batch.size = rs.map Range.len ∧ (∀ p ∈ pieces, p.schema = b.schema) ∧
        Batch.concat b.schema pieces = b := by
  obtain ⟨rs, hrs, -, -⟩ := planRowRanges_eq_ok hp total.toNat
  have hrows := RowRanges.areRowRanges_of_eq_ok hp hrs
  refine ⟨rs, hrs, RowRanges.rowRanges?_eq hp hw parts.toNat_lt hrs, hrows, ?_⟩
  intro b hb
  rw [← hb] at hw hrs hrows
  refine ⟨_, RowRanges.split_eq hp hrs, RowRanges.split?_eq hp hw parts.toNat_lt hrs, ?_, ?_, ?_⟩
  · rw [List.map_map]
    refine List.map_congr_left fun r hr => ?_
    have hstop : r.start + r.len ≤ b.rows.length := hrows.tiles.stop_le hr
    show ((b.rows.drop r.start).take r.len).length = r.len
    rw [List.length_take, List.length_drop]
    omega
  · intro p hp
    obtain ⟨r, -, rfl⟩ := List.mem_map.1 hp
    rfl
  · have hall : rs.flatMap (Range.pick b.rows) = b.rows := hrows.tiles.flatMap_pick_all
    rw [Batch.concat, List.flatMap_map]
    exact congrArg (Batch.mk b.schema) hall

/-- Ten rows of no column: four, four and two. -/
theorem planRowRanges_exact_ten : 1 ≤ (3 : UInt64).toNat ∧
    (10 : UInt64).toNat + (3 : UInt64).toNat - 1 < UInt64.size ∧
    ∃ pieces, Batch.split ⟨[], List.replicate 10 []⟩ 3 = .ok pieces ∧
      pieces.map Batch.size = [4, 4, 2] ∧
      Batch.concat [] pieces = ⟨[], List.replicate 10 []⟩ := by
  obtain ⟨rs, hrs, -, -, hsplit⟩ := planRowRanges_exact 10 3 (by decide) (by decide)
  obtain ⟨pieces, hpieces, -, hsizes, -, hconcat⟩ := hsplit ⟨[], List.replicate 10 []⟩ rfl
  refine ⟨by decide, by decide, pieces, hpieces, ?_, hconcat⟩
  have hten : planRowRanges 10 3 = .ok [⟨0, 4⟩, ⟨4, 4⟩, ⟨8, 2⟩] := rfl
  cases hten.symm.trans hrs
  exact hsizes

/-- With the largest sum there may be, the last product is the largest word. -/
example : Word.rowRanges? 18446744073709551613 3 =
    some [⟨0, 6148914691236517205⟩, ⟨6148914691236517205, 6148914691236517205⟩,
      ⟨12297829382473034410, 6148914691236517203⟩] := by
  decide +kernel

end ShardQuery
