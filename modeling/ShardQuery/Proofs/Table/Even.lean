import ShardQuery.Proofs.Table.Plan
import Mathlib.Data.Nat.PSub

namespace ShardQuery

theorem Range.getElem?_layOut (start : Nat) (lens : List Nat) (i : Nat) :
    (layOut start lens)[i]? = lens[i]?.map fun len => ⟨start + (lens.take i).sum, len⟩ := by
  induction lens generalizing start i with
  | nil => rfl
  | cons len lens ih =>
    cases i with
    | zero => rfl
    | succ i =>
      rw [layOut, List.getElem?_cons_succ, ih, List.getElem?_cons_succ, List.take_succ_cons,
        List.sum_cons, Nat.add_assoc]

theorem Range.length_pick {r : Range} {l : List α} (h : r.stop ≤ l.length) :
    (r.pick l).length = r.len := by
  rw [stop] at h
  rw [pick, List.length_take, List.length_drop]
  omega

/-- How far a division is: where the next share starts, and how much is left. -/
structure Cutting where
  start : Nat
  left : Nat

namespace Cutting

/-- Cuts off the share at position `i` of `n` from a list of `total` elements. There is none where
a difference would be negative, a divisor zero, or the share would not lie in the list. -/
def next? (total n i : Nat) (c : Cutting) : Option (Range × Cutting) :=
  match n.psub i with
  | none | some 0 => none
  | some shares => do
    let len := if i + 1 = n then c.left else c.left / shares
    let left ← c.left.psub len
    if c.start + len ≤ total then some (⟨c.start, len⟩, ⟨c.start + len, left⟩) else none

/-- Cuts off the shares at some positions, one after another. -/
def run? (total n : Nat) : List Nat → Cutting → Option (List Range)
  | [], _ => some []
  | i :: is, c => do
    let (r, c) ← c.next? total n i
    let rs ← run? total n is c
    some (r :: rs)

variable {c : Cutting} {total n i k : Nat}

theorem next?_eq (hn : i + (k + 1) = n) (hc : c.start + c.left = total) :
    c.next? total n i = some (⟨c.start, c.left / (k + 1)⟩,
      ⟨c.start + c.left / (k + 1), c.left - c.left / (k + 1)⟩) := by
  have hshares : n.psub i = some (k + 1) := by
    rw [Nat.psub_eq_sub (by omega)]
    congr 1
    omega
  have hlen : (if i + 1 = n then c.left else c.left / (k + 1)) = c.left / (k + 1) := by
    split
    · next hlast =>
      have hk : k = 0 := by omega
      rw [hk, Nat.zero_add, Nat.div_one]
    · rfl
  have hle : c.left / (k + 1) ≤ c.left := Nat.div_le_self ..
  have hlist : c.start + c.left / (k + 1) ≤ total := by omega
  simp only [next?, hshares, hlen, Nat.psub_eq_sub hle, if_pos hlist]
  rfl

/-- Start and rest together are the whole list before every share. -/
theorem run?_eq (hn : i + k = n) (hc : c.start + c.left = total) :
    run? total n (List.range' i k) c =
      some (Range.layOut c.start (Slice.evenLengths c.left k)) := by
  induction k generalizing i c with
  | zero => rfl
  | succ k ih =>
    have hle : c.left / (k + 1) ≤ c.left := Nat.div_le_self ..
    have hrest := ih (i := i + 1)
      (c := ⟨c.start + c.left / (k + 1), c.left - c.left / (k + 1)⟩) (by omega) (by
        show c.start + c.left / (k + 1) + (c.left - c.left / (k + 1)) = total
        omega)
    rw [List.range'_succ, run?, next?_eq hn hc]
    show (run? total n (List.range' (i + 1) k) _ >>= _) = _
    rw [hrest]
    rfl

theorem run?_all (total n : Nat) : run? total n (List.range n) ⟨0, total⟩ =
    some (Range.layOut 0 (Slice.evenLengths total n)) := by
  rw [List.range_eq_range']
  apply run?_eq
  · exact Nat.zero_add n
  · exact Nat.zero_add total

end Cutting

/-- With the first of `n + 1` shares gone, the others are those that `n` shares of the rest have. -/
theorem div_of_rest (total : Nat) (hi : i < n) :
    (total - total / (n + 1) + i) / n = (total + (i + 1)) / (n + 1) := by
  obtain ⟨q, m, hm, rfl⟩ : ∃ q m, m < n + 1 ∧ total = (n + 1) * q + m :=
    ⟨total / (n + 1), total % (n + 1), Nat.mod_lt _ (Nat.succ_pos n), (Nat.div_add_mod ..).symm⟩
  have hq : ((n + 1) * q + m) / (n + 1) = q := by
    rw [Nat.mul_add_div (Nat.succ_pos n), Nat.div_eq_of_lt hm, Nat.add_zero]
  have hrest : (n + 1) * q + m - q + i = n * q + (m + i) := by
    rw [Nat.succ_mul]
    omega
  have hn : 0 < n := Nat.zero_lt_of_lt hi
  rw [hq, hrest, Nat.add_assoc, Nat.mul_add_div hn, Nat.mul_add_div (Nat.succ_pos n)]
  congr 1
  -- either sum is below its divisor or at least as large, and both are below twice of it
  by_cases h : m + i < n
  · rw [Nat.div_eq_of_lt h, Nat.div_eq_of_lt (by omega)]
  · have hone : (m + i) / n = 1 := Nat.div_eq_of_lt_le (by omega) (by omega)
    have hone' : (m + (i + 1)) / (n + 1) = 1 := Nat.div_eq_of_lt_le (by omega) (by omega)
    rw [hone, hone']

theorem Slice.getElem?_evenLengths (total : Nat) (hi : i < n) :
    (evenLengths total n)[i]? = some ((total + i) / n) := by
  induction n generalizing total i with
  | zero => exact absurd hi (Nat.not_lt_zero i)
  | succ n ih =>
    rw [evenLengths]
    cases i with
    | zero => rfl
    | succ i =>
      have hi : i < n := Nat.lt_of_succ_lt_succ hi
      rw [List.getElem?_cons_succ, ih _ hi, div_of_rest total hi]

theorem TableReference.validate_restrict {t : TableReference} {r : Range}
    (hv : t.validate = .ok ()) (hr : r.stop ≤ t.locations.length) :
    (t.restrict r.start r.len).validate = .ok () := by
  obtain ⟨hcolumns, hgroups, huris⟩ := validate_eq_ok_iff.1 hv
  have hlocations : (t.restrict r.start r.len).locations.length = r.len := Range.length_pick hr
  apply validate_eq_ok_iff.2
  rw [hlocations]
  refine ⟨hcolumns, ?_, ?_⟩
  · show ((t.rowGroups.map r.pick).map List.length).getD r.len = r.len
    cases hids : t.rowGroups with
    | none => rfl
    | some ids =>
      rw [hids] at hgroups
      exact Range.length_pick (hr.trans (Nat.le_of_eq hgroups.symm))
  · show ((t.uris.map r.pick).map List.length).getD r.len = r.len
    cases hus : t.uris with
    | none => rfl
    | some us =>
      rw [hus] at huris
      exact Range.length_pick (hr.trans (Nat.le_of_eq huris.symm))

namespace Slice

/-- The share at position `i` of `n`: the files of its range with what goes with them. -/
structure IsEven (t : TableReference) (n i : Nat) (s : Slice) : Prop where
  len : s.offset.len = (t.locations.length + i) / n
  size : s.table.locations.length = s.offset.len
  inside : s.offset.stop ≤ t.locations.length
  locations : s.table.locations = s.offset.pick t.locations
  rowGroups : s.table.rowGroups = t.rowGroups.map s.offset.pick
  uris : s.table.uris = t.uris.map s.offset.pick
  akin : t.Akin s.table
  valid : s.table.validate = .ok ()

variable {t : TableReference} {n : Nat}

def ofRange (t : TableReference) (r : Range) : Slice := ⟨t.restrict r.start r.len, r, none⟩

def evenRanges (t : TableReference) (n : Nat) : List Range :=
  Range.layOut 0 (evenLengths t.locations.length n)

theorem planEvenly_eq (hv : t.validate = .ok ()) (hl : t.locations ≠ []) (hn : 0 < n) :
    planEvenly t n = .ok ((evenRanges t n).map (ofRange t)) := by
  have hempty : ¬ t.locations.isEmpty = true := by rwa [List.isEmpty_iff]
  rw [planEvenly, Planner.checkParts_pos hn, Except.ok_bind, hv, Except.ok_bind, if_neg hempty]
  rfl

theorem tiles_evenRanges (hn : 0 < n) :
    Range.Tiles 0 (evenRanges t n) t.locations.length := by
  have ht := Range.tiles_layOut 0 (evenLengths t.locations.length n)
  rwa [sum_evenLengths _ _ hn, Nat.zero_add] at ht

theorem length_evenRanges : (evenRanges t n).length = n := by
  rw [evenRanges, Range.length_layOut, length_evenLengths]

theorem isEven_ofRange (hv : t.validate = .ok ()) (hn : 0 < n)
    (hr : (evenRanges t n)[i]? = some r) : (ofRange t r).IsEven t n i := by
  have hi : i < n := by
    have hlt := (List.getElem?_eq_some_iff.1 hr).1
    rwa [length_evenRanges] at hlt
  have hinside : r.stop ≤ t.locations.length :=
    (tiles_evenRanges hn).stop_le (List.mem_of_getElem? hr)
  rw [evenRanges, Range.getElem?_layOut, getElem?_evenLengths _ hi] at hr
  exact {
    len := by
      cases hr
      rfl
    size := Range.length_pick hinside
    inside := hinside
    locations := rfl
    rowGroups := rfl
    uris := rfl
    akin := ⟨rfl, rfl, rfl, rfl⟩
    valid := TableReference.validate_restrict hv hinside }

theorem IsEven.balanced (hs : IsEven t n i s) (hs' : IsEven t n j s') (hij : i ≤ j) (hj : j < n) :
    s.offset.len ≤ s'.offset.len ∧ s'.offset.len ≤ s.offset.len + 1 := by
  have hn : 0 < n := Nat.zero_lt_of_lt hj
  rw [hs.len, hs'.len]
  constructor
  · apply Nat.div_le_div_right
    omega
  · rw [← Nat.add_div_right _ hn]
    apply Nat.div_le_div_right
    omega

/-- What the shares take of a list that goes by location makes up the list. -/
theorem flatMap_pick_evenRanges (hn : 0 < n) {l : List α} (hl : l.length = t.locations.length) :
    (evenRanges t n).flatMap (Range.pick l) = l := by
  apply Range.Tiles.flatMap_pick_all
  rw [hl]
  exact tiles_evenRanges hn

/-- A table is divided evenly: the shares lie end to end, each has its size by a formula and keeps
its part of every list, and cutting them off one by one never fails. -/
theorem planEvenly_balanced (hv : t.validate = .ok ()) (hl : t.locations ≠ []) (hn : 0 < n) :
    ∃ slices, planEvenly t n = .ok slices ∧ slices.length = n ∧
      (∀ (i : Nat) (s : Slice), slices[i]? = some s → s.IsEven t n i) ∧
      (∀ (i j : Nat) (s s' : Slice), i ≤ j → slices[i]? = some s → slices[j]? = some s' →
        s.offset.len ≤ s'.offset.len ∧ s'.offset.len ≤ s.offset.len + 1) ∧
      Range.Tiles 0 (slices.map Slice.offset) t.locations.length ∧
      slices.flatMap (·.table.locations) = t.locations ∧
      (∀ ids, t.rowGroups = some ids → slices.flatMap (·.table.rowGroups.getD []) = ids) ∧
      (∀ us, t.uris = some us → slices.flatMap (·.table.uris.getD []) = us) ∧
      Cutting.run? t.locations.length n (List.range n) ⟨0, t.locations.length⟩ =
        some (slices.map Slice.offset) := by
  obtain ⟨-, hgroups, huris⟩ := TableReference.validate_eq_ok_iff.1 hv
  have hoffsets : ((evenRanges t n).map (ofRange t)).map Slice.offset = evenRanges t n := by
    rw [List.map_map]
    exact List.map_id _
  have heven : ∀ (i : Nat) (s : Slice),
      ((evenRanges t n).map (ofRange t))[i]? = some s → s.IsEven t n i := by
    intro i s hs
    rw [List.getElem?_map] at hs
    obtain ⟨r, hr, rfl⟩ := Option.map_eq_some_iff.1 hs
    exact isEven_ofRange hv hn hr
  refine ⟨_, planEvenly_eq hv hl hn, ?_, heven, ?_, ?_, ?_, ?_, ?_, ?_⟩
  · rw [List.length_map, length_evenRanges]
  · intro i j s s' hij hs hs'
    have hj := (List.getElem?_eq_some_iff.1 hs').1
    rw [List.length_map, length_evenRanges] at hj
    exact (heven i s hs).balanced (heven j s' hs') hij hj
  · rw [hoffsets]
    exact tiles_evenRanges hn
  · rw [List.flatMap_map]
    exact flatMap_pick_evenRanges hn rfl
  · intro ids hids
    rw [hids] at hgroups
    simp only [List.flatMap_map, ofRange, TableReference.restrict, hids]
    exact flatMap_pick_evenRanges hn hgroups
  · intro us hus
    rw [hus] at huris
    simp only [List.flatMap_map, ofRange, TableReference.restrict, hus]
    exact flatMap_pick_evenRanges hn huris
  · rw [hoffsets]
    exact Cutting.run?_all ..

def five : TableReference :=
  { name := "t", kind := .parquet, locations := ["a", "b", "c", "d", "e"],
    rowGroups := some [[0], [1, 0], [], [2], [3]] }

theorem planEvenly_balanced_five : five.validate = .ok () ∧ five.locations ≠ [] ∧
    ∃ slices, planEvenly five 3 = .ok slices ∧
      slices.map (·.table.locations) = [["a"], ["b", "c"], ["d", "e"]] ∧
      slices.flatMap (·.table.rowGroups.getD []) = [[0], [1, 0], [], [2], [3]] := by
  obtain ⟨slices, hplan, -, -, -, -, -, hgroups, -⟩ :=
    planEvenly_balanced (t := five) (n := 3) rfl (by decide) (by decide)
  have hsizes : planEvenly five 3 = .ok ([⟨0, 1⟩, ⟨1, 2⟩, ⟨3, 2⟩].map (ofRange five)) := rfl
  refine ⟨rfl, by decide, slices, hplan, ?_, hgroups _ rfl⟩
  rw [hsizes] at hplan
  cases hplan
  rfl

end Slice

end ShardQuery
