import ShardQuery.Source.Load
import ShardQuery.Proofs.Except
import Mathlib.Algebra.Order.Ring.Nat

namespace ShardQuery

namespace Range

/-- Ranges that lie end to end between two positions. -/
inductive Tiles : Nat → List Range → Nat → Prop where
  | nil : Tiles a [] a
  | cons : Tiles (a + n) rs b → Tiles a (⟨a, n⟩ :: rs) b

/-- The elements at the positions of a range. -/
def pick (l : List α) (r : Range) : List α := (l.drop r.start).take r.len

namespace Tiles

theorem le (h : Tiles a rs b) : a ≤ b := by
  induction h with
  | nil => exact Nat.le_refl _
  | cons _ ih => omega

theorem append (h : Tiles a rs b) (h' : Tiles b ss c) : Tiles a (rs ++ ss) c := by
  induction h with
  | nil => exact h'
  | cons _ ih => exact .cons (ih h')

theorem stop_le (h : Tiles a rs b) (hr : r ∈ rs) : r.stop ≤ b := by
  induction h with
  | nil => cases hr
  | cons h ih =>
    cases hr with
    | head => exact h.le
    | tail _ hr => exact ih hr

/-- Nothing between the two positions is lost, and nothing is taken twice. -/
theorem flatMap_pick (h : Tiles a rs b) (l : List α) :
    rs.flatMap (pick l) = (l.drop a).take (b - a) := by
  induction h with
  | nil => simp
  | @cons a n rs b h ih =>
    have hle := h.le
    have hb : b - a = n + (b - (a + n)) := by omega
    rw [List.flatMap_cons, ih, pick, hb, List.take_add, List.drop_drop]

theorem flatMap_pick_all {l : List α} (h : Tiles 0 rs l.length) : rs.flatMap (pick l) = l := by
  rw [h.flatMap_pick, List.drop_zero, Nat.sub_zero, List.take_length]

end Tiles

theorem tiles_layOut (start : Nat) (lens : List Nat) :
    Tiles start (layOut start lens) (start + lens.sum) := by
  induction lens generalizing start with
  | nil => exact .nil
  | cons len lens ih =>
    rw [List.sum_cons, ← Nat.add_assoc]
    exact .cons (ih _)

theorem tiles_edges {f : Nat → Nat} (h : ∀ i, f i ≤ f (i + 1)) (n : Nat) :
    Tiles (f 0) ((List.range n).map fun i => ⟨f i, f (i + 1) - f i⟩) (f n) := by
  induction n with
  | zero => exact .nil
  | succ n ih =>
    rw [List.range_succ, List.map_append]
    refine ih.append (.cons ?_)
    rw [Nat.add_sub_cancel' (h n)]
    exact .nil

end Range

theorem le_mul_ceilDiv (total : Nat) (hn : 0 < n) : total ≤ n * ceilDiv total n := by
  have hd := Nat.div_add_mod (total + (n - 1)) n
  have hm := Nat.mod_lt (total + (n - 1)) hn
  rw [ceilDiv]
  omega

theorem planRowRanges_eq_ok (hn : 0 < n) (total : Nat) :
    ∃ rs, planRowRanges total n = .ok rs ∧ rs.length = n ∧ Range.Tiles 0 rs total := by
  refine ⟨_, if_neg hn.ne', by rw [List.length_map, List.length_range], ?_⟩
  have ht := Range.tiles_edges (f := fun i => min (i * ceilDiv total n) total)
    (fun i => by rw [Nat.succ_mul]; omega) n
  have h0 : min (0 * ceilDiv total n) total = 0 := by rw [Nat.zero_mul, Nat.zero_min]
  rw [h0, Nat.min_eq_right (le_mul_ceilDiv total hn)] at ht
  exact ht

namespace Batch

theorem split_eq_ok (b : Batch) (hn : 0 < n) :
    ∃ parts, b.split n = .ok parts ∧ parts.length = n ∧
      (∀ p ∈ parts, p.schema = b.schema) ∧ parts.flatMap Batch.rows = b.rows := by
  obtain ⟨rs, hrs, hlen, ht⟩ := planRowRanges_eq_ok hn b.size
  have hcut : rs.mapM b.cut = .ok (rs.map fun r => b.slice r.start r.len) :=
    Except.mapM_eq_ok_of fun r hr => if_neg (Nat.not_lt.2 (ht.stop_le hr))
  refine ⟨_, by rw [split, hrs, Except.ok_bind, hcut], by rw [List.length_map, hlen], ?_, ?_⟩
  · intro p hp
    obtain ⟨r, _, rfl⟩ := List.mem_map.1 hp
    rfl
  · rw [List.flatMap_map]
    exact ht.flatMap_pick_all

end Batch

namespace Range

theorem pick_zipIdx (l : List α) (r : Range) :
    pick l.zipIdx r = (pick l r).zipIdx.map fun p => (p.1, r.start + p.2) := by
  refine List.ext_getElem? fun i => ?_
  by_cases hi : i < r.len
  · simp [pick, hi, Function.comp_def]
  · simp [pick, hi]

theorem mapM_flatMap_pick {α ε β : Type} {f : α → Except ε β} {g : Range → List β} {l : List α}
    {rs : List Range} (h : ∀ r ∈ rs, (pick l r).mapM f = .ok (g r)) :
    (rs.flatMap (pick l)).mapM f = .ok (rs.flatMap g) := by
  induction rs with
  | nil => rfl
  | cons r rs ih =>
    rw [List.flatMap_cons, List.flatMap_cons]
    exact Except.mapM_append_eq_ok (h r (List.mem_cons_self ..))
      (ih fun r hr => h r (List.mem_cons_of_mem _ hr))

end Range

namespace TableReference

theorem validate_eq_ok_iff {t : TableReference} : t.validate = .ok () ↔
    t.columnNames.length = t.columnTypes.length ∧
      (t.rowGroups.map List.length).getD t.locations.length = t.locations.length ∧
      (t.uris.map List.length).getD t.locations.length = t.locations.length := by
  rw [validate]
  split
  · next h => exact iff_of_false (by simp) fun h' => h h'.1
  · next h =>
    rw [ne_eq, not_not] at h
    split
    · next h' => exact iff_of_false (by simp) fun hall => h' hall.2.1
    · next h' =>
      split
      · next h'' => exact iff_of_false (by simp) fun hall => h'' hall.2.2
      · next h'' => exact iff_of_true rfl ⟨h, not_not.1 h', not_not.1 h''⟩

/-- References that differ only in their files and in what goes with these. -/
structure Akin (t s : TableReference) : Prop where
  name : s.name = t.name
  kind : s.kind = t.kind
  columnNames : s.columnNames = t.columnNames
  columnTypes : s.columnTypes = t.columnTypes

theorem groupsAt_restrict (t : TableReference) (start : Nat) (hi : i < n) :
    (t.restrict start n).groupsAt i = t.groupsAt (start + i) := by
  simp only [groupsAt, restrict]
  cases t.rowGroups with
  | none => rfl
  | some ids => simp [hi]

theorem loadFile_restrict (t : TableReference) (store : FileStore) (path : String) (start : Nat)
    (hi : i < n) :
    (t.restrict start n).loadFile store path i = t.loadFile store path (start + i) := by
  simp only [loadFile, readFile, groupsAt_restrict t start hi]
  rfl

theorem load_eq (t : TableReference) (store : FileStore) :
    t.load store =
      (t.locations.zipIdx.mapM fun p => t.loadFile store p.1 p.2).map (Batch.concat t.schema) :=
  rfl

theorem load_restrict (t : TableReference) (store : FileStore) (r : Range) :
    (t.restrict r.start r.len).load store =
      ((Range.pick t.locations.zipIdx r).mapM fun p => t.loadFile store p.1 p.2).map
        (Batch.concat t.schema) := by
  have hl : (t.restrict r.start r.len).locations = Range.pick t.locations r := rfl
  have hm := Except.mapM_congr (l := (Range.pick t.locations r).zipIdx)
    (f := fun p => (t.restrict r.start r.len).loadFile store p.1 p.2)
    (g := fun p => t.loadFile store p.1 (r.start + p.2)) fun p hp => by
      apply loadFile_restrict t store p.1 r.start
      have hlt := List.snd_lt_of_mem_zipIdx hp
      have hle : (Range.pick t.locations r).length ≤ r.len := List.length_take_le ..
      omega
  rw [load_eq, hl, hm, Range.pick_zipIdx, List.mapM_map]
  rfl

end TableReference

namespace Slice

theorem sum_evenLengths (total : Nat) : ∀ n, 0 < n → (evenLengths total n).sum = total := by
  intro n
  induction n generalizing total with
  | zero => exact fun h => absurd h (Nat.lt_irrefl 0)
  | succ n ih =>
    intro _
    rw [evenLengths, List.sum_cons]
    cases n with
    | zero => simp [evenLengths]
    | succ n =>
      rw [ih _ (Nat.succ_pos n), Nat.add_sub_cancel' (Nat.div_le_self ..)]

theorem length_evenLengths (total n : Nat) : (evenLengths total n).length = n := by
  induction n generalizing total with
  | zero => rfl
  | succ n ih => rw [evenLengths, List.length_cons, ih]

end Slice

namespace Planner

theorem checkParts_pos (hn : 0 < n) : Slice.checkParts n = .ok () := if_neg hn.ne'

theorem planEvenly_eq_ok (hn : 0 < n) (hp : Slice.planEvenly t n = .ok slices) :
    t.locations = [] ∧ slices = Slice.schemaOnly t n ∨
      ∃ rs, rs.length = n ∧ Range.Tiles 0 rs t.locations.length ∧
        slices = rs.map fun r => ⟨t.restrict r.start r.len, r, none⟩ := by
  rw [Slice.planEvenly, checkParts_pos hn, Except.ok_bind] at hp
  obtain ⟨_, _, hp⟩ := Except.bind_eq_ok_iff.1 hp
  split at hp
  · next he =>
    cases hp
    exact .inl ⟨List.isEmpty_iff.1 he, rfl⟩
  · cases hp
    have ht := Range.tiles_layOut 0 (Slice.evenLengths t.locations.length n)
    rw [Slice.sum_evenLengths _ _ hn, Nat.zero_add] at ht
    exact .inr ⟨_, by rw [Range.length_layOut, Slice.length_evenLengths], ht, rfl⟩

theorem exists_planEvenly (hn : 0 < n) (hv : t.validate = .ok ()) :
    ∃ slices, Slice.planEvenly t n = .ok slices := by
  rw [Slice.planEvenly, checkParts_pos hn, hv, Except.ok_bind, Except.ok_bind]
  split
  · exact ⟨_, rfl⟩
  · exact ⟨_, rfl⟩

theorem length_planEvenly (hn : 0 < n) (hp : Slice.planEvenly t n = .ok slices) :
    slices.length = n := by
  rcases planEvenly_eq_ok hn hp with ⟨_, rfl⟩ | ⟨rs, hlen, _, rfl⟩
  · exact List.length_replicate
  · rw [List.length_map, hlen]

/-- The files of the slices are those of the table, in order. -/
theorem flatMap_planEvenly (hn : 0 < n) (hp : Slice.planEvenly t n = .ok slices) :
    slices.flatMap (·.table.locations) = t.locations := by
  rcases planEvenly_eq_ok hn hp with ⟨hl, rfl⟩ | ⟨rs, -, ht, rfl⟩
  · rw [hl, List.flatMap_eq_nil_iff]
    intro s hs
    rw [List.eq_of_mem_replicate hs]
    rfl
  · rw [List.flatMap_map]
    exact ht.flatMap_pick_all

theorem name_planEvenly (hn : 0 < n) (hp : Slice.planEvenly t n = .ok slices)
    (hs : s ∈ slices) : s.table.name = t.name := by
  rcases planEvenly_eq_ok hn hp with ⟨_, rfl⟩ | ⟨rs, _, _, rfl⟩
  · rw [List.eq_of_mem_replicate hs]
    rfl
  · obtain ⟨r, _, rfl⟩ := List.mem_map.1 hs
    rfl

theorem name_planMapped (hn : 0 < n) (hp : Slice.planMapped t n = .ok slices)
    (hs : s ∈ slices) : s.table.name = t.name := by
  rw [Slice.planMapped, checkParts_pos hn, Except.ok_bind] at hp
  obtain ⟨_, _, hp⟩ := Except.bind_eq_ok_iff.1 hp
  have hreplicate : slices = Slice.schemaOnly t n → s.table.name = t.name := by
    rintro rfl
    rw [List.eq_of_mem_replicate hs]
    rfl
  split at hp
  · cases hp
    exact hreplicate rfl
  · cases hp
    exact hreplicate rfl
  · cases hp
    rw [← List.map_uncurry_zip_eq_zipWith] at hs
    obtain ⟨_, _, rfl⟩ := List.mem_map.1 hs
    rfl

theorem length_planTable (hn : 0 < n) (hp : planTable ⟨n⟩ t = .ok slices) :
    slices.length = n := by
  rw [planTable] at hp
  split at hp
  · exact length_planEvenly hn hp
  · exact length_planEvenly hn hp
  · obtain ⟨ss, _, hp⟩ := Except.bind_eq_ok_iff.1 hp
    split at hp
    · next hlen =>
      cases hp
      exact hlen
    · cases hp

theorem name_planTable (hn : 0 < n) (hp : planTable ⟨n⟩ t = .ok slices) (hs : s ∈ slices) :
    s.table.name = t.name := by
  rw [planTable] at hp
  split at hp
  · exact name_planEvenly hn hp hs
  · exact name_planEvenly hn hp hs
  · obtain ⟨ss, hss, hp⟩ := Except.bind_eq_ok_iff.1 hp
    split at hp
    · cases hp
      exact name_planMapped hn hss hs
    · cases hp

/-- What the slices of a table come to, one after the other, is what the table comes to. -/
theorem load_planEvenly (hn : 0 < n) (hp : Slice.planEvenly t n = .ok slices)
    {g : Slice → Batch} (hg : ∀ s ∈ slices, s.load store = .ok (g s)) :
    t.load store = .ok (.concat t.schema (slices.map g)) ∧
      ∀ s ∈ slices, (g s).schema = t.schema := by
  rcases planEvenly_eq_ok hn hp with ⟨hl, rfl⟩ | ⟨rs, _, ht, rfl⟩
  · have hempty : ∀ s ∈ Slice.schemaOnly t n, g s = .empty t.schema := by
      intro s hs
      have hload := hg s hs
      rw [List.eq_of_mem_replicate hs] at hload ⊢
      exact (Except.ok.inj hload).symm
    refine ⟨?_, fun s hs => by rw [hempty s hs]; rfl⟩
    have hrows : ((Slice.schemaOnly t n).map g).flatMap Batch.rows = [] := by
      rw [List.flatMap_eq_nil_iff]
      intro b hb
      obtain ⟨s, hs, rfl⟩ := List.mem_map.1 hb
      rw [hempty s hs]
      rfl
    rw [TableReference.load, hl, Batch.concat, hrows]
    rfl
  · have hload : ∀ r ∈ rs, ∃ bs,
        ((Range.pick t.locations.zipIdx r).mapM fun p => t.loadFile store p.1 p.2) =
          .ok bs ∧ .concat t.schema bs = g ⟨t.restrict r.start r.len, r, none⟩ := by
      intro r hr
      have hs := hg _ (List.mem_map_of_mem hr)
      rw [Slice.load, TableReference.load_restrict] at hs
      exact Except.map_eq_ok_iff.1 hs
    choose! bs hbs hconcat using hload
    have hall := Range.mapM_flatMap_pick hbs
    rw [Range.Tiles.flatMap_pick_all (by rwa [List.length_zipIdx])] at hall
    constructor
    · rw [TableReference.load_eq, hall, Except.map, List.map_map]
      have hrows := List.map_congr_left fun r hr => congrArg Batch.rows (hconcat r hr)
      simp only [Batch.concat] at hrows ⊢
      rw [List.flatMap_assoc, List.flatMap_map, List.flatMap_def, hrows, List.flatMap_def]
      rfl
    · intro s hs
      obtain ⟨r, hr, rfl⟩ := List.mem_map.1 hs
      rw [← hconcat r hr]
      rfl

end Planner

namespace TableReference

def divide (files : FileStore) (n : Nat) (t : TableReference) :
    Except QueryError (List Slice) := do
  t.validate
  let t ← t.resolve files
  Planner.planTable ⟨n⟩ t

theorem name_resolve (h : resolve files t = .ok t') :
    t'.name = t.name := by
  rw [resolve] at h
  split at h
  · cases h
    rfl
  · split at h
    · cases h
      rfl
    · obtain ⟨_, _, h⟩ := Except.bind_eq_ok_iff.1 h
      obtain ⟨_, _, h⟩ := Except.bind_eq_ok_iff.1 h
      cases h
      rfl

theorem name_divide (hn : 0 < n) (h : divide files n t = .ok slices)
    (hs : s ∈ slices) : s.table.name = t.name := by
  obtain ⟨_, _, h⟩ := Except.bind_eq_ok_iff.1 h
  obtain ⟨t', ht, h⟩ := Except.bind_eq_ok_iff.1 h
  rw [Planner.name_planTable hn h hs, name_resolve ht]

theorem length_divide (hn : 0 < n)
    (h : divide files n t = .ok slices) : slices.length = n := by
  obtain ⟨_, _, h⟩ := Except.bind_eq_ok_iff.1 h
  obtain ⟨t', ht, h⟩ := Except.bind_eq_ok_iff.1 h
  exact Planner.length_planTable hn h

end TableReference

end ShardQuery
