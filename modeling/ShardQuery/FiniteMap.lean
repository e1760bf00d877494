namespace ShardQuery

structure FiniteMap (κ : Type u) (ν : Type v) where
  entries : List (κ × ν)
  nodup : (entries.map Prod.fst).Nodup
deriving DecidableEq, Repr

namespace FiniteMap

variable {κ : Type u} {ν : Type v} [DecidableEq κ]

def empty : FiniteMap κ ν := ⟨[], List.nodup_nil⟩

def find? (m : FiniteMap κ ν) (k : κ) : Option ν :=
  (m.entries.find? (·.1 = k)).map Prod.snd

def contains (m : FiniteMap κ ν) (k : κ) : Bool := (m.find? k).isSome

def keys (m : FiniteMap κ ν) : List κ := m.entries.map Prod.fst

def size (m : FiniteMap κ ν) : Nat := m.entries.length

def erase (m : FiniteMap κ ν) (k : κ) : FiniteMap κ ν where
  entries := m.entries.filter (·.1 ≠ k)
  nodup := m.nodup.sublist (List.filter_sublist.map Prod.fst)

theorem notMem_keys_erase (m : FiniteMap κ ν) (k : κ) :
    k ∉ (m.erase k).entries.map Prod.fst := by
  simp [erase]

/-- The map with a value at a key, replacing an older one. -/
def insert (m : FiniteMap κ ν) (k : κ) (v : ν) : FiniteMap κ ν where
  entries := (k, v) :: (m.erase k).entries
  nodup := List.nodup_cons.2 ⟨m.notMem_keys_erase k, (m.erase k).nodup⟩

@[simp] theorem find?_empty (k : κ) : (empty : FiniteMap κ ν).find? k = none := rfl

@[simp, grind =]
theorem find?_erase (m : FiniteMap κ ν) (k l : κ) :
    (m.erase k).find? l = if l = k then none else m.find? l := by
  simp only [find?, erase, List.find?_filter]
  split
  · next h =>
    subst h
    rw [List.find?_eq_none.2 (by simp +contextual)]
    rfl
  · next h =>
    congr 2
    funext p
    by_cases hp : p.1 = l <;> simp [hp, h]

@[simp, grind =]
theorem find?_insert (m : FiniteMap κ ν) (k l : κ) (v : ν) :
    (m.insert k v).find? l = if l = k then some v else m.find? l := by
  by_cases h : l = k
  · simp [find?, insert, h]
  · have : ¬ k = l := fun e => h e.symm
    have he := find?_erase m k l
    simp only [find?, if_neg h] at he
    simp [find?, insert, h, this, he]

theorem contains_of_find? {m : FiniteMap κ ν} {k : κ} (h : m.find? k = some v) :
    m.contains k = true := by
  rw [contains, h]
  rfl

theorem not_contains_of_find? {m : FiniteMap κ ν} {k : κ} (h : m.find? k = none) :
    m.contains k = false := by
  rw [contains, h]
  rfl

theorem contains_congr {m n : FiniteMap κ ν} {k : κ} (h : m.find? k = n.find? k) :
    m.contains k = n.contains k := by
  rw [contains, contains, h]

@[simp, grind =]
theorem contains_insert (m : FiniteMap κ ν) (k l : κ) (v : ν) :
    (m.insert k v).contains l = (decide (l = k) || m.contains l) := by
  rw [contains, contains, find?_insert]
  by_cases h : l = k <;> simp [h]

@[simp, grind =]
theorem contains_erase (m : FiniteMap κ ν) (k l : κ) :
    (m.erase k).contains l = (decide (l ≠ k) && m.contains l) := by
  rw [contains, contains, find?_erase]
  by_cases h : l = k <;> simp [h]

theorem find?_of_erase {m : FiniteMap κ ν} {k l : κ} (h : (m.erase k).find? l = some v) :
    m.find? l = some v := by
  rw [find?_erase] at h
  split at h
  · cases h
  · exact h

theorem find?_eq_none_iff (m : FiniteMap κ ν) (k : κ) : m.find? k = none ↔ k ∉ m.keys := by
  simp only [find?, keys, Option.map_eq_none_iff, List.find?_eq_none, List.mem_map]
  grind

theorem erase_of_notMem (m : FiniteMap κ ν) {k : κ} (h : k ∉ m.keys) : m.erase k = m := by
  cases m with
  | mk es nd =>
    simp only [erase, FiniteMap.mk.injEq]
    refine List.filter_eq_self.2 fun p hp => ?_
    simp only [keys, List.mem_map, not_exists, not_and] at h
    simpa using h p hp

theorem mem_keys_iff {m : FiniteMap κ ν} {k : κ} : k ∈ m.keys ↔ m.contains k = true := by
  rw [contains, Option.isSome_iff_ne_none, ne_eq, find?_eq_none_iff, Classical.not_not]

theorem keys_erase (m : FiniteMap κ ν) (k : κ) : (m.erase k).keys = m.keys.erase k := by
  rw [keys, keys, m.nodup.erase_eq_filter, List.filter_map, erase]
  congr 1
  refine List.filter_congr fun p _ => ?_
  by_cases h : p.1 = k <;> simp [h]

@[simp]
theorem size_erase (m : FiniteMap κ ν) (k : κ) :
    (m.erase k).size = if m.contains k then m.size - 1 else m.size := by
  have hkeys (m : FiniteMap κ ν) : m.size = m.keys.length := (List.length_map _).symm
  rw [hkeys, hkeys, keys_erase, List.length_erase]
  by_cases h : k ∈ m.keys
  · rw [if_pos h, if_pos (mem_keys_iff.1 h)]
  · rw [if_neg h, if_neg fun hc => h (mem_keys_iff.2 hc)]

theorem size_pos {m : FiniteMap κ ν} {k : κ} (h : m.contains k = true) : 0 < m.size := by
  rw [size, ← List.length_map Prod.fst]
  exact List.length_pos_of_mem (mem_keys_iff.2 h)

/-- A key that was there already is not counted again. -/
@[simp]
theorem size_insert (m : FiniteMap κ ν) (k : κ) (v : ν) :
    (m.insert k v).size = if m.contains k then m.size else m.size + 1 := by
  have hinsert : (m.insert k v).size = (m.erase k).size + 1 := rfl
  rw [hinsert, size_erase]
  split
  · next h =>
    have hpos := size_pos h
    omega
  · rfl

end FiniteMap

end ShardQuery
