import ShardQuery.Membership
import ShardQuery.Proofs.Option
import Mathlib.Data.List.Nodup

namespace ShardQuery

/-! ### In two bytes -/

namespace Port

/-- A number that fits in two bytes. -/
def ofNat? (n : Nat) : Option UInt16 := if n < UInt16.size then some (.ofNat n) else none

/-- A sum in two bytes, none if it wraps. -/
def add? (a b : UInt16) : Option UInt16 := if a + b < a then none else some (a + b)

/-- The port at a distance from the first one. -/
def nth? (base : UInt16) (i : Nat) : Option UInt16 := do add? base (← ofNat? i)

/-- The first ports, in order. -/
def first? (base : UInt16) (count : Nat) : Option (List UInt16) :=
  (List.range count).mapM (nth? base)

variable {base : UInt16} {i count : Nat}

theorem add?_eq_some (h : a.toNat + b.toNat < UInt16.size) :
    add? a b = some (a + b) ∧ (a + b).toNat = a.toNat + b.toNat := by
  have hsum : (a + b).toNat = a.toNat + b.toNat := by
    rw [UInt16.toNat_add]
    exact Nat.mod_eq_of_lt h
  refine ⟨if_neg ?_, hsum⟩
  rw [UInt16.lt_iff_toNat_lt, hsum]
  omega

theorem add?_eq_none (h : UInt16.size ≤ a.toNat + b.toNat) : add? a b = none := by
  have ha := a.toNat_lt
  have hb := b.toNat_lt
  refine if_pos ?_
  rw [UInt16.lt_iff_toNat_lt, UInt16.toNat_add]
  rw [UInt16.size] at h
  omega

theorem nth?_eq_some (h : base.toNat + i < UInt16.size) :
    nth? base i = some (base + .ofNat i) ∧ (base + .ofNat i).toNat = base.toNat + i := by
  have hi : i < UInt16.size := by omega
  have hnat : (UInt16.ofNat i).toNat = i := UInt16.toNat_ofNat_of_lt' hi
  obtain ⟨hadd, hsum⟩ := add?_eq_some (a := base) (b := .ofNat i) (by rw [hnat]; exact h)
  refine ⟨?_, hsum.trans (by rw [hnat])⟩
  rw [nth?, ofNat?, if_pos hi]
  exact hadd

theorem nth?_eq_none (h : UInt16.size ≤ base.toNat + i) : nth? base i = none := by
  rw [nth?, ofNat?]
  split
  · next hi =>
    apply add?_eq_none
    rw [UInt16.toNat_ofNat_of_lt' hi]
    exact h
  · rfl

/-- The ports in two bytes are those counted in numbers. -/
theorem first?_eq_some (h : base.toNat + (count - 1) < UInt16.size) :
    (first? base count).map (List.map UInt16.toNat) =
      some ((List.range count).map (base.toNat + ·)) := by
  have hnth : ∀ i ∈ List.range count, base.toNat + i < UInt16.size := by
    intro i hi
    have := List.mem_range.1 hi
    omega
  have hports : first? base count = some ((List.range count).map (base + .ofNat ·)) := by
    refine mapM_eq_some_iff.2 ?_
    rw [List.map_map]
    exact List.map_congr_left fun i hi => (nth?_eq_some (hnth i hi)).1
  rw [hports, Option.map_some, List.map_map]
  exact congrArg some (List.map_congr_left fun i hi => (nth?_eq_some (hnth i hi)).2)

theorem first?_eq_none (h : UInt16.size ≤ base.toNat + (count - 1)) (hc : count ≠ 0) :
    first? base count = none :=
  mapM_eq_none_iff.2 ⟨count - 1, List.mem_range.2 (Nat.sub_one_lt hc), nth?_eq_none h⟩

/-- The port after the last one is none. -/
example : first? 65534 2 = some [65534, 65535] ∧ first? 65534 3 = none := by decide

end Port

namespace Membership

variable {ms : Membership} {ip : String} {base : UInt16} {count i k : Nat}

def place (ip : String) (base i : Nat) : Address := ⟨Decimal.natText i, ip, base + i⟩

theorem build_eq_ok_iff (hc : 1 ≤ count) :
    build count ip base.toNat = .ok ms ↔ base.toNat + count - 1 ≤ lastPort ∧
      ms = ⟨(List.range count).map (place ip base.toNat)⟩ := by
  have hfits : (count = 0 ∨ base.toNat + (count - 1) ≤ lastPort) ↔
      base.toNat + count - 1 ≤ lastPort := by omega
  rw [build]
  simp only [hfits]
  split
  · next h =>
    constructor
    · rintro ⟨⟩
      exact ⟨h, rfl⟩
    · rintro ⟨-, rfl⟩
      rfl
  · next h => exact iff_of_false (fun he => nomatch he) fun hok => h hok.1

theorem endpoint_place_inj (h : (place ip n i).endpoint = (place ip n j).endpoint) : i = j := by
  simp only [place, Address.endpoint, String.append_right_inj] at h
  exact Nat.add_left_cancel (Decimal.natText_injective h)

/-- Members at consecutive ports, each at an address of its own. -/
structure Spans (ms : Membership) (count : Nat) (ip : String) (base : UInt16) : Prop where
  size : ms.size = count
  entry : ∀ i < count, ms.participants[i]? = some (place ip base.toNat i)
  distinct : (ms.participants.map Address.endpoint).Nodup
  /-- A worker's id in four bytes is its place in the list. -/
  worker : ∀ i, i + 1 < count → (UInt32.ofNat i + 1).toNat = i + 1 ∧
    ParticipantId.worker i = ⟨i + 1⟩ ∧
    ms.addressOf (.worker i) = .ok (place ip base.toNat (i + 1))
  refused : ∀ k, count ≤ k → ms.addressOf ⟨k⟩ = .error (.transport
    ((ParticipantId.mk k).shown ++ " is not a member of this cluster (" ++
      Decimal.natText count ++ " participants)"))

theorem addressOf_of_getElem? (h : ms.participants[k]? = some a) : ms.addressOf ⟨k⟩ = .ok a := by
  rw [addressOf, get?, h]

theorem spans_of_build (hc : 1 ≤ count) (h : build count ip base.toNat = .ok ms) :
    ms.Spans count ip base := by
  obtain ⟨hfits, rfl⟩ := (build_eq_ok_iff hc).1 h
  rw [lastPort] at hfits
  have hentry : ∀ i < count,
      ((List.range count).map (place ip base.toNat))[i]? = some (place ip base.toNat i) := by
    intro i hi
    rw [List.getElem?_map, List.getElem?_range hi]
    rfl
  exact {
    size := by rw [size, List.length_map, List.length_range]
    entry := hentry
    distinct := by
      rw [List.map_map]
      exact List.nodup_range.map fun i j => endpoint_place_inj
    worker := by
      intro i hi
      have hnarrow : i < UInt32.size := by
        rw [UInt32.size]
        omega
      have hworker : ParticipantId.worker i = ⟨i + 1⟩ := by
        rw [ParticipantId.worker, Nat.mod_eq_of_lt hnarrow]
      refine ⟨?_, hworker, ?_⟩
      · rw [UInt32.toNat_add, UInt32.toNat_ofNat_of_lt' hnarrow, UInt32.toNat_one]
        exact Nat.mod_eq_of_lt (by omega)
      · rw [hworker]
        exact addressOf_of_getElem? (hentry (i + 1) hi)
    refused := by
      intro k hk
      have hnone : ((List.range count).map (place ip base.toNat))[k]? = none := by
        rw [List.getElem?_eq_none_iff, List.length_map, List.length_range]
        exact hk
      rw [addressOf, get?, hnone, size, List.length_map, List.length_range] }

end Membership

end ShardQuery
