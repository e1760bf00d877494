namespace ShardQuery.Text

/-- Whether a code point lies in one of the ranges, the ranges being in ascending order. -/
def inRanges (c : Nat) : List (Nat × Nat) → Bool
  | [] => false
  | (lo, hi) :: rest => if c < lo then false else if c ≤ hi then true else inRanges c rest

/-- What lies before the first range lies in none. -/
theorem inRanges_of_lt {c lo hi : Nat} {rest : List (Nat × Nat)} (h : c < lo) :
    inRanges c ((lo, hi) :: rest) = false := by
  simp [inRanges, h]

theorem exists_mem_of_inRanges {c : Nat} {rs : List (Nat × Nat)} (h : inRanges c rs = true) :
    ∃ r ∈ rs, r.1 ≤ c ∧ c ≤ r.2 := by
  induction rs with
  | nil => simp [inRanges] at h
  | cons r rest ih =>
    simp only [inRanges] at h
    split at h
    · simp at h
    · rename_i hlo
      split at h
      · rename_i hhi
        exact ⟨r, List.mem_cons_self, Nat.le_of_not_lt hlo, hhi⟩
      · obtain ⟨s, hs, hc⟩ := ih h
        exact ⟨s, List.mem_cons_of_mem _ hs, hc⟩

end ShardQuery.Text
