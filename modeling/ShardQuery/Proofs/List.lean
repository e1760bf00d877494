import Mathlib.Data.List.Nodup
import Mathlib.Data.List.Perm.Basic

namespace ShardQuery

section Lookup

variable {l : List (Nat × α)}

theorem lookup_modify (l : List (Nat × α)) (o n : Nat) (f : α → α) :
    (l.map fun (k, a) => if k = o then (k, f a) else (k, a)).lookup n =
      if n = o then (l.lookup n).map f else l.lookup n := by
  induction l with
  | nil => simp
  | cons p l ih =>
    obtain ⟨k, a⟩ := p
    rw [List.map_cons, List.lookup_cons]
    by_cases hk : k = o <;> by_cases hn : n = k <;> grind

theorem lookup_filter_ne (l : List (Nat × α)) (o n : Nat) :
    (l.filter (·.1 ≠ o)).lookup n = if n = o then none else l.lookup n := by
  induction l with
  | nil => simp
  | cons p l ih =>
    obtain ⟨k, a⟩ := p
    by_cases hk : k = o <;> by_cases hn : n = k <;> grind

@[simp, grind =]
theorem lookup_snoc (l : List (Nat × α)) (o n : Nat) (a : α) :
    (l ++ [(o, a)]).lookup n = (l.lookup n).or (if n = o then some a else none) := by
  rw [List.lookup_append, List.lookup_cons, List.lookup_nil]
  by_cases hn : n = o
  · simp [hn]
  · simp [beq_false_of_ne hn, hn]

theorem lookup_of_mem [BEq κ] [LawfulBEq κ] {l : List (κ × α)} (hl : (l.map Prod.fst).Nodup)
    (h : (o, a) ∈ l) : l.lookup o = some a := by
  induction l with
  | nil => cases h
  | cons p l ih =>
    obtain ⟨k, b⟩ := p
    obtain ⟨hk, hl⟩ := List.nodup_cons.1 hl
    rcases List.mem_cons.1 h with he | hmem
    · cases he
      exact List.lookup_cons_self
    · have hne : o ≠ k := by
        intro he
        rw [he] at hmem
        exact hk (List.mem_map.2 ⟨_, hmem, rfl⟩)
      rw [List.lookup_cons, beq_false_of_ne hne]
      exact ih hl hmem

/-- A thing under its number, and what changing it or taking it out makes of the list. -/
theorem exists_numbered {xs : List (Nat × α)} (hn : (xs.map Prod.fst).Nodup)
    (h : xs.lookup o = some a) : ∃ pre post, xs = pre ++ (o, a) :: post ∧
      (∀ f : α → α, (xs.map fun (n, b) => if n = o then (n, f b) else (n, b)) =
        pre ++ (o, f a) :: post) ∧
      xs.filter (·.1 ≠ o) = pre ++ post := by
  obtain ⟨pre, post, rfl, hpre⟩ := List.lookup_eq_some_iff.1 h
  rw [List.map_append, List.map_cons] at hn
  have hpost : ∀ p ∈ post, p.1 ≠ o := by
    intro p hp he
    have hcons := (List.nodup_append.1 hn).2.1
    exact (List.nodup_cons.1 hcons).1 (List.mem_map.2 ⟨p, hp, he⟩)
  have hpre : ∀ p ∈ pre, p.1 ≠ o := by
    intro p hp he
    exact absurd (hpre p hp) (by simp [he])
  have hmap : ∀ f : α → α, ∀ l : List (Nat × α), (∀ p ∈ l, p.1 ≠ o) →
      (l.map fun (n, b) => if n = o then (n, f b) else (n, b)) = l := by
    intro f l hl
    conv_rhs => rw [← List.map_id l]
    exact List.map_congr_left fun p hp => if_neg (hl p hp)
  have hfilter : ∀ l : List (Nat × α), (∀ p ∈ l, p.1 ≠ o) → l.filter (·.1 ≠ o) = l :=
    fun l hl => List.filter_eq_self.2 fun p hp => decide_eq_true (hl p hp)
  refine ⟨pre, post, rfl, fun f => ?_, ?_⟩
  · rw [List.map_append, List.map_cons, hmap f pre hpre, hmap f post hpost]
    show _ ++ (if o = o then _ else _) :: _ = _
    rw [if_pos rfl]
  · rw [List.filter_append, List.filter_cons_of_neg (by simp), hfilter pre hpre, hfilter post hpost]

end Lookup

section Modify

variable {α : Type u} {l : List α} {f : α → α} {p : α → Bool}

theorem filter_modify_of_not (hi : l[i]? = some a) (hp : p a = false) (hp' : p (f a) = false) :
    (l.modify i f).filter p = l.filter p := by
  induction l generalizing i with
  | nil => cases hi
  | cons b l ih =>
    cases i with
    | zero =>
      cases hi
      simp [hp, hp']
    | succ i =>
      rw [List.modify_succ_cons, List.filter_cons, List.filter_cons, ih hi]

theorem filter_modify_perm (hi : l[i]? = some a) (hp : p a = false) (hp' : p (f a) = true) :
    ((l.modify i f).filter p).Perm (l.filter p ++ [f a]) := by
  induction l generalizing i with
  | nil => cases hi
  | cons b l ih =>
    cases i with
    | zero =>
      cases hi
      simpa [hp, hp'] using (List.perm_append_singleton (f a) (l.filter p)).symm
    | succ i =>
      rw [List.modify_succ_cons, List.filter_cons, List.filter_cons]
      split
      · exact (ih hi).cons b
      · exact ih hi

/-- To change each place of a list in turn is to change them all. -/
theorem foldl_modify_range (l : List α) (f : α → α) :
    (List.range l.length).foldl (fun l i => l.modify i f) l = l.map f := by
  have hget : ∀ n j, ((List.range n).foldl (fun l i => l.modify i f) l)[j]? =
      if j < n then l[j]?.map f else l[j]? := by
    intro n j
    induction n with
    | zero => rfl
    | succ n ih =>
      rw [List.range_succ, List.foldl_append, List.foldl_cons, List.foldl_nil, List.getElem?_modify,
        ih]
      grind
  apply List.ext_getElem?
  intro j
  rw [hget, List.getElem?_map]
  split
  · rfl
  · next hj => rw [List.getElem?_eq_none (Nat.le_of_not_lt hj), Option.map_none]

end Modify

theorem set_of_getElem? {l : List α} (h : l[i]? = some a) : l.set i a = l := by
  obtain ⟨hi, rfl⟩ := List.getElem?_eq_some_iff.1 h
  exact List.set_getElem_self hi

theorem modify_of_getElem? {l : List α} (h : l[i]? = some a) (f : α → α) :
    l.modify i f = l.set i (f a) := by
  rw [List.modify_eq_set_getElem?, h]
  rfl

theorem exists_modify {l : List α} (h : l[i]? = some a) (f : α → α) :
    ∃ pre post, l = pre ++ a :: post ∧ l.modify i f = pre ++ f a :: post := by
  obtain ⟨hi, rfl⟩ := List.getElem?_eq_some_iff.1 h
  refine ⟨l.take i, l.drop (i + 1), ?_, List.modify_eq_take_cons_drop hi⟩
  rw [List.getElem_cons_drop, List.take_append_drop]

/-- Of two places in a list that hold different things one comes after the other. -/
theorem mem_or_mem_of_append_cons_eq {l l' : List α} (h : l ++ a :: m = l' ++ b :: m')
    (hab : a ≠ b) : a ∈ m' ∨ b ∈ m := by
  induction l generalizing l' with
  | nil =>
    cases l' with
    | nil =>
      cases h
      exact absurd rfl hab
    | cons x l' =>
      cases h
      exact .inr (List.mem_append_right l' List.mem_cons_self)
  | cons x l ih =>
    cases l' with
    | nil =>
      cases h
      exact .inl (List.mem_append_right l List.mem_cons_self)
    | cons y l' => exact ih (List.cons.inj h).2

theorem map_some_filterMap {f : α → Option β} {l : List α} (h : ∀ a ∈ l, ∃ b, f a = some b) :
    (l.filterMap f).map some = l.map f := by
  induction l with
  | nil => rfl
  | cons a l ih =>
    obtain ⟨b, hb⟩ := h a (List.mem_cons_self ..)
    rw [List.filterMap_cons, List.map_cons, hb, List.map_cons,
      ih fun a ha => h a (List.mem_cons_of_mem _ ha)]

theorem filterMap_zipWith_sublist {f : α → β → γ} {g : γ → Option δ} {h : β → δ}
    (hg : ∀ a b, g (f a b) = some (h b)) (as : List α) (bs : List β) :
    ((List.zipWith f as bs).filterMap g).Sublist (bs.map h) := by
  induction as generalizing bs with
  | nil => exact List.nil_sublist _
  | cons a as ih =>
    cases bs with
    | nil => exact .slnil
    | cons b bs =>
      rw [List.zipWith_cons_cons, List.filterMap_cons_some (hg a b), List.map_cons]
      exact (ih bs).cons_cons _

theorem exists_map_of_perm {f : α → β} {xs : List α} {l : List β} (h : l.Perm (xs.map f)) :
    ∃ ys : List α, ys.Perm xs ∧ l = ys.map f := by
  induction xs generalizing l with
  | nil => exact ⟨[], .refl _, h.eq_nil⟩
  | cons x xs ih =>
    obtain ⟨as, bs, rfl⟩ := List.append_of_mem (h.mem_iff.2 (List.mem_cons_self ..))
    obtain ⟨ys, hys, he⟩ := ih (List.perm_middle.symm.trans h).cons_inv
    obtain ⟨us, vs, rfl, rfl, rfl⟩ := List.map_eq_append_iff.1 he.symm
    refine ⟨us ++ x :: vs, List.perm_middle.trans (hys.cons x), ?_⟩
    rw [List.map_append, List.map_cons]

/-- Sorting by a number leaves the numbers in order. -/
theorem pairwise_mergeSort_key (key : α → Nat) (l : List α) :
    (l.mergeSort fun a b => key a ≤ key b).Pairwise fun a b => key a ≤ key b := by
  refine (List.pairwise_mergeSort ?_ ?_ l).imp of_decide_eq_true
  · intro a b c hab hbc
    simp only [decide_eq_true_eq] at *
    exact Nat.le_trans hab hbc
  · intro a b
    simpa using Nat.le_total ..

theorem eq_map_getD (a : α) (h : l.length = n) : l = (List.range n).map fun k => l.getD k a := by
  subst h
  refine List.ext_getElem (by simp) fun i hi _ => ?_
  simp [hi]

theorem tail_map_range (f : Nat → α) (n : Nat) :
    ((List.range (n + 1)).map f).tail = (List.range n).map fun i => f (i + 1) := by
  rw [List.range_succ_eq_map, List.map_cons, List.map_map]
  rfl

end ShardQuery
