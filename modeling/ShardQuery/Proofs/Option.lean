import Mathlib.Data.List.Basic
import Mathlib.Data.List.Forall2

namespace ShardQuery

variable {f : α → Option β} {l : List α}

theorem mapM_cons_option (f : α → Option β) (a : α) (l : List α) :
    (a :: l).mapM f = (f a).bind fun b => (l.mapM f).map (b :: ·) := by
  rw [List.mapM_cons]
  cases f a with
  | none => rfl
  | some b => cases l.mapM f <;> rfl

theorem mapM_append_option (f : α → Option β) (l l' : List α) :
    (l ++ l').mapM f = (l.mapM f).bind fun bs => (l'.mapM f).map (bs ++ ·) := by
  rw [List.mapM_append]
  cases l.mapM f with
  | none => rfl
  | some bs => cases l'.mapM f <;> rfl

theorem mapM_eq_some_iff {bs : List β} : l.mapM f = some bs ↔ l.map f = bs.map some := by
  induction l generalizing bs with
  | nil =>
    cases bs with
    | nil => exact iff_of_true rfl rfl
    | cons b bs => exact iff_of_false (by simp) (by simp)
  | cons a l ih =>
    rw [mapM_cons_option, List.map_cons]
    cases f a with
    | none => cases bs <;> simp
    | some b =>
      rw [Option.bind_some, Option.map_eq_some_iff]
      constructor
      · rintro ⟨cs, hcs, rfl⟩
        rw [ih.1 hcs, List.map_cons]
      · intro h
        cases bs with
        | nil => cases h
        | cons c bs =>
          obtain ⟨hb, hbs⟩ := List.cons.inj h
          cases hb
          exact ⟨bs, ih.2 hbs, rfl⟩

theorem length_of_mapM_some {bs : List β} (h : l.mapM f = some bs) : bs.length = l.length := by
  rw [← List.length_map some, ← mapM_eq_some_iff.1 h, List.length_map]

theorem exists_mapM_some_related {R : α → β → Prop} (h : ∀ a ∈ l, ∃ b, f a = some b ∧ R a b) :
    ∃ bs, l.mapM f = some bs ∧ List.Forall₂ R l bs := by
  induction l with
  | nil => exact ⟨[], rfl, .nil⟩
  | cons a l ih =>
    obtain ⟨b, hb, hr⟩ := h a (List.mem_cons_self ..)
    obtain ⟨bs, hbs, hrs⟩ := ih fun a ha => h a (List.mem_cons_of_mem _ ha)
    refine ⟨b :: bs, ?_, .cons hr hrs⟩
    rw [mapM_cons_option, hb, hbs]
    rfl

theorem mapM_eq_none_iff : l.mapM f = none ↔ ∃ a ∈ l, f a = none := by
  induction l with
  | nil => exact iff_of_false (by simp) (by simp)
  | cons a l ih =>
    rw [mapM_cons_option, List.exists_mem_cons_iff, ← ih]
    cases f a with
    | none => simp
    | some b => simp

theorem mapM_map_option (f : α → Option β) (g : β → γ) (l : List α) :
    (l.mapM fun a => (f a).map g) = (l.mapM f).map (List.map g) := by
  cases h : l.mapM f with
  | none =>
    obtain ⟨a, ha, hf⟩ := mapM_eq_none_iff.1 h
    exact mapM_eq_none_iff.2 ⟨a, ha, by rw [hf]; rfl⟩
  | some bs =>
    refine mapM_eq_some_iff.2 ?_
    have hmap := congrArg (List.map (Option.map g)) (mapM_eq_some_iff.1 h)
    rw [List.map_map, List.map_map] at hmap
    rw [List.map_map]
    exact hmap

theorem mapM_congr_option {f g : α → Option β} (h : ∀ a ∈ l, f a = g a) :
    l.mapM f = l.mapM g := by
  induction l with
  | nil => rfl
  | cons a l ih =>
    rw [List.mapM_cons, List.mapM_cons, h a (List.mem_cons_self ..),
      ih fun b hb => h b (List.mem_cons_of_mem _ hb)]

theorem mapM_take {bs : List β} (h : l.mapM f = some bs) (n : Nat) :
    (l.take n).mapM f = some (bs.take n) := by
  refine mapM_eq_some_iff.2 ?_
  rw [List.map_take, mapM_eq_some_iff.1 h, List.map_take]

theorem mapM_zipWith_cons (a : α → Option β) (r : α → Option (List β)) (l : List α) :
    (l.mapM fun t => (a t).bind fun b => (r t).map (b :: ·)) =
      (l.mapM a).bind fun bs => (l.mapM r).map (List.zipWith (· :: ·) bs) := by
  induction l with
  | nil => rfl
  | cons t l ih =>
    rw [mapM_cons_option, mapM_cons_option, mapM_cons_option, ih]
    cases a t with
    | none => rfl
    | some b =>
      cases r t with
      | none => cases l.mapM a <;> rfl
      | some bs => cases l.mapM a <;> cases l.mapM r <;> rfl

end ShardQuery
