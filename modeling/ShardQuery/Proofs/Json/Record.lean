import ShardQuery.Json.Decode
import ShardQuery.Proofs.Json.RoundTrip

namespace ShardQuery.Json

/-- A value that is read back as it stands, nested to a bounded depth and without repeated names. -/
structure Plain (d : Nat) (v : Json) : Prop where
  exact : v.Exact
  depth_le : v.depth ≤ d
  lastWins_eq : v.lastWins = v

theorem Plain.mono (h : Plain d v) (hd : d ≤ e) : Plain e v :=
  ⟨h.exact, h.depth_le.trans hd, h.lastWins_eq⟩

theorem plain_null (d : Nat) : Plain d null := ⟨trivial, Nat.zero_le d, rfl⟩

theorem plain_text (d : Nat) (s : String) : Plain d (text s) := ⟨trivial, Nat.zero_le d, rfl⟩

theorem plain_ofNat (d : Nat) {n : Nat} (h : n < UInt64.size) : Plain d (ofNat n) := by
  refine ⟨?_, Nat.zero_le d, rfl⟩
  rw [ofNat, Exact]
  omega

theorem plain_list {vs : List Json} (h : ∀ v ∈ vs, Plain d v) : Plain (d + 1) (list vs) := by
  suffices hs : ExactItems vs ∧ depthItems vs ≤ d ∧ lastWinsItems vs = vs by
    exact ⟨hs.1, Nat.succ_le_succ hs.2.1, congrArg list hs.2.2⟩
  induction vs with
  | nil => exact ⟨trivial, Nat.zero_le d, rfl⟩
  | cons v vs ih =>
    obtain ⟨he, hd, hl⟩ := h v List.mem_cons_self
    obtain ⟨hes, hds, hls⟩ := ih fun w hw => h w (List.mem_cons_of_mem v hw)
    refine ⟨⟨he, hes⟩, ?_, ?_⟩
    · rw [depthItems]
      exact Nat.max_le.2 ⟨hd, hds⟩
    · rw [lastWinsItems, hl, hls]

theorem plain_map {f : α → Json} {as : List α} (h : ∀ a ∈ as, Plain d (f a)) :
    Plain (d + 1) (list (as.map f)) := by
  apply plain_list
  intro v hv
  obtain ⟨a, ha, rfl⟩ := List.mem_map.1 hv
  exact h a ha

theorem plain_texts (d : Nat) (ss : List String) : Plain (d + 1) (texts ss) :=
  plain_map fun s _ => plain_text d s

theorem plain_ofOption {f : α → Json} {o : Option α} (h : ∀ a ∈ o, Plain d (f a)) :
    Plain d (ofOption f o) := by
  cases o with
  | none => exact plain_null d
  | some a => exact h a rfl

theorem plain_object {ms : List (String × Json)} (hn : (ms.map Prod.fst).Nodup)
    (h : ∀ m ∈ ms, Plain d m.2) : Plain (d + 1) (object ms) := by
  suffices hs : ExactMembers ms ∧ depthMembers ms ≤ d ∧ lastWinsMembers ms = ms by
    exact ⟨hs.1, Nat.succ_le_succ hs.2.1, congrArg object hs.2.2⟩
  induction ms with
  | nil => exact ⟨trivial, Nat.zero_le d, rfl⟩
  | cons m ms ih =>
    obtain ⟨k, v⟩ := m
    obtain ⟨hk, hn⟩ := List.nodup_cons.1 hn
    obtain ⟨he, hd, hl⟩ := h (k, v) List.mem_cons_self
    obtain ⟨hes, hds, hls⟩ := ih hn fun w hw => h w (List.mem_cons_of_mem _ hw)
    refine ⟨⟨he, hes⟩, ?_, ?_⟩
    · rw [depthMembers]
      exact Nat.max_le.2 ⟨hd, hds⟩
    · have hany : ms.any (·.1 = k) = false := by
        rw [List.any_eq_false]
        intro m hm he
        exact hk (List.mem_map.2 ⟨m, hm, of_decide_eq_true he⟩)
      rw [lastWinsMembers, hls, hl]
      simp only [hany, Bool.false_eq_true, ↓reduceIte]

theorem natBelow?_ofNat {bound n : Nat} (h : n < bound) : natBelow? bound (ofNat n) = some n := by
  rw [ofNat, natBelow?, if_pos (by omega)]
  rfl

theorem word?_ofNat {n : Nat} (h : n < UInt64.size) : (ofNat n).word? = some n :=
  natBelow?_ofNat h

theorem list?_map {f : Json → Option α} {g : α → Json} {as : List α}
    (h : ∀ a ∈ as, f (g a) = some a) : list? f (list (as.map g)) = some as := by
  rw [list?]
  induction as with
  | nil => rfl
  | cons a as ih =>
    have ha := h a List.mem_cons_self
    have has := ih fun b hb => h b (List.mem_cons_of_mem a hb)
    rw [List.map_cons, List.mapM_cons, ha, has]
    rfl

theorem list?_texts (ss : List String) : list? text? (texts ss) = some ss :=
  list?_map fun _ _ => rfl

/-- What is not written as null is told from what is absent. -/
theorem option?_ofOption {f : Json → Option α} {g : α → Json} {o : Option α}
    (h : ∀ a ∈ o, f (g a) = some a) (hne : ∀ a, g a ≠ null) :
    option? f (ofOption g o) = some o := by
  cases o with
  | none => rfl
  | some a =>
    rw [ofOption, option?]
    · rw [h a rfl]
      rfl
    · exact hne a

theorem field?_of_mem {ms : List (String × Json)} (hn : (ms.map Prod.fst).Nodup)
    (h : (k, v) ∈ ms) : field? ms k = some (some v) := by
  have hf : ms.filter (·.1 = k) = [(k, v)] := by
    induction ms with
    | nil => cases h
    | cons m ms ih =>
      obtain ⟨hm, hn⟩ := List.nodup_cons.1 hn
      rcases List.mem_cons.1 h with rfl | h
      · rw [List.filter_cons_of_pos (by simp), List.filter_eq_nil_iff.2]
        intro m' hm' he
        exact hm (List.mem_map.2 ⟨m', hm', of_decide_eq_true he⟩)
      · have hne : m.1 ≠ k := by
          rintro rfl
          exact hm (List.mem_map.2 ⟨_, h, rfl⟩)
        rw [List.filter_cons_of_neg (by simpa using hne), ih hn h]
  rw [field?, hf]

theorem mapM_field?_eq {all ms : List (String × Json)} {f : String × Json → Option Json}
    (h : ∀ m ∈ ms, field? all m.1 = some (f m)) :
    (ms.map Prod.fst).mapM (field? all) = some (ms.map f) := by
  induction ms with
  | nil => rfl
  | cons m ms ih =>
    rw [List.map_cons, List.mapM_cons, h m List.mem_cons_self,
      ih (fun m' hm' => h m' (List.mem_cons_of_mem m hm'))]
    rfl

/-- The fields of an object are found by their names, whatever stands before them. -/
theorem fields?_object (pre : List (String × Json)) {ms : List (String × Json)}
    (hn : ((pre ++ ms).map Prod.fst).Nodup) :
    fields? (ms.map Prod.fst) (object (pre ++ ms)) = some (ms.map fun m => some m.2) :=
  mapM_field?_eq fun _ hm => field?_of_mem hn (List.mem_append_right pre hm)

def members : Json → List (String × Json)
  | object ms => ms
  | _ => []

/-- The members that are left when the ones of some names are removed. -/
def without (removed : List String) (ms : List (String × Json)) : List (String × Json) :=
  ms.filter (·.1 ∉ removed)

/-- The members with another value under a name. -/
def setMember (name : String) (v : Json) (ms : List (String × Json)) : List (String × Json) :=
  ms.map fun m => if m.1 = name then (name, v) else m

theorem field?_without {ms rest : List (String × Json)} {removed : List String}
    (hn : (ms.map Prod.fst).Nodup) (hrest : rest.Perm (without removed ms)) {m : String × Json}
    (hm : m ∈ ms) : field? rest m.1 = some (if m.1 ∈ removed then none else some m.2) := by
  have hmem : ∀ m', m' ∈ rest ↔ m' ∈ ms ∧ m'.1 ∉ removed := fun m' => by
    rw [hrest.mem_iff, without, List.mem_filter, decide_eq_true_eq]
  by_cases hr : m.1 ∈ removed
  · have hnone : rest.filter (·.1 = m.1) = [] := by
      rw [List.filter_eq_nil_iff]
      intro m' hm' he
      exact ((hmem m').1 hm').2 (of_decide_eq_true he ▸ hr)
    rw [field?, hnone, if_pos hr]
  · have hnodup : (rest.map Prod.fst).Nodup := by
      rw [(hrest.map Prod.fst).nodup_iff]
      exact (List.filter_sublist.map Prod.fst).nodup hn
    rw [field?_of_mem hnodup ((hmem m).2 ⟨hm, hr⟩), if_neg hr]

/-- What is removed is found to be absent and all else is found, in whatever order it stands. -/
theorem leadingFields?_without {ms rest : List (String × Json)} {removed : List String}
    (hn : (ms.map Prod.fst).Nodup) (hrest : rest.Perm (without removed ms)) :
    leadingFields? (ms.map Prod.fst) (object rest) =
      some (ms.map fun m => if m.1 ∈ removed then none else some m.2) :=
  mapM_field?_eq fun _ hm => field?_without hn hrest hm

theorem bind_eq_of {x : Option α} {f : α → Option β} (h : x = some a) (hf : f a = r) :
    x >>= f = r := by
  rw [h]
  exact hf

namespace Fields

theorem required_eq {fs : Fields} {f : Json → Option α} (hv : f v = some a)
    (h : fs[i]? = some (some v)) : fs.required i f = some a := by
  rw [required, h]
  exact hv

theorem optional_eq {fs : Fields} {f : Json → Option α} (hv : option? f v = some o)
    (h : fs[i]? = some (some v)) : fs.optional i f = some o := by
  rw [optional, h]
  exact hv

theorem defaulted_eq {fs : Fields} {f : Json → Option α} (hv : f v = some a) {removed : Prop}
    [Decidable removed] (h : fs[i]? = some (if removed then none else some v)) (default : α) :
    fs.defaulted i default f = some (if removed then default else a) := by
  rw [defaulted, h]
  by_cases hr : removed
  · rw [if_pos hr, if_pos hr]
  · rw [if_neg hr, if_neg hr]
    exact hv

end Fields

theorem exactMembers_iff {ms : List (String × Json)} :
    ExactMembers ms ↔ ∀ m ∈ ms, m.2.Exact := by
  induction ms with
  | nil => exact iff_of_true trivial fun m hm => by cases hm
  | cons m ms ih => rw [ExactMembers, ih, List.forall_mem_cons]

theorem exact_without {ms : List (String × Json)} (removed : List String) (h : ExactMembers ms) :
    ExactMembers (without removed ms) :=
  exactMembers_iff.2 fun m hm => exactMembers_iff.1 h m (List.mem_of_mem_filter hm)

theorem exact_setMember {ms : List (String × Json)} (name : String) (hv : v.Exact)
    (h : ExactMembers ms) : ExactMembers (setMember name v ms) := by
  rw [exactMembers_iff] at h ⊢
  intro m hm
  obtain ⟨m', hm', rfl⟩ := List.mem_map.1 hm
  split
  · exact hv
  · exact h m' hm'

end ShardQuery.Json
