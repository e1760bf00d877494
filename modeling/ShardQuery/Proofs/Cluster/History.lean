import ShardQuery.Cluster.Live
import ShardQuery.Proofs.Except
import Mathlib.Data.List.Nodup

namespace ShardQuery

/-- Whether an event is of queries on a ready cluster: nothing else begins, and nobody stops it. -/
def Event.Querying : Event → Prop
  | .start (.query _) => True
  | .start _ => False
  | .stop => False
  | _ => True

/-- The events that an event consists of: a query that begins at once takes its tokens in a row. -/
def Event.parts (l : Live) : Event → List Event
  | .start (.query sql) =>
    .draft sql :: List.replicate (l.cluster.workers.length + 1) (.issue l.begun)
  | e => [e]

theorem Live.steps_parts (l : Live) (e : Event) : l.steps (e.parts l) = l.step e := by
  have hissue : ∀ o n (m : Live), m.steps (List.replicate n (.issue o)) =
      (List.range n).foldl (fun m _ => m.issue o) m := by
    intro o n
    induction n with
    | zero =>
      intro m
      rfl
    | succ n ih =>
      intro m
      rw [List.range_succ, List.foldl_append, ← ih, List.replicate_succ', Live.steps, Live.steps,
        List.foldl_append]
      rfl
  cases e with
  | start op =>
    cases op with
    | query sql => exact hissue _ _ _
    | _ => rfl
  | _ => rfl

/-- What is on record of a run of queries, in the order in which it happened. -/
structure History where
  /-- The queries by their numbers. -/
  queries : List (Nat × String)
  /-- The tokens, by the queries that took them. -/
  taken : List (Nat × CorrelationToken)
  /-- The calls that came back with a partial result, by their queries. -/
  parts : List (Nat × Nat)

namespace History

def empty : History := ⟨[], [], []⟩

/-- What is on record of one query. -/
def only (o : Nat) (l : List (Nat × α)) : List α := (l.filter (·.1 = o)).map Prod.snd

/-- The tokens of a query: the first is its own, then there is one for each worker. -/
def tokensOf (h : History) (o : Nat) : List CorrelationToken := only o h.taken

/-- The calls of a query that came back with a partial result. -/
def partsOf (h : History) (o : Nat) : List Nat := only o h.parts

/-- What is on record after one more event that consists of no others. -/
def note (h : History) (l : Live) : Event → History
  | .draft sql =>
    if l.cluster.phase = .ready then
      { h with
        queries := h.queries ++ [(l.begun, sql)]
        taken := h.taken ++ [(l.begun, l.cluster.tokens.next.1)] }
    else h
  | .issue o =>
    match l.drafts.lookup o with
    | none => h
    | some d =>
      if d.tokens.length < l.cluster.workers.length then
        { h with taken := h.taken ++ [(o, l.cluster.tokens.next.1)] }
      else h
  | .own o i =>
    match l.call? o i with
    | some ⟨⟨_, .own (.ok _)⟩, .fresh⟩ => { h with parts := h.parts ++ [(o, i)] }
    | _ => h
  | .pull o i =>
    match l.call? o i with
    | some ⟨⟨_, .ask _ r⟩, .pulling⟩ =>
      match (l.cluster.collect r).2 with
      | .ok _ => { h with parts := h.parts ++ [(o, i)] }
      | .error _ => h
    | _ => h
  | _ => h

def notes (h : History) (l : Live) : List Event → History
  | [] => h
  | e :: events => (h.note l e).notes (l.step e) events

def record (h : History) (l : Live) : List Event → History
  | [] => h
  | e :: events => (h.notes l (e.parts l)).record (l.step e) events

def Owns (h : History) (t : CorrelationToken) (o i : Nat) : Prop := (h.tokensOf o)[i]? = some t

def Distinct (h : History) : Prop := (h.taken.map Prod.snd).Nodup

variable {h : History} {t : CorrelationToken}

theorem only_append (o : Nat) (l : List (Nat × α)) (n : Nat) (a : α) :
    only o (l ++ [(n, a)]) = if n = o then only o l ++ [a] else only o l := by
  rw [only, List.filter_append, List.map_append]
  by_cases hn : n = o <;> simp [hn, only]

theorem only_append_list (n : Nat) (l l' : List (Nat × α)) :
    only n (l ++ l') = only n l ++ only n l' := by
  rw [only, List.filter_append, List.map_append]
  rfl

theorem only_map (n o : Nat) (as : List α) :
    only n (as.map (o, ·)) = if n = o then as else [] := by
  induction as with
  | nil => simp [only]
  | cons a as ih =>
    rw [List.map_cons, ← List.singleton_append, only_append_list, ih]
    by_cases hn : n = o
    · simp [only, hn]
    · simp [only, Ne.symm hn, hn]

theorem mem_taken (ho : h.Owns t o i) : (o, t) ∈ h.taken := by
  have hmem := List.mem_of_getElem? ho
  obtain ⟨⟨n, u⟩, hp, rfl⟩ := List.mem_map.1 hmem
  obtain ⟨hin, hn⟩ := List.mem_filter.1 hp
  cases of_decide_eq_true hn
  exact hin

theorem Distinct.ids (hd : h.Distinct) : (h.taken.map fun p => p.2.messageId).Nodup := by
  have hids : (h.taken.map fun p => p.2.messageId) =
      (h.taken.map Prod.snd).map CorrelationToken.messageId := by
    rw [List.map_map]
    rfl
  rw [hids]
  exact hd.map fun _ _ => CorrelationToken.messageId_injective

theorem nodup_tokensOf (hd : h.Distinct) (o : Nat) : (h.tokensOf o).Nodup :=
  hd.sublist (List.filter_sublist.map Prod.snd)

/-- A token has one place in one query. -/
theorem Owns.unique (hd : h.Distinct) (ho : h.Owns t o i) (ho' : h.Owns t o' i') :
    o = o' ∧ i = i' := by
  have he := List.inj_on_of_nodup_map hd (mem_taken ho) (mem_taken ho') rfl
  cases he
  obtain ⟨hi, hti⟩ := List.getElem?_eq_some_iff.1 ho
  obtain ⟨hi', hti'⟩ := List.getElem?_eq_some_iff.1 ho'
  exact ⟨rfl, (nodup_tokensOf hd o).getElem_inj_iff.1 (hti.trans hti'.symm)⟩

theorem owns_taken {o i : Nat} :
    { h with taken := h.taken ++ [(n, u)] }.Owns t o i ↔
      h.Owns t o i ∨ (o = n ∧ t = u ∧ i = (h.tokensOf n).length) := by
  simp only [Owns, tokensOf, only_append]
  by_cases hn : n = o
  · subst hn
    rw [if_pos rfl, List.getElem?_append]
    split
    · next hi =>
      have : i ≠ (only n h.taken).length := Nat.ne_of_lt hi
      simp [this]
    · next hi =>
      rw [List.getElem?_eq_none (Nat.le_of_not_lt hi)]
      by_cases he : i = (only n h.taken).length
      · simp [he, eq_comm]
      · have : i - (only n h.taken).length ≠ 0 := by omega
        simp [he, this]
  · have : o ≠ n := fun he => hn he.symm
    simp [hn, this]

theorem distinct_taken (hd : h.Distinct) (hu : ∀ p ∈ h.taken, p.2 ≠ u) :
    { h with taken := h.taken ++ [(n, u)] }.Distinct := by
  rw [Distinct, List.map_append]
  refine List.nodup_append.2 ⟨hd, List.nodup_singleton _, ?_⟩
  intro t ht v hv
  cases List.mem_singleton.1 hv
  obtain ⟨p, hp, rfl⟩ := List.mem_map.1 ht
  exact hu p hp

/-- The tokens on record were issued, each once, for queries that have begun. -/
structure Numbered (h : History) (last begun : Nat) : Prop where
  distinct : h.Distinct
  issued : ∀ p ∈ h.taken, p.2.number ≤ last
  untaken : ∀ o, begun ≤ o → h.tokensOf o = []

theorem tokensOf_taken_of_ne (h : History) (qs : List (Nat × String)) (hn : n ≠ o) :
    tokensOf { h with queries := qs, taken := h.taken ++ [(o, u)] } n = h.tokensOf n := by
  rw [tokensOf, only_append, if_neg hn.symm]
  rfl

namespace Numbered

variable {issuer : TokenIssuer} {begun begun' last : Nat}

theorem withParts (hn : h.Numbered last begun) (ps : List (Nat × Nat)) :
    { h with parts := ps }.Numbered last begun := ⟨hn.distinct, hn.issued, hn.untaken⟩

theorem withBegun (hn : h.Numbered last begun) (hle : begun ≤ begun') :
    h.Numbered last begun' where
  distinct := hn.distinct
  issued := hn.issued
  untaken o ho := hn.untaken o (Nat.le_trans hle ho)

/-- A token that was not issued yet is no query's. -/
theorem not_owns (hn : h.Numbered last begun) (ht : last < t.number) : ¬ h.Owns t o i :=
  fun ho => absurd ht (Nat.not_lt_of_le (hn.issued _ (mem_taken ho)))

theorem takeToken (hn : h.Numbered issuer.issued begun) (hle : begun ≤ begun') (ho : o < begun')
    (qs : List (Nat × String)) :
    Numbered { h with queries := qs, taken := h.taken ++ [(o, issuer.next.1)] }
      issuer.next.2.issued begun' where
  distinct := by
    refine distinct_taken hn.distinct fun p hp he => ?_
    have hlast := hn.issued p hp
    rw [he] at hlast
    exact absurd hlast (Nat.not_succ_le_self _)
  issued := by
    intro p hp
    rcases List.mem_append.1 hp with hp | hp
    · exact Nat.le_succ_of_le (hn.issued p hp)
    · cases List.mem_singleton.1 hp
      exact Nat.le_refl _
  untaken := by
    intro n hn'
    have hne : n ≠ o := by
      rintro rfl
      exact absurd hn' (Nat.not_le_of_lt ho)
    rw [tokensOf_taken_of_ne h qs hne]
    exact hn.untaken n (Nat.le_trans hle hn')

end Numbered

end History

end ShardQuery
