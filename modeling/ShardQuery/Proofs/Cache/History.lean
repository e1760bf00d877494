import ShardQuery.Proofs.Cache
import ShardQuery.Proofs.List

namespace ShardQuery

/-- What comes of a request to a cache. -/
inductive CacheOutcome where
  /-- A write was taken, and this waits under its id. -/
  | stored (p : CachedPartition)
  /-- A write was taken, and nothing waits under its id. -/
  | dropped
  | refused (x : QueryError)
  | pulled (p : CachedPartition)
  | missed (x : QueryError)
  | evicted
  /-- An id was given up under which nothing waited. -/
  | marked
deriving DecidableEq, Repr

namespace CacheOutcome

def isStored : CacheOutcome → Bool
  | stored _ => true
  | _ => false

def isPulled : CacheOutcome → Bool
  | pulled _ => true
  | _ => false

def isEvicted : CacheOutcome → Bool
  | evicted => true
  | _ => false

end CacheOutcome

def CacheRequest.about : CacheRequest → MessageId
  | put _ id _ => id
  | pull id => id
  | discard id => id

structure CacheEvent where
  request : CacheRequest
  outcome : CacheOutcome
deriving DecidableEq, Repr

namespace CacheEvent

def Stores (e : CacheEvent) (id : MessageId) : Prop :=
  e.request.about = id ∧ e.outcome.isStored = true

def Removes (e : CacheEvent) (id : MessageId) : Prop :=
  e.request.about = id ∧ (e.outcome.isPulled = true ∨ e.outcome.isEvicted = true)

def storing (id : MessageId) (p : CachedPartition) : CacheEvent :=
  ⟨.put p.token id p.batch, .stored p⟩

/-- The last that was stored under an id, not removed since. -/
def Latest (h : List CacheEvent) (id : MessageId) (p : CachedPartition) : Prop :=
  ∃ before after, h = before ++ storing id p :: after ∧
    ∀ e ∈ after, ¬ e.Stores id ∧ ¬ e.Removes id

variable {h : List CacheEvent} {e : CacheEvent} {id : MessageId} {p : CachedPartition}

theorem not_removes_storing : ¬ (storing id p).Removes i := by
  rintro ⟨-, hp | he⟩
  · cases hp
  · cases he

theorem latest_storing (h : List CacheEvent) (id : MessageId) (p : CachedPartition) :
    Latest (h ++ [storing id p]) id p :=
  ⟨h, [], rfl, fun _ he => absurd he List.not_mem_nil⟩

theorem Latest.snoc (hl : Latest h id p) (hs : ¬ e.Stores id) (hr : ¬ e.Removes id) :
    Latest (h ++ [e]) id p := by
  obtain ⟨before, after, rfl, hafter⟩ := hl
  refine ⟨before, after ++ [e], by rw [List.append_assoc, List.cons_append], ?_⟩
  intro q hq
  rcases List.mem_append.1 hq with hq | hq
  · exact hafter q hq
  · cases List.mem_singleton.1 hq
    exact ⟨hs, hr⟩

/-- What was stored last was stored after every removal. -/
theorem Latest.exists_stores (hl : Latest (first ++ e :: between) id p) (he : e.Removes id) :
    ∃ q ∈ between, q.Stores id := by
  obtain ⟨before, after, heq, hafter⟩ := hl
  have hne : e ≠ storing id p := by
    rintro rfl
    exact not_removes_storing he
  rcases mem_or_mem_of_append_cons_eq heq hne with hmem | hmem
  · exact absurd he (hafter e hmem).2
  · exact ⟨storing id p, hmem, rfl, rfl⟩

end CacheEvent

namespace PartitionCache

open CacheEvent

/-- What a cache has under an id. -/
inductive Place where
  | vacant
  | marked
  | held (p : CachedPartition)
deriving DecidableEq, Repr

/-- What comes of a request about an id, and what the owner has under the id then. -/
def Place.serve (owner : ParticipantId) : Place → CacheRequest → CacheOutcome × Place
  | vacant, .put token _ batch => (.stored ⟨owner, token, batch⟩, held ⟨owner, token, batch⟩)
  | marked, .put _ _ _ => (.dropped, vacant)
  | held p, .put _ id _ => (.refused (.duplicateMessage id.text), held p)
  | held p, .pull _ => (.pulled p, vacant)
  | k, .pull id => (.missed (.cacheMiss id.text), k)
  | held _, .discard _ => (.evicted, vacant)
  | _, .discard _ => (.marked, marked)

/-- What the owner has under an id after some requests about it. -/
def Place.serveAll (owner : ParticipantId) (k : Place) (rs : List CacheRequest) : Place :=
  rs.foldl (fun k r => (k.serve owner r).2) k

def place (c : PartitionCache) (id : MessageId) : Place :=
  match c.stored.find? id with
  | some p => .held p
  | none => if c.isAbandoned id then .marked else .vacant

def outcome (c : PartitionCache) : CacheRequest → CacheOutcome
  | .put token id batch =>
    match c.put token id batch with
    | .ok d =>
      -- a write is not told whether it was stored, only the cache shows it
      match d.stored.find? id with
      | some p => .stored p
      | none => .dropped
    | .error x => .refused x
  | .pull id =>
    match c.pull id with
    | .ok (p, _) => .pulled p
    | .error x => .missed x
  | .discard id => if (c.discard id).1 then .evicted else .marked

/-- What comes of a number of requests, one after another. -/
def history (c : PartitionCache) : List CacheRequest → List CacheEvent
  | [] => []
  | r :: rs => ⟨r, c.outcome r⟩ :: (c.serve r).history rs

/-- What a request comes to, and the cache after it. -/
inductive Serves (c : PartitionCache) : CacheRequest → CacheOutcome → PartitionCache → Prop where
  | store (h : c.place i = .vacant) :
    Serves c (.put token i batch) (.stored ⟨c.owner, token, batch⟩)
      { c with stored := c.stored.insert i ⟨c.owner, token, batch⟩ }
  | drop (h : c.place i = .marked) :
    Serves c (.put token i batch) .dropped { c with abandoned := c.abandoned.filter (· ≠ i) }
  | refuse (h : c.place i = .held p) :
    Serves c (.put token i batch) (.refused (.duplicateMessage i.text)) c
  | pull (h : c.place i = .held p) :
    Serves c (.pull i) (.pulled p) { c with stored := c.stored.erase i }
  | miss (h : ∀ p, c.place i ≠ .held p) : Serves c (.pull i) (.missed (.cacheMiss i.text)) c
  | evict (h : c.place i = .held p) :
    Serves c (.discard i) .evicted { c with stored := c.stored.erase i }
  | mark (h : ∀ p, c.place i ≠ .held p) :
    Serves c (.discard i) .marked { c with abandoned := i :: c.abandoned.filter (· ≠ i) }

variable {c d : PartitionCache} {id i : MessageId} {r : CacheRequest} {p : CachedPartition}

/-! ### Places -/

namespace Place

variable {k : Place}

theorem serve_pull_of_ne (owner : ParticipantId) (id : MessageId) (h : ∀ p, k ≠ .held p) :
    k.serve owner (.pull id) = (.missed (.cacheMiss id.text), k) := by
  cases k with
  | held p => exact absurd rfl (h p)
  | _ => rfl

theorem serve_discard_of_ne (owner : ParticipantId) (id : MessageId) (h : ∀ p, k ≠ .held p) :
    k.serve owner (.discard id) = (.marked, .marked) := by
  cases k with
  | held p => exact absurd rfl (h p)
  | _ => rfl

/-- Nothing fills a place but a write that finds it vacant. -/
theorem eq_of_serve_eq_held {owner : ParticipantId} (h : k.serve owner r = (o, .held p)) :
    k = .held p ∧ o = .refused (.duplicateMessage r.about.text) ∨
      r = .put p.token r.about p.batch ∧ o = .stored p := by
  cases r with
  | put token id batch =>
    cases k with
    | vacant =>
      cases h
      exact .inr ⟨rfl, rfl⟩
    | marked => cases h
    | held q =>
      cases h
      exact .inl ⟨rfl, rfl⟩
  | pull id => cases k <;> cases h
  | discard id => cases k <;> cases h

end Place

theorem place_of_some (h : c.stored.find? id = some p) : c.place id = .held p := by
  rw [place, h]

theorem place_of_none (h : c.stored.find? id = none) :
    c.place id = if c.isAbandoned id then .marked else .vacant := by
  rw [place, h]

theorem place_eq_held_iff : c.place id = .held p ↔ c.stored.find? id = some p := by
  cases hf : c.stored.find? id with
  | none =>
    rw [place_of_none hf]
    split <;> simp
  | some q => simp [place_of_some hf]

theorem place_eq_vacant_iff : c.place id = .vacant ↔ c.Lacks id := by
  rw [Lacks]
  cases hf : c.stored.find? id with
  | none =>
    rw [place_of_none hf]
    split <;> simp [*]
  | some q => simp [place_of_some hf]

theorem place_eq_marked_iff :
    c.place id = .marked ↔ c.stored.find? id = none ∧ c.isAbandoned id = true := by
  cases hf : c.stored.find? id with
  | none =>
    rw [place_of_none hf]
    split <;> simp [*]
  | some q => simp [place_of_some hf]

theorem contains_iff_place : c.contains id = true ↔ ∃ p, c.place id = .held p := by
  simp only [place_eq_held_iff, contains, FiniteMap.contains, Option.isSome_iff_exists]

theorem find?_of_not_held (h : ∀ p, c.place id ≠ .held p) : c.stored.find? id = none := by
  cases hf : c.stored.find? id with
  | none => rfl
  | some p => exact absurd (place_of_some hf) (h p)

theorem contains_eq_false_iff : c.contains id = false ↔ c.stored.find? id = none := by
  rw [contains, FiniteMap.contains, Option.isSome_eq_false_iff, Option.isNone_iff_eq_none]

theorem place_insert (c : PartitionCache) (id : MessageId) (p : CachedPartition) :
    { c with stored := c.stored.insert id p }.place id = .held p :=
  place_of_some (by simp)

theorem place_erase (h : c.isAbandoned id = false) :
    { c with stored := c.stored.erase id }.place id = .vacant :=
  place_eq_vacant_iff.2 ⟨by simp, h⟩

theorem place_spent (h : c.stored.find? id = none) :
    { c with abandoned := c.abandoned.filter (· ≠ id) }.place id = .vacant := by
  apply place_eq_vacant_iff.2
  refine ⟨h, ?_⟩
  rw [isAbandoned_spent]
  simp

theorem place_given (h : c.stored.find? id = none) :
    { c with abandoned := id :: c.abandoned.filter (· ≠ id) }.place id = .marked := by
  apply place_eq_marked_iff.2
  refine ⟨h, ?_⟩
  rw [isAbandoned_given]
  simp

namespace Consistent

theorem serve (hc : c.Consistent) (r : CacheRequest) : (c.serve r).Consistent := by
  cases r with
  | put token id batch =>
    rw [PartitionCache.serve]
    split
    · next hput => exact hc.put hput
    · exact hc
  | pull id =>
    rw [PartitionCache.serve]
    split
    · next hpull => exact hc.pull hpull
    · exact hc
  | discard id => exact hc.discard id

theorem marked_iff (hc : c.Consistent) : c.place id = .marked ↔ c.isAbandoned id = true := by
  rw [place_eq_marked_iff, and_iff_right_iff_imp]
  intro ha
  apply contains_eq_false_iff.1
  apply Bool.eq_false_iff.2
  intro hcon
  rw [hc id hcon] at ha
  cases ha

theorem not_isAbandoned (hc : c.Consistent) (h : c.place id = .held p) :
    c.isAbandoned id = false := by
  apply hc id
  exact contains_iff_place.2 ⟨p, h⟩

theorem put_of_held (hc : c.Consistent) (h : c.place id = .held p) (token : CorrelationToken)
    (batch : Batch) : c.put token id batch = .error (.duplicateMessage id.text) := by
  have hcon : c.contains id = true := contains_iff_place.2 ⟨p, h⟩
  rw [PartitionCache.put, hc.not_isAbandoned h, hcon]
  rfl

end Consistent

theorem put_of_marked (h : c.place id = .marked) (token : CorrelationToken) (batch : Batch) :
    c.put token id batch = .ok { c with abandoned := c.abandoned.filter (· ≠ id) } := by
  rw [put, (place_eq_marked_iff.1 h).2]
  rfl

theorem pull_of_held (h : c.place id = .held p) :
    c.pull id = .ok (p, { c with stored := c.stored.erase id }) := by
  rw [pull, place_eq_held_iff.1 h]

theorem pull_of_not_held (h : ∀ p, c.place id ≠ .held p) :
    c.pull id = .error (.cacheMiss id.text) := by
  rw [pull, find?_of_not_held h]

theorem discard_of_held (h : c.place id = .held p) :
    c.discard id = (true, { c with stored := c.stored.erase id }) := by
  rw [discard, if_pos (contains_iff_place.2 ⟨p, h⟩)]

theorem discard_of_not_held (h : ∀ p, c.place id ≠ .held p) :
    c.discard id = (false, { c with abandoned := id :: c.abandoned.filter (· ≠ id) }) := by
  rw [discard, contains_eq_false_iff.2 (find?_of_not_held h)]
  rfl

/-! ### One request -/

theorem Consistent.serves (hc : c.Consistent) (r : CacheRequest) :
    Serves c r (c.outcome r) (c.serve r) := by
  cases r with
  | put token id batch =>
    -- a mark is looked at first, so that a stored id must have none to be refused
    rw [outcome, PartitionCache.serve]
    cases hk : c.place id with
    | vacant =>
      rw [put_of_lacks (place_eq_vacant_iff.1 hk)]
      simp only [FiniteMap.find?_insert, if_true]
      exact .store hk
    | marked =>
      rw [put_of_marked hk]
      simp only [(place_eq_marked_iff.1 hk).1]
      exact .drop hk
    | held p =>
      rw [hc.put_of_held hk]
      exact .refuse hk
  | pull id =>
    rw [outcome, PartitionCache.serve]
    cases hk : c.place id with
    | held p =>
      rw [pull_of_held hk]
      exact .pull hk
    | _ =>
      have hnot : ∀ p, c.place id ≠ .held p := by simp [hk]
      rw [pull_of_not_held hnot]
      exact .miss hnot
  | discard id =>
    rw [outcome, PartitionCache.serve]
    cases hk : c.place id with
    | held p =>
      rw [discard_of_held hk]
      exact .evict hk
    | _ =>
      have hnot : ∀ p, c.place id ≠ .held p := by simp [hk]
      rw [discard_of_not_held hnot]
      exact .mark hnot

/-- A request about one id changes nothing under another. -/
theorem serve_of_ne (c : PartitionCache) (hi : i ≠ r.about) :
    (c.serve r).stored.find? i = c.stored.find? i ∧
      (c.serve r).isAbandoned i = c.isAbandoned i := by
  cases r with
  | put token id batch =>
    have hne : i ≠ id := hi
    rw [serve_put]
    split
    · rw [isAbandoned_spent, decide_eq_true hne]
      exact ⟨rfl, rfl⟩
    · split
      · exact ⟨rfl, rfl⟩
      · exact ⟨by simp [hne], rfl⟩
  | pull id =>
    have hne : i ≠ id := hi
    rw [serve_pull]
    exact ⟨by simp [hne], rfl⟩
  | discard id =>
    have hne : i ≠ id := hi
    rw [serve_discard]
    split
    · exact ⟨by simp [hne], rfl⟩
    · rw [isAbandoned_given, decide_eq_false hne]
      exact ⟨rfl, rfl⟩

theorem place_serve_of_ne (c : PartitionCache) (hi : i ≠ r.about) :
    (c.serve r).place i = c.place i := by
  obtain ⟨hf, ha⟩ := c.serve_of_ne hi
  rw [place, place, hf, ha]

/-- Under its own id a request is served as the machine of the places has it. -/
theorem Serves.place_eq (hs : Serves c r o d) (hc : c.Consistent) :
    (c.place r.about).serve c.owner r = (o, d.place r.about) := by
  cases hs with
  | store h => rw [CacheRequest.about, h, place_insert, Place.serve]
  | drop h => rw [CacheRequest.about, h, place_spent (place_eq_marked_iff.1 h).1, Place.serve]
  | refuse h => rw [CacheRequest.about, h, Place.serve]
  | pull h => rw [CacheRequest.about, h, place_erase (hc.not_isAbandoned h), Place.serve]
  | miss h => rw [CacheRequest.about, Place.serve_pull_of_ne _ _ h]
  | evict h => rw [CacheRequest.about, h, place_erase (hc.not_isAbandoned h), Place.serve]
  | mark h =>
    rw [CacheRequest.about, Place.serve_discard_of_ne _ _ h, place_given (find?_of_not_held h)]

/-- What is stored adds one to the size, and what is removed takes one off. -/
theorem Serves.size_eq (hs : Serves c r o d) :
    d.size + (if o.isPulled then 1 else 0) + (if o.isEvicted then 1 else 0) =
      c.size + (if o.isStored then 1 else 0) := by
  have herase : ∀ {id p}, c.place id = .held p → (c.stored.erase id).size + 1 = c.stored.size := by
    intro id p h
    have hcon : c.stored.contains id = true := contains_iff_place.2 ⟨p, h⟩
    have hpos := FiniteMap.size_pos hcon
    rw [FiniteMap.size_erase, if_pos hcon]
    omega
  cases hs with
  | @store id token batch h =>
    have hcon : c.stored.contains id = false := contains_eq_false_iff.2 (place_eq_vacant_iff.1 h).1
    change (c.stored.insert id ⟨c.owner, token, batch⟩).size = c.stored.size + 1
    simp [hcon]
  | drop h => rfl
  | refuse h => rfl
  | pull h => exact herase h
  | miss h => rfl
  | evict h => exact herase h
  | mark h => rfl

/-- What waits was there before, and neither stored nor removed just now, or it was stored now. -/
theorem Serves.held (hs : Serves c r o (c.serve r)) (hc : c.Consistent)
    (hp : (c.serve r).place i = .held p) :
    (c.place i = .held p ∧ ¬ CacheEvent.Stores ⟨r, o⟩ i ∧ ¬ CacheEvent.Removes ⟨r, o⟩ i) ∨
      ⟨r, o⟩ = storing i p := by
  by_cases hi : i = r.about
  · subst hi
    have hplace := hs.place_eq hc
    rw [hp] at hplace
    rcases Place.eq_of_serve_eq_held hplace with ⟨hheld, rfl⟩ | ⟨hr, rfl⟩
    · refine .inl ⟨hheld, ?_, ?_⟩
      · rintro ⟨-, h⟩
        cases h
      · rintro ⟨-, h | h⟩ <;> cases h
    · rw [storing, ← hr]
      exact .inr rfl
  · rw [place_serve_of_ne c hi] at hp
    exact .inl ⟨hp, fun h => hi h.1.symm, fun h => hi h.1.symm⟩

theorem Serves.removes (hs : Serves c r o d) (he : CacheEvent.Removes ⟨r, o⟩ id) :
    ∃ p, c.place id = .held p ∧
      (r = .pull id ∧ o = .pulled p ∨ r = .discard id ∧ o = .evicted) := by
  obtain ⟨rfl, he⟩ := he
  cases hs with
  | pull h => exact ⟨_, h, .inl ⟨rfl, rfl⟩⟩
  | evict h => exact ⟨_, h, .inr ⟨rfl, rfl⟩⟩
  | _ => rcases he with he | he <;> cases he

/-! ### Many requests -/

theorem owner_serveAll (c : PartitionCache) (rs : List CacheRequest) :
    (c.serveAll rs).owner = c.owner := by
  induction rs generalizing c with
  | nil => rfl
  | cons r rs ih => rw [serveAll_cons, ih, owner_serve]

/-- What a cache has under an id depends on the requests about this id alone. -/
theorem Consistent.place_serveAll (hc : c.Consistent) (id : MessageId) (rs : List CacheRequest) :
    (c.serveAll rs).place id = (c.place id).serveAll c.owner (rs.filter (·.about = id)) := by
  induction rs generalizing c with
  | nil => rfl
  | cons r rs ih =>
    have hrest := ih (hc.serve r)
    rw [owner_serve] at hrest
    rw [serveAll_cons, hrest]
    by_cases hr : r.about = id
    · subst hr
      have hown := (hc.serves r).place_eq hc
      rw [List.filter_cons_of_pos (by simp), Place.serveAll, Place.serveAll, List.foldl_cons, hown]
    · rw [List.filter_cons_of_neg (by simp [hr]), place_serve_of_ne c (Ne.symm hr)]

theorem exists_of_history {rs : List CacheRequest} (h : c.history rs = first ++ e :: rest) :
    ∃ before r after, rs = before ++ r :: after ∧ first = c.history before ∧
      e = ⟨r, (c.serveAll before).outcome r⟩ := by
  induction first generalizing c rs with
  | nil =>
    cases rs with
    | nil => cases h
    | cons r rs =>
      cases h
      exact ⟨[], r, rs, rfl, rfl, rfl⟩
  | cons f first ih =>
    cases rs with
    | nil => cases h
    | cons r rs =>
      obtain ⟨hf, hrest⟩ := List.cons.inj h
      obtain ⟨before, q, after, rfl, rfl, he⟩ := ih hrest
      refine ⟨r :: before, q, after, rfl, ?_, he⟩
      rw [history, hf]

/-- What waits in a cache and how much of it there is, from what came of the requests before. -/
structure Recorded (c : PartitionCache) (h : List CacheEvent) : Prop where
  consistent : c.Consistent
  latest : ∀ id p, c.place id = .held p → Latest h id p
  size : c.size + h.countP (·.outcome.isPulled) + h.countP (·.outcome.isEvicted) =
    h.countP (·.outcome.isStored)

namespace Recorded

variable {h : List CacheEvent}

theorem empty (owner : ParticipantId) : Recorded (empty owner) [] where
  consistent := consistent_empty owner
  latest _ _ h := nomatch h
  size := rfl

theorem serve (hr : Recorded c h) (r : CacheRequest) :
    Recorded (c.serve r) (h ++ [⟨r, c.outcome r⟩]) where
  consistent := hr.consistent.serve r
  latest := by
    intro id p hp
    rcases (hr.consistent.serves r).held hr.consistent hp with ⟨hheld, hs, hm⟩ | he
    · exact (hr.latest id p hheld).snoc hs hm
    · rw [he]
      exact latest_storing h id p
  size := by
    have hstep := (hr.consistent.serves r).size_eq
    have hsize := hr.size
    simp only [List.countP_append, List.countP_singleton]
    omega

theorem serveAll (hr : Recorded c h) (rs : List CacheRequest) :
    Recorded (c.serveAll rs) (h ++ c.history rs) := by
  induction rs generalizing c h with
  | nil =>
    rw [history, List.append_nil]
    exact hr
  | cons r rs ih =>
    have hrest := ih (hr.serve r)
    rw [List.append_assoc] at hrest
    exact hrest

end Recorded

theorem recorded (owner : ParticipantId) (rs : List CacheRequest) :
    Recorded ((empty owner).serveAll rs) ((empty owner).history rs) :=
  (Recorded.empty owner).serveAll rs

/-- What is removed is what was stored last. -/
theorem latest_of_removes {owner : ParticipantId} {rs : List CacheRequest} {e : CacheEvent}
    (h : (empty owner).history rs = first ++ e :: rest) (he : e.Removes id) :
    ∃ p, Latest first id p ∧ (e = ⟨.pull id, .pulled p⟩ ∨ e = ⟨.discard id, .evicted⟩) := by
  obtain ⟨before, r, after, -, rfl, rfl⟩ := exists_of_history h
  have hr := recorded owner before
  obtain ⟨p, hp, hcases⟩ := (hr.consistent.serves r).removes he
  refine ⟨p, hr.latest id p hp, ?_⟩
  rcases hcases with ⟨rfl, ho⟩ | ⟨rfl, ho⟩
  · rw [ho]
    exact .inl rfl
  · rw [ho]
    exact .inr rfl

/-! ### Writing once and reading once -/

namespace Consistent

variable {token : CorrelationToken} {batch : Batch}

theorem put_eq_error_iff (hc : c.Consistent) : c.put token id batch = .error x ↔
    c.contains id = true ∧ x = .duplicateMessage id.text := by
  rw [contains_iff_place]
  cases hk : c.place id with
  | vacant => simp [put_of_lacks (place_eq_vacant_iff.1 hk)]
  | marked => simp [put_of_marked hk]
  | held p => simp [hc.put_of_held hk, eq_comm]

/-- A write that is taken finds its id vacant and fills it, or marked and spends the mark. -/
theorem place_of_put (hc : c.Consistent) (h : c.put token id batch = .ok d) :
    c.place id = .vacant ∧ d.place id = .held ⟨c.owner, token, batch⟩ ∨
      c.place id = .marked ∧ d.place id = .vacant := by
  cases hk : c.place id with
  | vacant =>
    rw [put_of_lacks (place_eq_vacant_iff.1 hk)] at h
    cases h
    exact .inl ⟨rfl, place_insert ..⟩
  | marked =>
    rw [put_of_marked hk] at h
    cases h
    exact .inr ⟨rfl, place_spent (place_eq_marked_iff.1 hk).1⟩
  | held p =>
    rw [hc.put_of_held hk] at h
    cases h

theorem exists_put_lacks_iff (hc : c.Consistent) :
    (∃ d, c.put token id batch = .ok d ∧ d.Lacks id) ↔ c.isAbandoned id = true := by
  rw [← hc.marked_iff]
  constructor
  · rintro ⟨d, hput, hd⟩
    rcases hc.place_of_put hput with ⟨-, hheld⟩ | ⟨hk, -⟩
    · rw [place_eq_vacant_iff.2 hd] at hheld
      cases hheld
    · exact hk
  · intro hk
    have hput := put_of_marked hk token batch
    refine ⟨_, hput, ?_⟩
    rcases hc.place_of_put hput with ⟨hvacant, -⟩ | ⟨-, hd⟩
    · rw [hk] at hvacant
      cases hvacant
    · exact place_eq_vacant_iff.1 hd

theorem exists_put_stored_iff (hc : c.Consistent) (token : CorrelationToken) (id : MessageId)
    (batch : Batch) :
    (∃ d, c.put token id batch = .ok d ∧ d.stored.find? id = some ⟨c.owner, token, batch⟩) ↔
      c.contains id = false ∧ c.isAbandoned id = false := by
  rw [contains_eq_false_iff]
  constructor
  · rintro ⟨d, hput, hd⟩
    rcases hc.place_of_put hput with ⟨hk, -⟩ | ⟨-, hvacant⟩
    · exact place_eq_vacant_iff.1 hk
    · rw [place_of_some hd] at hvacant
      cases hvacant
  · intro hk
    exact ⟨_, put_of_lacks hk token batch, by simp⟩

theorem place_of_pull (hc : c.Consistent) (h : c.pull id = .ok (p, d)) :
    c.place id = .held p ∧ d.place id = .vacant := by
  cases hk : c.place id with
  | held q =>
    rw [pull_of_held hk] at h
    cases h
    exact ⟨rfl, place_erase (hc.not_isAbandoned hk)⟩
  | _ =>
    rw [pull_of_not_held (by simp [hk])] at h
    cases h

theorem place_discard (hc : c.Consistent) (id : MessageId) :
    (c.discard id).2.place id = if c.contains id then .vacant else .marked := by
  split
  · next hcon =>
    obtain ⟨p, hp⟩ := contains_iff_place.1 hcon
    rw [discard_of_held hp]
    exact place_erase (hc.not_isAbandoned hp)
  · next hcon =>
    have hnot : ∀ p, c.place id ≠ .held p := fun p hp => hcon (contains_iff_place.2 ⟨p, hp⟩)
    rw [discard_of_not_held hnot]
    exact place_given (find?_of_not_held hnot)

end Consistent

theorem pull_eq_error_iff : c.pull id = .error x ↔
    c.contains id = false ∧ x = .cacheMiss id.text := by
  rw [contains_eq_false_iff, pull]
  cases c.stored.find? id <;> simp [eq_comm]

theorem discard_evicts_iff : (c.discard id).1 = true ↔
    c.contains id = true ∧ (c.discard id).2.contains id = false := by
  have hgone : (c.discard id).2.contains id = false := contains_serve_discard c id
  rw [hgone, discard]
  cases c.contains id <;> simp

/--
Each id is written once and read once in a cache that was empty and came to `c` by the requests
`rs`, of which `h` tells what came of them: what is so by now, and of anything that is asked next.
-/
structure OnceEach (owner : ParticipantId) (rs : List CacheRequest) (c : PartitionCache)
    (h : List CacheEvent) : Prop where
  apart : ∀ id, ¬ (c.contains id = true ∧ c.isAbandoned id = true)
  /-- A write is refused exactly if its id is stored, and leaves what is stored as it is. -/
  refused : ∀ token id batch x, c.put token id batch = .error x ↔
    c.contains id = true ∧ x = .duplicateMessage id.text
  untouched : ∀ token id batch, c.contains id = true → c.serve (.put token id batch) = c
  /-- A write is taken and not stored exactly if its id is marked, and the mark is gone then. -/
  dropped : ∀ token id batch,
    (∃ d, c.put token id batch = .ok d ∧ d.Lacks id) ↔ c.isAbandoned id = true
  stored : ∀ token id batch,
    (∃ d, c.put token id batch = .ok d ∧ d.stored.find? id = some ⟨owner, token, batch⟩) ↔
      c.contains id = false ∧ c.isAbandoned id = false
  pulled : ∀ id p d, c.pull id = .ok (p, d) → Latest h id p ∧ d.Lacks id
  missed : ∀ id x, c.pull id = .error x ↔ c.contains id = false ∧ x = .cacheMiss id.text
  evicted : ∀ id, (c.discard id).1 = true ↔
    c.contains id = true ∧ (c.discard id).2.contains id = false
  discarded : ∀ id, (c.discard id).2.place id = if c.contains id then .vacant else .marked
  /-- Whatever was removed was what had been stored last. -/
  removed : ∀ id first e rest, h = first ++ e :: rest → e.Removes id → ∃ p, Latest first id p ∧
    (e = ⟨.pull id, .pulled p⟩ ∨ e = ⟨.discard id, .evicted⟩)
  /-- Between two removals under an id something is stored under it. -/
  once : ∀ id first q between r rest, h = first ++ q :: between ++ r :: rest →
    q.Removes id → r.Removes id → ∃ e ∈ between, e.Stores id
  size : c.size + h.countP (·.outcome.isPulled) + h.countP (·.outcome.isEvicted) =
    h.countP (·.outcome.isStored)
  frame : ∀ r i, i ≠ r.about → (c.serve r).stored.find? i = c.stored.find? i ∧
    (c.serve r).isAbandoned i = c.isAbandoned i
  own : ∀ id, c.place id = Place.serveAll owner .vacant (rs.filter (·.about = id))

/-- Each id is written once and read once, whatever was asked of a cache since it was empty. -/
theorem written_once_read_once (owner : ParticipantId) (rs : List CacheRequest) :
    OnceEach owner rs ((empty owner).serveAll rs) ((empty owner).history rs) := by
  have hr := recorded owner rs
  have hc := hr.consistent
  have howner : ((empty owner).serveAll rs).owner = owner := owner_serveAll _ rs
  exact {
    apart := by
      rintro id ⟨hcon, hmark⟩
      rw [hc id hcon] at hmark
      cases hmark
    refused := fun token id batch x => hc.put_eq_error_iff
    untouched := by
      intro token id batch hcon
      rw [serve, hc.put_eq_error_iff.2 ⟨hcon, rfl⟩]
    dropped := fun token id batch => hc.exists_put_lacks_iff
    stored := by
      intro token id batch
      have hiff := hc.exists_put_stored_iff token id batch
      rw [howner] at hiff
      exact hiff
    pulled := by
      intro id p d hpull
      obtain ⟨hheld, hvacant⟩ := hc.place_of_pull hpull
      exact ⟨hr.latest id p hheld, place_eq_vacant_iff.1 hvacant⟩
    missed := fun id x => pull_eq_error_iff
    evicted := fun id => discard_evicts_iff
    discarded := hc.place_discard
    removed := fun id first e rest hsplit he => latest_of_removes hsplit he
    once := by
      intro id first q between r rest hsplit hq hremoves
      obtain ⟨p, hlatest, -⟩ := latest_of_removes hsplit hremoves
      exact hlatest.exists_stores hq
    size := hr.size
    frame := fun r i hi => serve_of_ne _ hi
    own := by
      intro id
      rw [(consistent_empty owner).place_serveAll]
      rfl }

/-- The mark of an id swallows one write; the next one is stored. -/
example :
    let b : Batch := ⟨[], [[]]⟩
    ((empty ⟨0⟩).history [.discard ⟨"m"⟩, .put ⟨7⟩ ⟨"m"⟩ b, .put ⟨8⟩ ⟨"m"⟩ b, .put ⟨9⟩ ⟨"m"⟩ b,
      .pull ⟨"m"⟩, .pull ⟨"m"⟩]).map CacheEvent.outcome =
      [.marked, .dropped, .stored ⟨⟨0⟩, ⟨8⟩, b⟩, .refused (.duplicateMessage "m"),
        .pulled ⟨⟨0⟩, ⟨8⟩, b⟩, .missed (.cacheMiss "m")] := by
  decide

end PartitionCache

end ShardQuery
