import ShardQuery.Proofs.Cluster.Launch

namespace ShardQuery

inductive Turn where
  | perform (op : Operation) (answer : Except ClusterError Answer)
  | explain (sql : String) (detailed : Bool) (plan : Except ClusterError String)
  /-- The files are others from now on. -/
  | store (files : FileStore)

namespace Cluster

inductive Takes : Cluster → Turn → Cluster → Prop where
  | perform (h : Performs c op d answer) : Takes c (.perform op answer) d
  | explain (c : Cluster) (sql : String) (detailed : Bool) :
    Takes c (.explain sql detailed (c.explain sql detailed)) c
  | store (c : Cluster) (files : FileStore) : Takes c (.store files) { c with files }

inductive Runs : Cluster → List (Cluster × Turn) → Cluster → Prop where
  | nil (c : Cluster) : Runs c [] c
  | cons (h : Takes c turn d) (hs : Runs d trace e) : Runs c ((c, turn) :: trace) e

def visited (trace : List (Cluster × Turn)) (last : Cluster) : List Cluster :=
  trace.map Prod.fst ++ [last]

variable {c d : Cluster} {es : Nat → Engine}

theorem Hosts.withFiles (h : c.Hosts es) (files : FileStore) : { c with files }.Hosts es where
  seats := by
    have hs : c.hosting es c.net = c := h.seats
    rw [Seats]
    exact congrArg (fun c : Cluster => { c with files }) hs
  ready := h.ready
  size := h.size
  narrow := h.narrow
  engine := h.engine
  reach := h.reach
  lacks := h.lacks

/-- All that one turn can do to the engines of a cluster, with its answer. -/
inductive Effect (c : Cluster) (es : Nat → Engine) : Turn → (Nat → Engine) → Prop where
  | created {part : Nat → Batch}
      (hp : batch.split (c.workers.length + 1) =
        .ok ((List.range (c.workers.length + 1)).map part))
      (hf : ∀ k ≤ c.workers.length, fs k = (es k).withTable name (part k)) :
    Effect c es (.perform (.create name batch) (.ok .done)) fs
  | loaded {slice : Nat → Slice}
      (ht : t.divide c.files (c.workers.length + 1) =
        .ok ((List.range (c.workers.length + 1)).map slice))
      (hf : ∀ k ≤ c.workers.length, ∃ b, (slice k).load c.files = .ok b ∧
        fs k = (es k).withTable t.name b) :
    Effect c es (.perform (.createFromSource t) (.ok .done)) fs
  | unloaded {slice : Nat → Slice}
      (ht : t.divide c.files (c.workers.length + 1) =
        .ok ((List.range (c.workers.length + 1)).map slice))
      (hfails : ∃ k ≤ c.workers.length, ∃ x, (slice k).load c.files = .error x)
      (hgone : ∀ k ≤ c.workers.length, (k = 0 ∨ ∃ b, (slice k).load c.files = .ok b) →
        ∀ other, (fs k).tables.find? other =
          if other = t.name then none else (es k).tables.find? other)
      (hkept : ∀ k ≤ c.workers.length, k ≠ 0 → (∃ x, (slice k).load c.files = .error x) →
        fs k = es k) :
    Effect c es (.perform (.createFromSource t) (.error e)) fs
  | undivided (ht : t.divide c.files (c.workers.length + 1) = .error x) :
    Effect c es (.perform (.createFromSource t) (.error e)) es
  | dropped (hn : (es 0).holds name = true)
      (hf : ∀ k ≤ c.workers.length, ∀ other, (fs k).tables.find? other =
        if other = name then none else (es k).tables.find? other) :
    Effect c es (.perform (.drop name) answer) fs
  | missing (hn : (es 0).holds name = false) :
    Effect c es (.perform (.drop name) (.error e)) es
  | answered {ks : List Nat} {part : Nat → Batch}
      (hks : ks.Perm (List.range (c.workers.length + 1)))
      (hp : ∀ k ≤ c.workers.length,
        (es k).prepare sql >>= Engine.Prepared.run = .ok (part k)) :
    Effect c es (.perform (.query sql) (combine (ks.map fun k => (⟨k⟩, .rows (part k))))) es
  | unanswered (hp : ∃ k ≤ c.workers.length, ∃ x,
      (es k).prepare sql >>= Engine.Prepared.run = .error x) :
    Effect c es (.perform (.query sql) (.error e)) es
  | explained : Effect c es (.explain sql detailed plan) es
  | stored : Effect c es (.store directory) es

/-- A turn has one of these effects, and the participants stay sound. -/
theorem Hosts.takes (h : c.Hosts es) (ht : c.Takes turn d) :
    d.workers.length = c.workers.length ∧ ∃ fs, d.Hosts fs ∧ c.Effect es turn fs := by
  cases ht with
  | explain => exact ⟨rfl, es, h, .explained⟩
  | store files => exact ⟨rfl, es, h.withFiles files, .stored⟩
  | perform hop =>
    rename_i op answer
    cases op with
    | create name batch =>
      obtain ⟨parts, hp, hlen, -⟩ := batch.split_eq_ok (Nat.succ_pos c.workers.length)
      rw [eq_map_getD (.empty []) hlen] at hp
      obtain ⟨rfl, hkeep, fs, hd, hf⟩ := h.performs_create hp hop
      exact ⟨hkeep.workers, fs, hd, .created hp hf⟩
    | createFromSource t =>
      cases ht : t.divide c.files (c.workers.length + 1) with
      | error x =>
        obtain ⟨rfl, rfl⟩ := hop.answered_eq (h.start_source_error ht)
        exact ⟨rfl, es, h, .undivided ht⟩
      | ok slices =>
        rw [eq_map_getD (Slice.whole t) (TableReference.length_divide (Nat.succ_pos _) ht)] at ht
        obtain ⟨hkeep, fs, hd, heffect⟩ := h.performs_source ht hop
        rcases heffect with ⟨rfl, hf⟩ | ⟨⟨x, rfl⟩, hfails, hgone, hkept⟩
        · exact ⟨hkeep.workers, fs, hd, .loaded ht hf⟩
        · exact ⟨hkeep.workers, fs, hd, .unloaded ht hfails hgone hkept⟩
    | drop name =>
      rcases h.performs_drop hop with ⟨hn, rfl, x, rfl⟩ | ⟨hn, hkeep, fs, hd, hf⟩
      · exact ⟨rfl, es, h, .missing hn⟩
      · exact ⟨hkeep.workers, fs, hd, .dropped hn hf⟩
    | query sql =>
      obtain ⟨hkeep, hd, heffect⟩ := h.performs_query hop
      rcases heffect with ⟨ks, part, hks, hp, rfl⟩ | ⟨hp, x, rfl⟩
      · exact ⟨hkeep.workers, es, hd, .answered hks hp⟩
      · exact ⟨hkeep.workers, es, hd, .unanswered hp⟩

theorem Hosts.runs (h : c.Hosts es) (hr : c.Runs trace d) : ∃ fs, d.Hosts fs := by
  induction hr generalizing es with
  | nil => exact ⟨es, h⟩
  | cons ht hs ih =>
    obtain ⟨-, fs, hd, -⟩ := h.takes ht
    exact ih hd

theorem Hosts.perform_create (h : c.Hosts es) (name : String) (batch : Batch) :
    c.Performs (.create name batch) (c.perform (.create name batch)).1 (.ok .done) := by
  obtain ⟨parts, hp, hlen, -⟩ := batch.split_eq_ok (Nat.succ_pos c.workers.length)
  rw [eq_map_getD (.empty []) hlen] at hp
  have hop := c.performs_perform (.create name batch)
  obtain ⟨ha, -⟩ := h.performs_create hp hop
  rw [ha] at hop
  exact hop

theorem exists_run : ∃ c, Cluster.run .default 1 [] .empty = .ok c :=
  Except.exists_of_isOk (by decide +kernel)

def counted : Batch := ⟨[⟨"n", .integer int64, false⟩], [[.int 1], [.int 2], [.int 3]]⟩

end Cluster

end ShardQuery
