import ShardQuery.Proofs.Cluster.Sound

namespace ShardQuery

inductive Duty where
  /-- To give the coordinator's own part of a query. -/
  | report (result : Except QueryError Batch)
  /-- To keep a share that is sent ahead, as a table. -/
  | keep (name : String) (token : CorrelationToken) (batch : Batch)
  | load (slice : Slice)
  | drop (name : String)
  | answer (token : CorrelationToken) (sql : String)

namespace Duty

def task : Duty → Task
  | report result => .own result
  | keep name token batch =>
    .ask (some ⟨token, token.messageId, batch⟩) (.createTable name token.messageId)
  | load slice => .ask none (.createFromSource slice)
  | drop name => .ask none (.dropTable name)
  | answer token sql => .ask none (.runQuery token token.messageId sql)

def call (d : Duty) (k : Nat) : Call := ⟨⟨k⟩, d.task⟩

/-- The coordinator only reports, and workers never do. -/
def Suits (d : Duty) (k : Nat) : Prop :=
  match d with
  | report _ => k = 0
  | _ => k ≠ 0

def token? : Duty → Option CorrelationToken
  | keep _ token _ => some token
  | answer token _ => some token
  | _ => none

/-- What an engine does for its duty: the engine after it, and the answer. -/
def meet (files : FileStore) (e : Engine) : Duty → Except QueryError (Engine × Answer)
  | report result => result.map fun b => (e, .rows b)
  | keep name _ batch => .ok (e.withTable name batch, .done)
  | load slice => (slice.load files).map fun b => (e.withTable slice.table.name b, .done)
  | drop name => (e.drop name).map fun e => (e, .done)
  | answer _ sql => (e.prepare sql >>= Engine.Prepared.run).map fun b => (e, .rows b)

def advance (files : FileStore) (e : Engine) (d : Duty) : Engine :=
  match d.meet files e with
  | .ok (e', _) => e'
  | .error _ => e

/-- How a failure is reported. -/
def blame : Duty → QueryError → FailureKind
  | report _, x => .ofError (.engine x)
  | _, x => .rejected x.message

def outcome (files : FileStore) (e : Engine) (d : Duty) : Except FailureKind Answer :=
  ((d.meet files e).map Prod.snd).mapError d.blame

theorem isSound_withTable (h : Engine.IsSound e ms k) (name : String) (batch : Batch) :
    (e.withTable name batch).IsSound ms k :=
  ⟨h.self, h.members, h.conduct⟩

theorem isSound_drop (h : Engine.IsSound e ms k) (hd : e.drop name = .ok e') :
    e'.IsSound ms k := by
  rw [Engine.drop] at hd
  split at hd
  · cases hd
    exact ⟨h.self, h.members, h.conduct⟩
  · cases hd

theorem isSound_advance (h : Engine.IsSound e ms k) (files : FileStore) (d : Duty) :
    (d.advance files e).IsSound ms k := by
  rw [advance]
  split
  · next e' _ hm =>
    cases d with
    | report result =>
      obtain ⟨b, _, hb⟩ := Except.map_eq_ok_iff.1 hm
      cases hb
      exact h
    | keep name token batch =>
      cases hm
      exact isSound_withTable h ..
    | load slice =>
      obtain ⟨b, _, hb⟩ := Except.map_eq_ok_iff.1 hm
      cases hb
      exact isSound_withTable h ..
    | drop name =>
      obtain ⟨b, he, hb⟩ := Except.map_eq_ok_iff.1 hm
      cases hb
      exact isSound_drop h he
    | answer token sql =>
      obtain ⟨b, _, hb⟩ := Except.map_eq_ok_iff.1 hm
      cases hb
      exact h
  · exact h

end Duty

namespace Cluster

variable {c : Cluster} {es : Nat → Engine}

theorem Seats.ask_of_error (h : c.Seats es) (hi : i < c.workers.length)
    (hb : (Worker.serving (es (i + 1))).begin? c.files c.net r = .error x) :
    c.ask ⟨i + 1⟩ r = (c, .error (.participantFailed ⟨i + 1⟩ x.message)) := by
  have hw := h.withWorker i (es (i + 1)) c.net
  rw [Function.update_eq_self, h] at hw
  have hh : (Worker.serving (es (i + 1))).handle c.files c.net r =
      (.serving (es (i + 1)), c.net, some (Worker.refusal x)) := by
    rw [Worker.handle, Worker.start_of_error hb]
  rw [Cluster.ask, h.worker? hi]
  simp only [hh, hw]
  rfl

theorem Seats.ask_of_success (h : c.Seats es) (hi : i < c.workers.length)
    (hh : (Worker.serving (es (i + 1))).handle c.files c.net r =
      (.serving e, m, some r.success))
    (hm : Channel.meaning ⟨i + 1⟩ r.success = .ok r.success) :
    c.ask ⟨i + 1⟩ r = (c.hosting (Function.update es (i + 1) e) m).collect r := by
  have hr : r.check ⟨i + 1⟩ r.success = .ok () := if_pos rfl
  rw [Cluster.ask, h.worker? hi]
  simp only [hh, h.withWorker i, hm, Except.ok_bind, hr]
  rfl

theorem Seats.ask_of_replied (h : c.Seats es) (hi : i < c.workers.length)
    (hb : (Worker.serving (es (i + 1))).begin? c.files c.net r =
      .ok (.serving e, m, .replied r.success))
    (hm : Channel.meaning ⟨i + 1⟩ r.success = .ok r.success)
    (hc : ∀ d : Cluster, d.collect r = (d, .ok .done)) :
    c.ask ⟨i + 1⟩ r = (c.hosting (Function.update es (i + 1) e) m, .ok .done) := by
  have hh : (Worker.serving (es (i + 1))).handle c.files c.net r =
      (.serving e, m, some r.success) := by
    rw [Worker.handle, Worker.start, hb]
  rw [h.ask_of_success hi hh hm, hc]

theorem Seats.sendShare (h : c.Seats es) (hi : i < c.workers.length) (s : Share)
    (hs : c.own.send c.net ⟨i + 1⟩ s.token s.id s.batch = .ok m) :
    c.sendShare ⟨i + 1⟩ (some s) = .ok { c with net := m } := by
  have hl : ((Worker.serving (es (i + 1))).conducts.of ⟨i + 1⟩).losesShares = false := rfl
  simp only [Cluster.sendShare, h.worker? hi, hl, hs]
  rfl

theorem Hosts.attend_keep (h : c.Hosts es) (hi : i < c.workers.length) (name : String)
    (hl : c.net.Lacks token.messageId) (batch : Batch) :
    ∃ m, m.Alike c.net ∧ c.attend ((Duty.keep name token batch).call (i + 1)) =
      (c.hosting (Function.update es (i + 1) ((es (i + 1)).withTable name batch)) m,
        .ok .done) := by
  obtain ⟨a, ha, hb⟩ := h.reach (i + 1) hi
  obtain ⟨n, hput, m, hpull, hm⟩ := Interconnect.put_pull hb hl token batch
  have he := h.engine (i + 1) hi
  have hsend : c.own.send c.net ⟨i + 1⟩ token token.messageId batch = .ok n := by
    rw [h.seats.own, (h.engine 0 (Nat.zero_le _)).send_eq ha, hput]
  have hbegin : (Worker.serving (es (i + 1))).begin? c.files n
      (.createTable name token.messageId) =
        .ok (.serving ((es (i + 1)).withTable name batch), m, .replied .tableCreated) := by
    simp only [Worker.begin?, Worker.serving, Worker.context, Except.ok_bind]
    rw [he.pull_eq ha hpull, Except.ok_bind, he.create_eq, Except.ok_bind]
    rfl
  have hask := (h.seats.seats_withNet n).ask_of_replied hi hbegin rfl fun _ => rfl
  refine ⟨m, hm, ?_⟩
  rw [Cluster.attend]
  simp only [Duty.call, Duty.task]
  rw [h.seats.sendShare hi ⟨token, token.messageId, batch⟩ hsend]
  exact hask

theorem Hosts.attend_load (h : c.Hosts es) (hi : i < c.workers.length) (s : Slice)
    (hs : s.load c.files = .ok b) :
    c.attend ((Duty.load s).call (i + 1)) =
      (c.hosting (Function.update es (i + 1) ((es (i + 1)).withTable s.table.name b)) c.net,
        .ok .done) := by
  have hbegin : (Worker.serving (es (i + 1))).begin? c.files c.net (.createFromSource s) =
      .ok (.serving ((es (i + 1)).withTable s.table.name b), c.net, .replied .tableCreated) := by
    simp only [Worker.begin?, Worker.serving, Worker.context, Except.ok_bind]
    rw [(h.engine (i + 1) hi).createFromSource_eq, hs]
    rfl
  exact h.seats.ask_of_replied hi hbegin rfl fun _ => rfl

theorem Hosts.attend_drop (h : c.Hosts es) (hi : i < c.workers.length)
    (hd : (es (i + 1)).drop name = .ok e) :
    c.attend ((Duty.drop name).call (i + 1)) =
      (c.hosting (Function.update es (i + 1) e) c.net, .ok .done) := by
  have hbegin : (Worker.serving (es (i + 1))).begin? c.files c.net (.dropTable name) =
      .ok (.serving e, c.net, .replied .tableDropped) := by
    simp only [Worker.begin?, Worker.serving, Worker.context, Except.ok_bind]
    rw [(h.engine (i + 1) hi).conduct, hd]
    rfl
  exact h.seats.ask_of_replied hi hbegin rfl fun _ => rfl

/-- A worker's partial result is put into the coordinator's cache and pulled out of it. -/
theorem Hosts.attend_answer (h : c.Hosts es) (hi : i < c.workers.length)
    (hl : c.net.Lacks token.messageId)
    (hp : (es (i + 1)).prepare sql >>= Engine.Prepared.run = .ok b) :
    ∃ m, m.Alike c.net ∧
      c.attend ((Duty.answer token sql).call (i + 1)) = (c.hosting es m, .ok (.rows b)) := by
  obtain ⟨a, ha, hb⟩ := h.reach 0 (Nat.zero_le _)
  obtain ⟨n, hput, m, hpull, hm⟩ := Interconnect.put_pull hb hl token b
  obtain ⟨p, hprep, hrun⟩ := Except.bind_eq_ok_iff.1 hp
  have he := h.engine (i + 1) hi
  have hdel : (es (i + 1)).deliver c.net token token.messageId b = (n, .ok ()) :=
    he.deliver_eq ((he.send_eq ha ..).trans hput)
  have hhandle : (Worker.serving (es (i + 1))).handle c.files c.net
      (.runQuery token token.messageId sql) =
        (.serving (es (i + 1)), n, some (.queryRan token token.messageId)) := by
    simp only [Worker.handle, Worker.start, Worker.begin?, Worker.serving, Worker.context,
      Except.ok_bind, hprep, hrun, Worker.deliver, hdel]
  have hown := (h.engine 0 (Nat.zero_le _)).pull_eq ha hpull
  have hask := h.seats.ask_of_success hi hhandle rfl
  simp only [Function.update_eq_self, Cluster.collect, own_hosting, net_hosting, hown] at hask
  exact ⟨m, hm, hask⟩

theorem Hosts.attend_error (h : c.Hosts es) (hi : i < c.workers.length) {d : Duty}
    (hd : d.Suits (i + 1)) (hx : d.meet c.files (es (i + 1)) = .error x) :
    c.attend (d.call (i + 1)) = (c, .error (.participantFailed ⟨i + 1⟩ x.message)) := by
  cases d with
  | report result => cases hd
  | keep name token batch => cases hx
  | load s =>
    apply h.seats.ask_of_error hi
    simp only [Worker.begin?, Worker.serving, Worker.context, Except.ok_bind]
    rw [(h.engine (i + 1) hi).createFromSource_eq]
    cases hs : s.load c.files with
    | ok b => rw [Duty.meet, hs] at hx; cases hx
    | error y => rw [Duty.meet, hs] at hx; cases hx; rfl
  | drop name =>
    apply h.seats.ask_of_error hi
    simp only [Worker.begin?, Worker.serving, Worker.context, Except.ok_bind]
    rw [(h.engine (i + 1) hi).conduct]
    cases hs : (es (i + 1)).drop name with
    | ok b => rw [Duty.meet, hs] at hx; cases hx
    | error y => rw [Duty.meet, hs] at hx; cases hx; rfl
  | answer token sql =>
    apply h.seats.ask_of_error hi
    simp only [Worker.begin?, Worker.serving, Worker.context, Except.ok_bind]
    rw [Duty.meet] at hx
    cases hp : (es (i + 1)).prepare sql with
    | error y => rw [hp] at hx; cases hx; rfl
    | ok p =>
      rw [hp, Except.ok_bind] at hx
      rw [Except.ok_bind]
      cases hr : p.run with
      | error y => rw [hr] at hx; cases hx; rfl
      | ok b => rw [hr] at hx; cases hx

/-- A participant does its duty and nobody else does anything. -/
theorem Hosts.attend (h : c.Hosts es) (hk : k ≤ c.workers.length) {d : Duty} (hd : d.Suits k)
    (hl : ∀ t ∈ d.token?, c.net.Lacks t.messageId) :
    ∃ m r, m.Alike c.net ∧
      c.attend (d.call k) =
        (c.hosting (Function.update es k (d.advance c.files (es k))) m, r) ∧
      r.mapError .ofError = d.outcome c.files (es k) := by
  cases k with
  | zero =>
    cases d with
    | report result =>
      have ha : (Duty.report result).advance c.files (es 0) = es 0 := by
        cases result <;> rfl
      rw [ha, Function.update_eq_self]
      refine ⟨c.net, _, .refl _, by rw [h.seats]; rfl, ?_⟩
      cases result <;> rfl
    | _ => exact absurd rfl hd
  | succ i =>
    cases hx : d.meet c.files (es (i + 1)) with
    | error x =>
      have ha : d.advance c.files (es (i + 1)) = es (i + 1) := by rw [Duty.advance, hx]
      have ho : d.outcome c.files (es (i + 1)) = .error (.rejected x.message) := by
        rw [Duty.outcome, hx]
        cases d with
        | report result => cases hd
        | _ => rfl
      rw [ha, Function.update_eq_self, ho]
      have hs : c.hosting es c.net = c := h.seats
      exact ⟨c.net, _, .refl _, by rw [hs, h.attend_error hk hd hx], rfl⟩
    | ok p =>
      have ho : d.outcome c.files (es (i + 1)) = .ok p.2 := by rw [Duty.outcome, hx]; rfl
      have ha : d.advance c.files (es (i + 1)) = p.1 := by rw [Duty.advance, hx]
      rw [ha, ho]
      cases d with
      | report result => cases hd
      | keep name token batch =>
        obtain ⟨m, hm, he⟩ := h.attend_keep hk name (hl token rfl) batch
        cases hx
        exact ⟨m, _, hm, he, rfl⟩
      | load s =>
        obtain ⟨b, hb, rfl⟩ := Except.map_eq_ok_iff.1 hx
        exact ⟨c.net, _, .refl _, h.attend_load hk s hb, rfl⟩
      | drop name =>
        obtain ⟨e, he, rfl⟩ := Except.map_eq_ok_iff.1 hx
        exact ⟨c.net, _, .refl _, h.attend_drop hk he, rfl⟩
      | answer token sql =>
        obtain ⟨b, hb, rfl⟩ := Except.map_eq_ok_iff.1 hx
        obtain ⟨m, hm, he⟩ := h.attend_answer hk (hl token rfl) hb
        rw [Function.update_eq_self]
        exact ⟨m, _, hm, he, rfl⟩

def advanced (files : FileStore) (d : Nat → Duty) (es : Nat → Engine) (ks : List Nat) :
    Nat → Engine :=
  fun k => if k ∈ ks then (d k).advance files (es k) else es k

theorem isSound_advanced (he : Engine.IsSound (es k) ms k) (files : FileStore)
    (d : Nat → Duty) (ks : List Nat) : (advanced files d es ks k).IsSound ms k := by
  rw [advanced]
  split
  · exact Duty.isSound_advance he files (d k)
  · exact he

theorem advanced_cons (files : FileStore) (d : Nat → Duty) (hk : k ∉ ks) :
    advanced files d (Function.update es k ((d k).advance files (es k))) ks =
      advanced files d es (k :: ks) := by
  funext j
  by_cases hj : j = k
  · subst hj
    simp [advanced, hk]
  · simp [advanced, hj]

/-- Whatever the order of the calls, all do their duties as from the start. -/
theorem Hosts.attendAll (h : c.Hosts es) {d : Nat → Duty} {ks : List Nat} (hn : ks.Nodup)
    (hk : ∀ k ∈ ks, k ≤ c.workers.length ∧ (d k).Suits k ∧
      ∀ t ∈ (d k).token?, c.net.Lacks t.messageId) :
    ∃ m, m.Alike c.net ∧ c.attendAll (ks.map fun k => (d k).call k) =
      (c.hosting (advanced c.files d es ks) m,
        ks.map fun k => (⟨k⟩, (d k).outcome c.files (es k))) := by
  induction ks generalizing c es with
  | nil =>
    refine ⟨c.net, .refl _, ?_⟩
    have ha : advanced c.files d es [] = es := rfl
    rw [ha, h.seats]
    rfl
  | cons k ks ih =>
    obtain ⟨hkn, hn⟩ := List.nodup_cons.1 hn
    obtain ⟨hle, hsuits, hl⟩ := hk k (List.mem_cons_self ..)
    obtain ⟨m, r, hm, hattend, hr⟩ := h.attend hle hsuits hl
    have h' := h.hosting (f := Function.update es k ((d k).advance c.files (es k)))
      (fun j hj => by
        by_cases he : j = k
        · subst he
          rw [Function.update_self]
          exact Duty.isSound_advance (h.engine j hj) ..
        · rw [Function.update_of_ne he]
          exact h.engine j hj) hm
    obtain ⟨m', hm', hrest⟩ := ih h' hn fun j hj => by
      obtain ⟨hle, hsuits, hl⟩ := hk j (List.mem_cons_of_mem _ hj)
      rw [length_workers_hosting]
      exact ⟨hle, hsuits, fun t ht => (hl t ht).of_alike hm⟩
    simp only [hosting_hosting, files_hosting, advanced_cons c.files d hkn] at hrest
    have hsame : (ks.map fun j => ((⟨j⟩ : ParticipantId), (d j).outcome c.files
        (Function.update es k ((d k).advance c.files (es k)) j))) =
          ks.map fun j => (⟨j⟩, (d j).outcome c.files (es j)) := by
      refine List.map_congr_left fun j hj => ?_
      rw [Function.update_of_ne (fun he : j = k => hkn (he ▸ hj))]
    rw [hsame] at hrest
    refine ⟨m', hm'.trans hm, ?_⟩
    simp only [List.map_cons, Cluster.attendAll, hattend, hrest, hr]
    rfl

end Cluster

end ShardQuery
