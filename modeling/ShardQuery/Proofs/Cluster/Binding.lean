import ShardQuery.Cluster.Direct
import ShardQuery.Cluster.Live
import ShardQuery.Proofs.Cluster.Perform
import ShardQuery.Proofs.Cluster.Run
import ShardQuery.Proofs.Query.Selection

namespace ShardQuery

namespace Engine

/-- A query that reads, with its table. -/
structure Reads (e : Engine) (sql : String) (q : SelectQuery) (b : Batch) : Prop where
  query : parseQuery sql = .ok q
  table : e.tables.find? q.table = some b

/-- A query that does not bind, with the error that says so. -/
inductive Unbound (e : Engine) (sql : String) : QueryError → Prop where
  | unreadable (h : SelectQuery.read sql = .error x) : Unbound e sql (.parse x.message)
  | table (h : parseQuery sql = .ok q) (hno : e.tables.find? q.table = none) :
    Unbound e sql (.tableNotFound q.table)
  | listed (h : e.Reads sql q b) (hq : q.projection = .columns names) (hn : name ∈ names)
      (hno : b.schema.Lacks name) : Unbound e sql (.columnNotFound name)
  | compared (h : e.Reads sql q b) (hp : p ∈ q.selection) (hno : b.schema.Lacks p.column) :
    Unbound e sql (.columnNotFound p.column)

/-- A query that binds up to its `WHERE` clause. -/
def BindsResult (e : Engine) (sql : String) : Prop :=
  ∃ q b, e.Reads sql q b ∧ ∃ ps, q.projection.Picks b.schema ps

/-- A column of the `WHERE` clause is there, but cannot be compared with its constant. -/
def Incomparable (e : Engine) (sql : String) : Prop :=
  ∃ q b, e.Reads sql q b ∧ ∃ p ∈ q.selection, ¬ b.schema.Lacks p.column ∧ ¬ p.Comparable b.schema

variable {e : Engine} {sql : String} {q : SelectQuery} {b : Batch}

theorem Reads.unique (h : e.Reads sql q b) (h' : e.Reads sql q' b') : q' = q ∧ b' = b := by
  obtain rfl := Except.ok.inj (h'.query.symm.trans h.query)
  exact ⟨rfl, Option.some.inj (h'.table.symm.trans h.table)⟩

theorem prepare_eq_ok_iff : e.prepare sql = .ok p ↔
    e.Reads sql p.query p.table ∧ ∃ ps, p.query.projection.Picks p.table.schema ps := by
  constructor
  · intro h
    obtain ⟨q, hq, h⟩ := Except.bind_eq_ok_iff.1 h
    obtain ⟨b, hb, h⟩ := Except.bind_eq_ok_iff.1 h
    obtain ⟨schema, hs, h⟩ := Except.bind_eq_ok_iff.1 h
    obtain ⟨ps, hps, -⟩ := Except.bind_eq_ok_iff.1 hs
    cases h
    exact ⟨⟨hq, table_eq_ok_iff.1 hb⟩, ps, SelectQuery.positions_eq_ok_iff.1 hps⟩
  · rintro ⟨⟨hq, hb⟩, ps, hps⟩
    rw [prepare, hq, Except.ok_bind, table_eq_ok_iff.2 hb, Except.ok_bind, SelectQuery.outputSchema,
      SelectQuery.positions_eq_ok_iff.2 hps]
    rfl

theorem parseQuery_error (h : parseQuery sql = .error x) :
    ∃ y, SelectQuery.read sql = .error y ∧ x = .parse y.message := by
  rw [parseQuery] at h
  cases hr : SelectQuery.read sql with
  | error y =>
    rw [hr] at h
    exact ⟨y, rfl, (Except.error.inj h).symm⟩
  | ok q =>
    rw [hr] at h
    cases h

theorem table_error (h : e.table name = .error x) :
    e.tables.find? name = none ∧ x = .tableNotFound name := by
  rw [Engine.table] at h
  cases hb : e.tables.find? name with
  | none =>
    rw [hb] at h
    exact ⟨rfl, (Except.error.inj h).symm⟩
  | some b =>
    rw [hb] at h
    cases h

theorem positions_error (h : q.positions schema = .error x) :
    ∃ names name, q.projection = .columns names ∧ name ∈ names ∧ schema.Lacks name ∧
      x = .columnNotFound name := by
  rw [SelectQuery.positions] at h
  cases hp : q.projection with
  | all =>
    rw [hp] at h
    cases h
  | columns names =>
    rw [hp] at h
    obtain ⟨name, hn, hx⟩ := Except.exists_of_mapM_error h
    exact ⟨names, name, rfl, hn, columnIndex_eq_error_iff.1 hx⟩

/-- A query is not prepared for a reason that its error gives. -/
theorem unbound_of_prepare (h : e.prepare sql = .error x) : e.Unbound sql x := by
  rcases Except.bind_eq_error_iff.1 h with hq | ⟨q, hq, h⟩
  · obtain ⟨y, hy, rfl⟩ := parseQuery_error hq
    exact .unreadable hy
  · rcases Except.bind_eq_error_iff.1 h with hb | ⟨b, hb, h⟩
    · obtain ⟨hno, rfl⟩ := table_error hb
      exact .table hq hno
    · rcases Except.bind_eq_error_iff.1 h with hs | ⟨_, _, h⟩
      · rcases Except.bind_eq_error_iff.1 hs with hp | ⟨_, _, hs⟩
        · obtain ⟨names, name, hnames, hn, hno, rfl⟩ := positions_error hp
          exact .listed ⟨hq, table_eq_ok_iff.1 hb⟩ hnames hn hno
        · cases hs
      · cases h

/-- Of a query that was prepared only the `WHERE` clause can fail to bind. -/
theorem Unbound.compared_of_reads (h : e.Unbound sql x) (hr : e.Reads sql q b)
    (hp : q.projection.Picks b.schema ps) : ∃ p ∈ q.selection, b.schema.Lacks p.column := by
  cases h with
  | unreadable hx =>
    have hq := hr.query
    rw [parseQuery, hx] at hq
    cases hq
  | table hq hno =>
    obtain rfl := Except.ok.inj (hr.query.symm.trans hq)
    rw [hr.table] at hno
    cases hno
  | listed hr' hq hn hno =>
    obtain ⟨rfl, rfl⟩ := hr.unique hr'
    rw [hq] at hp
    cases hp with
    | columns hfound =>
      obtain ⟨i, hi⟩ := Except.exists_mapM_eq_ok_iff.1
        ⟨ps, Except.mapM_eq_ok_iff.2 (hfound.imp fun _ _ => columnIndex_eq_ok_iff.2)⟩ _ hn
      obtain ⟨f, hf⟩ := columnIndex_eq_ok_iff.1 hi
      exact absurd hno hf.not_lacks
  | compared hr' hp' hno =>
    obtain ⟨rfl, rfl⟩ := hr.unique hr'
    exact ⟨_, hp', hno⟩

/-- Without the columns of its `WHERE` clause a query cannot run. -/
theorem run_error (h : e.Unbound sql x) (hp : e.prepare sql = .ok p) :
    ∃ y, p.run = .error y ∧ (e.Unbound sql y ∨ e.Incomparable sql) := by
  obtain ⟨hr, ps, hps⟩ := prepare_eq_ok_iff.1 hp
  obtain ⟨c, hc, hno⟩ := h.compared_of_reads hr hps
  cases hts : p.query.tests p.table.schema with
  | ok ts =>
    obtain ⟨i, f, _, _, hf, -⟩ := SelectQuery.exists_tests_iff.1 ⟨ts, hts⟩ c hc
    exact absurd hno hf.not_lacks
  | error y =>
    refine ⟨y, ?_, ?_⟩
    · rw [Prepared.run, SelectQuery.execute, SelectQuery.select_eq, hts]
      rfl
    · obtain ⟨c', hc', hbind⟩ := Except.exists_of_mapM_error hts
      rcases Predicate.bind_error hbind with ⟨hno', rfl⟩ | ⟨hthere, hcompare⟩
      · exact .inl (.compared hr hc' hno')
      · exact .inr ⟨_, _, hr, c', hc', hthere, hcompare⟩

end Engine

namespace Cluster

variable {c : Cluster} {sql : String}

def withToken (c : Cluster) : Cluster := { c with tokens := ⟨c.tokens.issued + 1⟩ }

/-- A cluster at work after it took a token for a query and answered it with an error. -/
def refusing (l : Live) (x : QueryError) : Live :=
  { l with
    cluster := l.cluster.withToken, begun := l.begun + 1
    answers := l.answers ++ [(l.begun, .error (.engine x))] }

/-- A query fails at the coordinator: it takes one token, and no call is drawn up. The number of the
next operation is that of no draft. -/
structure FailsAlone (c : Cluster) (sql : String) (x : QueryError) : Prop where
  start : c.start (.query sql) = (c.withToken, .answered (.error (.engine x)))
  performs : ∀ d answer, c.Performs (.query sql) d answer →
    d = c.withToken ∧ answer = .error (.engine x)
  draft : ∀ l : Live, l.cluster = c → l.draft sql = refusing l x
  begun : ∀ l : Live, l.cluster = c → l.drafts.lookup l.begun = none →
    l.start (.query sql) = refusing l x

/-- A query goes out to all workers, though it cannot run at the coordinator. -/
structure FailsEverywhere (c : Cluster) (sql : String) : Prop where
  start : ∃ calls goal, c.start (.query sql) =
      ({ c with tokens := ⟨c.tokens.issued + 1 + c.workers.length⟩ }, .waiting calls goal) ∧
    ∀ p ∈ c.workerIds, ∃ t : CorrelationToken,
      ⟨p, .ask none (.runQuery t t.messageId sql)⟩ ∈ calls
  performs : ∀ d answer, c.Performs (.query sql) d answer →
    ∃ failures y, answer = .error (.barrierFailed "sql" failures) ∧
      ⟨.coordinator, .rejected (ClusterError.engine y).message⟩ ∈ failures ∧
      (c.own.Unbound sql y ∨ c.own.Incomparable sql)

theorem draft_of_ready (hr : c.phase = .ready) (sql : String) :
    c.draft sql = (c.withToken, (lift (c.own.prepare sql)).map (⟨sql, ·, []⟩)) := by
  have hready : c.ready "sql" = .ok () := if_pos hr
  rw [draft, hready]
  rfl

theorem failsAlone (hr : c.phase = .ready) (hx : c.own.prepare sql = .error x) :
    c.FailsAlone sql x := by
  have hdraft : c.draft sql = (c.withToken, .error (.engine x)) := by
    rw [draft_of_ready hr, hx]
    rfl
  have hstart : c.start (.query sql) = (c.withToken, .answered (.error (.engine x))) := by
    rw [start, beginQuery, hdraft]
  have hlive : ∀ l : Live, l.cluster = c → l.draft sql = refusing l x := by
    rintro l rfl
    rw [Live.draft, hdraft]
    rfl
  refine ⟨hstart, fun d answer hop => hop.answered_eq hstart, hlive, fun l hl hno => ?_⟩
  have hissue : (refusing l x).issue l.begun = refusing l x := by
    rw [Live.issue]
    simp only [refusing, hno]
  simp only [Live.start, hlive l hl]
  induction List.range (l.cluster.workers.length + 1) with
  | nil => rfl
  | cons _ _ ih => rwa [List.foldl_cons, hissue]

/-- What the coordinator makes of a query is among the ends of its calls. -/
theorem mem_ended_of_own {turns : List Call} (h : ⟨p, .own result⟩ ∈ turns) (c : Cluster) :
    (p, (lift (result.map .rows)).mapError .ofError) ∈ (c.attendAll turns).2 := by
  induction turns generalizing c with
  | nil => cases h
  | cons call turns ih =>
    rw [attendAll]
    cases h with
    | head => exact List.mem_cons_self ..
    | tail _ h => exact List.mem_cons_of_mem _ (ih h _)

theorem mem_failures {ended : List (ParticipantId × Except FailureKind Answer)}
    (h : (p, .error kind) ∈ ended) : ⟨p, kind⟩ ∈ (Outcome.ofEnded ended).failures := by
  rw [Outcome.ofEnded, List.mem_mergeSort]
  exact List.mem_filterMap.2 ⟨_, h, rfl⟩

/-- Each worker is asked under a token of its own. -/
theorem mem_dispatch (c : Cluster) (d : Draft) (hlen : d.tokens.length = c.workers.length)
    (hp : p ∈ c.workerIds) : ∃ t : CorrelationToken,
      ⟨p, .ask none (.runQuery t t.messageId d.sql)⟩ ∈ (c.dispatch d).1 := by
  obtain ⟨i, hi, rfl⟩ := List.getElem_of_mem hp
  have hi' : i < d.tokens.length := by
    rwa [hlen, ← List.length_range (n := c.workers.length), ← List.length_map]
  refine ⟨d.tokens[i], List.mem_cons_of_mem _ (List.mem_iff_getElem?.2 ⟨i, ?_⟩)⟩
  rw [callEach, List.getElem?_zipWith, List.getElem?_eq_getElem hi, List.getElem?_eq_getElem hi']

theorem failsEverywhere (hr : c.phase = .ready) (hu : c.own.Unbound sql x)
    (hp : c.own.prepare sql = .ok p) : c.FailsEverywhere sql := by
  have hdraft : c.draft sql = (c.withToken, .ok ⟨sql, p, []⟩) := by
    rw [draft_of_ready hr, hp]
    rfl
  obtain ⟨y, hy, hwhy⟩ := Engine.run_error hu hp
  set c' : Cluster := { c with tokens := ⟨c.tokens.issued + 1 + c.workers.length⟩ }
  set d : Draft := ⟨sql, p, c.withToken.issue.1⟩
  have hstart : c.start (.query sql) =
      (c', .waiting (c'.dispatch d).1 (c'.dispatch d).2) := by
    rw [start, beginQuery, hdraft]
    rfl
  refine ⟨⟨_, _, hstart, fun q hq => ?_⟩, fun e answer hop => ?_⟩
  · exact mem_dispatch c' d (by simp [d, issue_eq, withToken, c']) hq
  · obtain ⟨turns, m, ended, m', concluded, undos, hturns, ha, hc, -, -, rfl⟩ :=
      hop.waiting_eq hstart
    have hown : ⟨.coordinator, .own p.run⟩ ∈ turns := hturns.mem_iff.2 (List.mem_cons_self ..)
    have hended := mem_ended_of_own hown c'
    rw [ha, hy] at hended
    have hfailure := mem_failures hended
    have hincomplete : ¬ (Outcome.ofEnded ended).isComplete = true := by
      intro hcomplete
      rw [Outcome.isComplete, List.isEmpty_iff] at hcomplete
      rw [hcomplete] at hfailure
      cases hfailure
    refine ⟨(Outcome.ofEnded ended).failures, y, ?_, hfailure, hwhy⟩
    cases hc
    show (Outcome.ofEnded ended).result "sql" >>= combine = _
    rw [Outcome.result_of_incomplete hincomplete]
    rfl

/-- Of the queries that do not bind, exactly those whose `WHERE` clause alone does not bind are sent
out; all others fail at the coordinator. -/
theorem unbound_queries (hr : c.phase = .ready) (hu : c.own.Unbound sql x) :
    (¬ c.own.BindsResult sql → ∃ y, c.own.Unbound sql y ∧ c.FailsAlone sql y) ∧
      (c.own.BindsResult sql → c.FailsEverywhere sql) := by
  constructor
  · intro hno
    cases hp : c.own.prepare sql with
    | ok p =>
      obtain ⟨hreads, hpicks⟩ := Engine.prepare_eq_ok_iff.1 hp
      exact absurd ⟨_, _, hreads, hpicks⟩ hno
    | error y => exact ⟨y, Engine.unbound_of_prepare hp, failsAlone hr hp⟩
  · rintro ⟨q, b, hreads, hpicks⟩
    exact failsEverywhere hr hu (Engine.prepare_eq_ok_iff (p := ⟨q, b⟩).2 ⟨hreads, hpicks⟩)

theorem lacks_counted : counted.schema.Lacks "x" := by
  intro f hf
  cases List.mem_singleton.1 hf
  decide

/-- With an unknown column in its list a query stays at the coordinator, and in its `WHERE` clause it
does not. -/
theorem unbound_queries_counted : ∃ c : Cluster, c.phase = .ready ∧
    (∃ y, c.own.Unbound "SELECT x FROM t" y ∧ c.FailsAlone "SELECT x FROM t" y) ∧
    c.own.Unbound "SELECT n FROM t WHERE x = 1" (.columnNotFound "x") ∧
    c.FailsEverywhere "SELECT n FROM t WHERE x = 1" := by
  obtain ⟨c, hr, htable⟩ : ∃ c : Cluster, c.phase = .ready ∧
      c.own.tables.find? "t" = some counted := by
    obtain ⟨c, hrun⟩ := exists_run
    obtain ⟨hc, -⟩ := hosts_of_run hrun
    exact ⟨{ c with own := c.own.withTable "t" counted }, hc.ready, Engine.find?_withTable ..⟩
  have hlisted : c.own.Reads "SELECT x FROM t" ⟨.columns ["x"], "t", [], none⟩ counted :=
    ⟨by decide +kernel, htable⟩
  have hcompared : c.own.Reads "SELECT n FROM t WHERE x = 1"
      ⟨.columns ["n"], "t", [⟨"x", .eq, .integer 1⟩], none⟩ counted := ⟨by decide +kernel, htable⟩
  have hunbound := Engine.Unbound.compared hcompared (List.mem_singleton_self _) lacks_counted
  refine ⟨c, hr, ?_, hunbound, ?_⟩
  · apply (unbound_queries hr
      (.listed hlisted rfl (List.mem_singleton_self _) lacks_counted)).1
    rintro ⟨q, b, hreads, ps, hps⟩
    obtain ⟨rfl, rfl⟩ := hlisted.unique hreads
    cases hps with
    | columns hfound =>
      cases hfound with
      | cons hx _ =>
        obtain ⟨f, hf⟩ := hx
        exact hf.not_lacks lacks_counted
  · apply (unbound_queries hr hunbound).2
    exact ⟨_, _, hcompared, [0], .columns (.cons (columnIndex_eq_ok_iff.1 rfl) .nil)⟩

end Cluster

end ShardQuery
