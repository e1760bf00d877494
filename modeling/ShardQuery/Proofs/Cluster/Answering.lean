import ShardQuery.Cluster.Worker
import ShardQuery.Proofs.Except
import ShardQuery.Proofs.Wire.RoundTrip

namespace ShardQuery

namespace Json

theorem exists_of_natBelow? {v : Json} (h : v.natBelow? bound = some n) :
    v = .ofNat n ∧ n < bound := by
  cases v with
  | int i =>
    rw [natBelow?] at h
    split at h
    · next hi =>
      cases h
      rw [ofNat, Int.toNat_of_nonneg hi.1]
      exact ⟨rfl, by omega⟩
    · cases h
  | _ => cases h

end Json

namespace Frame

/-- An object with one field for the number, which is eight bytes wide. -/
def Carries (frame : String) (n : Nat) : Prop :=
  n < UInt64.size ∧ ∃ members, Json.read? frame = some (.object members) ∧
    Json.field? members "seq" = some (some (.ofNat n))

theorem Carries.exists_parts (h : Carries frame n) : ∃ body, parts? frame = some ⟨n, body⟩ := by
  obtain ⟨hn, members, hr, hf⟩ := h
  have hb : parts? frame = some ⟨n, (Json.object (members.filter (·.1 ≠ "seq"))).lastWins⟩ := by
    apply Json.bind_eq_of hr
    apply Json.bind_eq_of hf
    apply Json.bind_eq_of rfl
    exact Json.bind_eq_of (Json.word?_ofNat hn) rfl
  exact ⟨_, hb⟩

theorem carries_of_parts (h : parts? frame = some p) : Carries frame p.seq := by
  obtain ⟨v, hr, h⟩ := Option.bind_eq_some_iff.1 h
  cases v with
  | object members =>
    obtain ⟨o, hf, h⟩ := Option.bind_eq_some_iff.1 h
    obtain ⟨v, hv, h⟩ := Option.bind_eq_some_iff.1 h
    obtain ⟨n, hn, h⟩ := Option.bind_eq_some_iff.1 h
    cases h
    obtain ⟨rfl, hlt⟩ := Json.exists_of_natBelow? hn
    rw [hv] at hf
    exact ⟨hlt, members, hr, hf⟩
  | _ => cases h

variable {ofFields? : String → Json → Option α}

theorem Carries.exists_read (h : Carries frame n) : ∃ m, read ofFields? frame = .ok (n, m) := by
  obtain ⟨body, hp⟩ := h.exists_parts
  rw [read, hp]
  exact ⟨_, rfl⟩

theorem carries_of_read (h : read ofFields? frame = .ok (n, m)) : Carries frame n := by
  rw [read] at h
  split at h
  · cases h
  · next hp =>
    cases h
    exact carries_of_parts hp

theorem exists_read_error_iff :
    (∃ e, read ofFields? frame = .error e) ↔ ¬ ∃ n, Carries frame n := by
  constructor
  · rintro ⟨e, he⟩ ⟨n, hn⟩
    obtain ⟨m, hm⟩ : ∃ m, read ofFields? frame = .ok (n, m) := hn.exists_read
    rw [he] at hm
    cases hm
  · intro hno
    cases h : read ofFields? frame with
    | error e => exact ⟨e, rfl⟩
    | ok p => exact absurd ⟨p.1, carries_of_read h⟩ hno

theorem message_of_read (h : read ofFields? frame = .ok (n, .ok m)) :
    ∃ operation body, ofFields? operation body = some m := by
  rw [read] at h
  split at h
  · cases h
  · simp only [Except.ok.injEq, Prod.mk.injEq] at h
    obtain ⟨-, h⟩ := h
    split at h
    · cases h
    · split at h
      · next hm =>
        cases h
        exact ⟨_, _, hm⟩
      · cases h

end Frame

namespace Json.Fields

theorem exists_of_required {fs : Fields} {f : Json → Option α} (h : fs.required i f = some a) :
    ∃ v, f v = some a := by
  rw [required] at h
  split at h
  · exact ⟨_, h⟩
  · cases h

end Json.Fields

namespace Request

/-- The reply to a request that was read can be written: its token is eight bytes wide. -/
theorem fits_success (h : ofFields? kind body = some r) : r.success.Fits := by
  cases r with
  | runQuery token id query =>
    have hf : ∃ v, CorrelationToken.ofJson? v = some token := by
      unfold ofFields? at h
      repeat' split at h
      all_goals simp [Option.bind_eq_some_iff] at h
      obtain ⟨fs, -, ht, -⟩ := h
      exact Json.Fields.exists_of_required ht
    obtain ⟨v, hv⟩ := hf
    obtain ⟨n, hn, rfl⟩ := Option.map_eq_some_iff.1 hv
    exact (Json.exists_of_natBelow? hn).2
  | _ => trivial

end Request

namespace Reply

theorem read_write {r : Reply} (hn : n < UInt64.size) (h : r.Fits) :
    read (r.write n) = .ok (n, .ok r) :=
  Frame.read_write hn r.nodup_fields (plain_fields h) (ofFields?_fields h)

end Reply

namespace Worker

/-- Nothing is wrong with a worker, nor with its engine if it has one. -/
structure IsSound (w : Worker) : Prop where
  conducts : w.conducts = []
  engine : ∀ e ∈ w.engine, e.conduct = .sound

theorem isSound_fresh : (fresh []).IsSound := ⟨rfl, fun _ h => nomatch h⟩

/-- Why a sound worker refuses a request. -/
inductive Refuses (files : FileStore) (net : Interconnect) (w : Worker) :
    Request → QueryError → Prop where
  | occupied (hw : w.engine = some e) :
      Refuses files net w (.createContext self members)
        (.execution ("Context already created as " ++ e.self.shown))
  | unstarted (hw : w.engine = none) (h : Engine.start self members .sound net = .error x) :
      Refuses files net w (.createContext self members) x
  | idle (hw : w.engine = none) (hr : ∀ self members, r ≠ .createContext self members) :
      Refuses files net w r
        (.execution "No execution context: createBlazingContext has not been received")
  | missing {id : MessageId} (hw : w.engine = some e) (h : e.pull net id = .error x) :
      Refuses files net w (.createTable name id) x
  | unloaded (hw : w.engine = some e) (h : slice.load files = .error x) :
      Refuses files net w (.createFromSource slice) x
  | undropped (hw : w.engine = some e) (h : e.drop name = .error x) :
      Refuses files net w (.dropTable name) x
  | unprepared {id : MessageId} (hw : w.engine = some e) (h : e.prepare sql = .error x) :
      Refuses files net w (.runQuery token id sql) x
  | failing {id : MessageId} (hw : w.engine = some e) (hp : e.prepare sql = .ok prepared)
      (h : prepared.run = .error x) : Refuses files net w (.runQuery token id sql) x
  | unsent {id : MessageId} (hw : w.engine = some e) (hp : e.prepare sql = .ok prepared)
      (hr : prepared.run = .ok batch) (h : e.send net .coordinator token id batch = .error x) :
      Refuses files net w (.runQuery token id sql) x

/-- All that a sound worker can do about a request. -/
inductive Does (files : FileStore) (net : Interconnect) (w : Worker) :
    Request → Worker → Interconnect → Reply → Prop where
  | refused (h : Refuses files net w r x) : Does files net w r w net (refusal x)
  | started (hw : w.engine = none) (h : Engine.start self members .sound net = .ok (e, net')) :
      Does files net w (.createContext self members) (w.withEngine e) net' .contextCreated
  | stored {id : MessageId} (hw : w.engine = some e) (h : e.pull net id = .ok (batch, net')) :
      Does files net w (.createTable name id) (w.withEngine (e.withTable name batch)) net'
        .tableCreated
  | loaded (hw : w.engine = some e) (h : slice.load files = .ok batch) :
      Does files net w (.createFromSource slice)
        (w.withEngine (e.withTable slice.table.name batch)) net .tableCreated
  | dropped (hw : w.engine = some e) (h : e.drop name = .ok e') :
      Does files net w (.dropTable name) (w.withEngine e') net .tableDropped
  | ran {id : MessageId} (hw : w.engine = some e) (hp : e.prepare sql = .ok prepared)
      (hr : prepared.run = .ok batch) (h : e.send net .coordinator token id batch = .ok net') :
      Does files net w (.runQuery token id sql) w net' (.queryRan token id)

/-- All that a sound worker can do about a frame. -/
inductive Deals (files : FileStore) (net : Interconnect) (w : Worker) (frame : String) :
    Worker → Interconnect → Option String → Prop where
  | silent (h : Request.read frame = .error e) : Deals files net w frame w net none
  | unknown (h : Request.read frame = .ok (n, .error e)) (reason : String) :
      Deals files net w frame w net (some ((Reply.failed reason).write n))
  | does (h : Request.read frame = .ok (n, .ok r)) (hd : Does files net w r w' net' reply) :
      Deals files net w frame w' net' (some (reply.write n))

variable {files : FileStore} {net net' : Interconnect} {w w' : Worker} {r : Request} {reply : Reply}

theorem start_eq_ok (h : Engine.start self members conduct net = .ok (e, net')) :
    e = ⟨self, members, conduct, .empty⟩ := by
  rw [Engine.start] at h
  split at h
  · cases h
  · obtain ⟨a, -, h⟩ := Except.bind_eq_ok_iff.1 h
    obtain ⟨m, -, h⟩ := Except.bind_eq_ok_iff.1 h
    cases h
    rfl

theorem handle_of_error (h : w.begin? files net r = .error x) :
    w.handle files net r = (w, net, some (refusal x)) := by
  rw [handle, start_of_error h]

theorem handle_of_replied (h : w.begin? files net r = .ok (w', net', .replied reply)) :
    w.handle files net r = (w', net', some reply) := by
  rw [handle, start, h]

theorem IsSound.create_eq (hw : w.IsSound) (he : w.engine = some e) (name : String)
    (batch : Batch) : e.create name batch = .ok (e.withTable name batch) := by
  rw [Engine.create, hw.engine e he]
  rfl

theorem IsSound.createFromSource_eq (hw : w.IsSound) (he : w.engine = some e) (files : FileStore)
    (slice : Slice) : e.createFromSource files slice =
      (slice.load files).map fun batch => e.withTable slice.table.name batch := by
  rw [Engine.createFromSource, hw.engine e he]
  rfl

/-- Without an engine, all that a worker can do is to start one. -/
theorem handle_of_idle (hw : w.IsSound) (he : w.engine = none) (files : FileStore)
    (net : Interconnect) (r : Request) :
    ∃ w' net' reply, w.handle files net r = (w', net', some reply) ∧
      Does files net w r w' net' reply := by
  have hc : w.context = .error
      (.execution "No execution context: createBlazingContext has not been received") := by
    rw [context, he]
  cases r with
  | createContext self members =>
    have hb : w.begin? files net (.createContext self members) =
        Engine.start self members .sound net >>= fun next =>
          .ok (w.withEngine next.1, next.2, .replied .contextCreated) := by
      simp only [begin?, he, hw.conducts]
      rfl
    cases hs : Engine.start self members .sound net with
    | error x =>
      rw [hs, Except.error_bind] at hb
      exact ⟨w, net, _, handle_of_error hb, .refused (.unstarted he hs)⟩
    | ok next =>
      rw [hs, Except.ok_bind] at hb
      exact ⟨_, _, _, handle_of_replied hb, .started he hs⟩
  | _ =>
    refine ⟨w, net, _, handle_of_error ?_, .refused (.idle he ?_)⟩
    · simp only [begin?, hc, Except.error_bind]
    · intro self members h
      cases h

/-- A query is refused at the first of its three parts that fails, or its result is delivered. -/
theorem handle_runQuery (hw : w.IsSound) (he : w.engine = some e) (files : FileStore)
    (net : Interconnect) (token : CorrelationToken) (id : MessageId) (sql : String) :
    ∃ w' net' reply, w.handle files net (.runQuery token id sql) = (w', net', some reply) ∧
      Does files net w (.runQuery token id sql) w' net' reply := by
  have hc : w.context = .ok e := by
    rw [context, he]
  cases hp : e.prepare sql with
  | error x =>
    refine ⟨w, net, _, handle_of_error ?_, .refused (.unprepared he hp)⟩
    simp only [begin?, hc, Except.ok_bind, hp, Except.error_bind]
  | ok prepared =>
    cases hr : prepared.run with
    | error x =>
      refine ⟨w, net, _, handle_of_error ?_, .refused (.failing he hp hr)⟩
      simp only [begin?, hc, Except.ok_bind, hp, hr, Except.error_bind]
    | ok batch =>
      have hb : w.begin? files net (.runQuery token id sql) =
          .ok (w, net, .delivering token id batch) := by
        simp only [begin?, hc, Except.ok_bind, hp, hr]
      have hd : w.handle files net (.runQuery token id sql) =
          (w, (w.deliver net token id batch).1, some (w.deliver net token id batch).2) := by
        rw [handle, start, hb]
      rw [hd, deliver, hc]
      simp only [Engine.deliver, hw.engine e he]
      cases hs : e.send net .coordinator token id batch with
      | error x => exact ⟨w, net, _, rfl, .refused (.unsent he hp hr hs)⟩
      | ok m => exact ⟨w, m, _, rfl, .ran he hp hr hs⟩

theorem handle_of_engine (hw : w.IsSound) (he : w.engine = some e) (files : FileStore)
    (net : Interconnect) (r : Request) :
    ∃ w' net' reply, w.handle files net r = (w', net', some reply) ∧
      Does files net w r w' net' reply := by
  have hc : w.context = .ok e := by
    rw [context, he]
  cases r with
  | createContext self members =>
    refine ⟨w, net, _, handle_of_error ?_, .refused (.occupied he)⟩
    simp only [begin?, he]
  | createTable name id =>
    cases hp : e.pull net id with
    | error x =>
      refine ⟨w, net, _, handle_of_error ?_, .refused (.missing he hp)⟩
      simp only [begin?, hc, Except.ok_bind, hp, Except.error_bind]
    | ok next =>
      refine ⟨_, _, _, handle_of_replied ?_, .stored he hp⟩
      simp only [begin?, hc, Except.ok_bind, hp, hw.create_eq he]
  | createFromSource slice =>
    cases hl : slice.load files with
    | error x =>
      refine ⟨w, net, _, handle_of_error ?_, .refused (.unloaded he hl)⟩
      simp only [begin?, hc, Except.ok_bind, hw.createFromSource_eq he, hl]
      rfl
    | ok batch =>
      refine ⟨_, _, _, handle_of_replied ?_, .loaded he hl⟩
      simp only [begin?, hc, Except.ok_bind, hw.createFromSource_eq he, hl]
      rfl
  | dropTable name =>
    cases hd : e.drop name with
    | error x =>
      refine ⟨w, net, _, handle_of_error ?_, .refused (.undropped he hd)⟩
      simp only [begin?, hc, Except.ok_bind, hw.engine e he, hd]
      rfl
    | ok e' =>
      refine ⟨_, _, _, handle_of_replied ?_, .dropped he hd⟩
      simp only [begin?, hc, Except.ok_bind, hw.engine e he, hd]
      rfl
  | runQuery token id sql => exact handle_runQuery hw he files net token id sql

theorem handle_spec (hw : w.IsSound) (files : FileStore) (net : Interconnect) (r : Request) :
    ∃ w' net' reply, w.handle files net r = (w', net', some reply) ∧
      Does files net w r w' net' reply := by
  cases he : w.engine with
  | none => exact handle_of_idle hw he files net r
  | some e => exact handle_of_engine hw he files net r

namespace Does

variable (h : Does files net w r w' net' reply)

include h

theorem unchanged (hf : reply = .failed reason) : w' = w ∧ net' = net := by
  cases h with
  | refused x => exact ⟨rfl, rfl⟩
  | _ => cases hf

theorem reply_eq : reply = r.success ∨ ∃ reason, reply = .failed reason := by
  cases h with
  | refused x => exact .inr ⟨_, rfl⟩
  | _ => exact .inl rfl

theorem fits (hr : r.success.Fits) : reply.Fits := by
  obtain rfl | ⟨reason, rfl⟩ := h.reply_eq
  · exact hr
  · trivial

/-- Without an engine nothing can be done but to start one. -/
theorem idle (hw : w.engine = none) :
    (∃ reason, reply = .failed reason) ∨ ∃ self members e,
      r = .createContext self members ∧ reply = .contextCreated ∧ w' = w.withEngine e ∧
      Engine.start self members .sound net = .ok (e, net') := by
  cases h with
  | refused x => exact .inl ⟨_, rfl⟩
  | started _ hs => exact .inr ⟨_, _, _, rfl, rfl, rfl, hs⟩
  | stored he _ | loaded he _ | dropped he _ | ran he _ _ _ =>
    rw [hw] at he
    cases he

/-- An engine stays the engine of its worker, whose tables alone may change. -/
theorem engine_eq (hw : w.engine = some e) :
    reply ≠ .contextCreated ∧ ∃ tables, w'.engine = some { e with tables } := by
  cases h with
  | refused x => exact ⟨nofun, e.tables, hw⟩
  | started he _ =>
    rw [hw] at he
    cases he
  | stored he _ | loaded he _ =>
    rw [hw] at he
    cases he
    exact ⟨nofun, _, rfl⟩
  | dropped he hd =>
    rw [hw] at he
    cases he
    rw [Engine.drop] at hd
    split at hd
    · cases hd
      exact ⟨nofun, _, rfl⟩
    · cases hd
  | ran he _ _ _ => exact ⟨nofun, e.tables, hw⟩

omit h in
theorem started_inv
    (h : Does files net w (.createContext self members) w' net' .contextCreated) :
    w.engine = none ∧ ∃ e, Engine.start self members .sound net = .ok (e, net') ∧
      w' = w.withEngine e := by
  generalize hr : Reply.contextCreated = reply at h
  cases h with
  | refused _ => cases hr
  | started hw hs => exact ⟨hw, _, hs, rfl⟩

omit h in
theorem starts (h : Does files net w (.createContext self members) w' net' reply)
    (hw : w.engine = none) (hs : Engine.start self members .sound net = .ok next) :
    reply = .contextCreated := by
  cases h with
  | started _ _ => rfl
  | refused hr =>
    cases hr with
    | occupied he =>
      rw [hw] at he
      cases he
    | unstarted _ hx =>
      rw [hs] at hx
      cases hx
    | idle _ hr => exact absurd rfl (hr self members)

theorem isSound (hw : w.IsSound) : w'.IsSound := by
  have hc : w'.conducts = [] := by
    cases h <;> exact hw.conducts
  cases he : w.engine with
  | none =>
    cases h with
    | refused x => exact hw
    | started _ hs =>
      refine ⟨hc, ?_⟩
      rintro e ⟨⟩
      exact (start_eq_ok hs) ▸ rfl
    | stored he' _ | loaded he' _ | dropped he' _ | ran he' _ _ _ =>
      rw [he] at he'
      cases he'
  | some e =>
    obtain ⟨-, tables, ht⟩ := h.engine_eq he
    refine ⟨hc, ?_⟩
    intro e' he'
    rw [ht] at he'
    cases he'
    exact hw.engine e he

end Does

end Worker

/-- What comes to a worker: a frame, and the files and caches as they then are. -/
structure Delivery where
  files : FileStore
  net : Interconnect
  frame : String

structure Exchange where
  given : Delivery
  before : Worker
  after : Worker
  net : Interconnect
  answer : Option String

namespace Worker

def exchange (w : Worker) (d : Delivery) : Exchange :=
  let (after, net, answer) := w.handleFrame d.files d.net d.frame
  ⟨d, w, after, net, answer⟩

/-- The frames that a worker deals with one after another. -/
def serve (w : Worker) : List Delivery → List Exchange
  | [] => []
  | d :: ds => w.exchange d :: (w.exchange d).after.serve ds

end Worker

namespace Exchange

/-- The answer is this reply under this number. -/
def Says (x : Exchange) (n : Nat) (reply : Reply) : Prop :=
  ∃ text, x.answer = some text ∧ Reply.read text = .ok (n, .ok reply)

/-- The frame asks for an engine, and the answer is that there is one now. -/
def Starts (x : Exchange) (self : ParticipantId) (members : Membership) : Prop :=
  ∃ n, Request.read x.given.frame = .ok (n, .ok (.createContext self members)) ∧
    x.Says n .contextCreated

/-- A frame is answered once and under its own number, if it has one. -/
structure Answered (x : Exchange) : Prop where
  unreadable : (∃ e, Request.read x.given.frame = .error e) ↔
    ¬ ∃ n, Frame.Carries x.given.frame n
  silent : x.answer = none ↔ ∃ e, Request.read x.given.frame = .error e
  reply : ∀ n, Frame.Carries x.given.frame n → ∃ reply, x.Says n reply
  unchanged : ∀ n reason, x.Says n (.failed reason) → x.after = x.before ∧ x.net = x.given.net

theorem Says.unique {x : Exchange} (h : x.Says n reply) (h' : x.Says m reply') :
    m = n ∧ reply' = reply := by
  obtain ⟨text, ha, hr⟩ := h
  obtain ⟨text', ha', hr'⟩ := h'
  cases ha.symm.trans ha'
  cases hr.symm.trans hr'
  exact ⟨rfl, rfl⟩

/-- The worker was sound as it dealt with the frame. -/
structure IsSound (x : Exchange) : Prop where
  worker : x.before.IsSound
  deals : Worker.Deals x.given.files x.given.net x.before x.given.frame x.after x.net x.answer

end Exchange

theorem Worker.IsSound.exchange {w : Worker} (hw : w.IsSound) (d : Delivery) :
    (w.exchange d).IsSound := by
  refine ⟨hw, ?_⟩
  cases h : Request.read d.frame with
  | error e =>
    simp only [Worker.exchange, handleFrame, h]
    exact .silent h
  | ok m =>
    obtain ⟨n, e | r⟩ := m
    · simp only [Worker.exchange, handleFrame, h]
      exact .unknown h _
    · obtain ⟨w', net', reply, hr, hd⟩ := handle_spec hw d.files d.net r
      simp only [Worker.exchange, handleFrame, h, hr]
      exact .does h hd

namespace Exchange.IsSound

variable {x : Exchange} (h : x.IsSound)

include h

/-- A frame is left alone, or its message is refused, or the worker does something about it. -/
theorem spec :
    (x.answer = none ∧ x.after = x.before ∧ x.net = x.given.net ∧
      ∃ e, Request.read x.given.frame = .error e) ∨
    (∃ n e reason, Request.read x.given.frame = .ok (n, .error e) ∧
      x.Says n (.failed reason) ∧ x.after = x.before ∧ x.net = x.given.net) ∨
    ∃ n r reply, Request.read x.given.frame = .ok (n, .ok r) ∧ x.Says n reply ∧
      Worker.Does x.given.files x.given.net x.before r x.after x.net reply := by
  obtain ⟨d, w, w', net', answer⟩ := x
  have hd : Worker.Deals d.files d.net w d.frame w' net' answer := h.deals
  cases hd with
  | silent hr => exact .inl ⟨rfl, rfl, rfl, _, hr⟩
  | unknown hr reason =>
    have hn := (Frame.carries_of_read hr).1
    exact .inr (.inl ⟨_, _, reason, hr, ⟨_, rfl, Reply.read_write hn trivial⟩, rfl, rfl⟩)
  | does hr hd =>
    obtain ⟨kind, body, hb⟩ := Frame.message_of_read hr
    have hn := (Frame.carries_of_read hr).1
    have hf := hd.fits (Request.fits_success hb)
    exact .inr (.inr ⟨_, _, _, hr, ⟨_, rfl, Reply.read_write hn hf⟩, hd⟩)

theorem does (hr : Request.read x.given.frame = .ok (n, .ok r)) (hs : x.Says m reply) :
    Worker.Does x.given.files x.given.net x.before r x.after x.net reply := by
  obtain ⟨-, -, -, e, he⟩ | ⟨k, e, reason, he, -⟩ | ⟨k, r', reply', he, hs', hd⟩ := h.spec
  · rw [he] at hr
    cases hr
  · rw [he] at hr
    cases hr
  · rw [he] at hr
    cases hr
    rw [(hs'.unique hs).2]
    exact hd

theorem answered : x.Answered where
  unreadable := Frame.exists_read_error_iff
  silent := by
    obtain ⟨ha, -, -, he⟩ | ⟨n, e, reason, hr, ⟨text, ha, -⟩, -⟩ | ⟨n, r, reply, hr, ⟨text, ha, -⟩, -⟩ :=
      h.spec
    · exact ⟨fun _ => he, fun _ => ha⟩
    · simp [ha, hr]
    · simp [ha, hr]
  reply n hn := by
    obtain ⟨m, hm⟩ : ∃ m, Request.read x.given.frame = .ok (n, m) := hn.exists_read
    obtain ⟨-, -, -, e, he⟩ | ⟨k, e, reason, he, hs, -⟩ | ⟨k, r, reply, he, hs, -⟩ := h.spec
    all_goals
      rw [he] at hm
      cases hm
    · exact ⟨_, hs⟩
    · exact ⟨reply, hs⟩
  unchanged n reason hs := by
    obtain ⟨-, hw, hn, -⟩ | ⟨-, -, -, -, -, hw, hn⟩ | ⟨k, r, reply, -, hs', hd⟩ := h.spec
    · exact ⟨hw, hn⟩
    · exact ⟨hw, hn⟩
    · exact hd.unchanged (hs'.unique hs).2.symm

theorem after : x.after.IsSound := by
  obtain ⟨-, hw, -⟩ | ⟨-, -, -, -, -, hw, -⟩ | ⟨n, r, reply, -, -, hd⟩ := h.spec
  · rw [hw]
    exact h.worker
  · rw [hw]
    exact h.worker
  · exact hd.isSound h.worker

/-- There is no engine but one that is started, and nothing else is done without one. -/
theorem idle (he : x.before.engine = none) (hs : ∀ self members, ¬ x.Starts self members) :
    x.after.engine = none ∧
    ∀ n, Frame.Carries x.given.frame n → ∃ reason, x.Says n (.failed reason) := by
  have hfail : ∀ n reply, x.Says n reply → ∃ reason, reply = .failed reason := by
    intro n reply hn
    obtain ⟨ha, -⟩ | ⟨k, e, reason, -, hf, -⟩ | ⟨k, r, reply', hr, hn', hd⟩ := h.spec
    · obtain ⟨text, ht, -⟩ := hn
      rw [ha] at ht
      cases ht
    · exact ⟨reason, (hf.unique hn).2⟩
    · rw [(hn'.unique hn).2]
      obtain hf | ⟨self, members, e, rfl, rfl, -⟩ := hd.idle he
      · exact hf
      · exact absurd ⟨k, hr, hn'⟩ (hs self members)
  have hreply : ∀ n, Frame.Carries x.given.frame n → ∃ reason, x.Says n (.failed reason) := by
    intro n hn
    obtain ⟨reply, hr⟩ := h.answered.reply n hn
    obtain ⟨reason, rfl⟩ := hfail n reply hr
    exact ⟨reason, hr⟩
  refine ⟨?_, hreply⟩
  obtain ⟨-, hw, -⟩ | ⟨-, -, -, -, -, hw, -⟩ | ⟨n, r, reply, -, hn, hd⟩ := h.spec
  · rw [hw, he]
  · rw [hw, he]
  · obtain ⟨reason, rfl⟩ := hfail n reply hn
    rw [(hd.unchanged rfl).1, he]

/-- An engine that is started is new, and there was none before. -/
theorem starts (hs : x.Starts self members) :
    x.before.engine = none ∧ x.after.engine = some ⟨self, members, .sound, .empty⟩ := by
  obtain ⟨n, hr, hn⟩ := hs
  obtain ⟨he, e, hs, hw⟩ := (h.does hr hn).started_inv
  rw [hw, ← Worker.start_eq_ok hs]
  exact ⟨he, rfl⟩

/-- A worker without an engine starts one whenever one can be started. -/
theorem starts_iff (he : x.before.engine = none)
    (hr : Request.read x.given.frame = .ok (n, .ok (.createContext self members))) :
    x.Starts self members ↔ ∃ next, Engine.start self members .sound x.given.net = .ok next := by
  constructor
  · rintro ⟨m, hm, hn⟩
    obtain ⟨-, e, hs, -⟩ := (h.does hm hn).started_inv
    exact ⟨_, hs⟩
  · rintro ⟨next, hs⟩
    obtain ⟨reply, hn⟩ := h.answered.reply n (Frame.carries_of_read hr)
    refine ⟨n, hr, ?_⟩
    rw [← (h.does hr hn).starts he hs]
    exact hn

/-- An engine is neither removed nor replaced. -/
theorem keeps (he : x.before.engine = some ⟨self, members, .sound, tables⟩) :
    (∀ other others, ¬ x.Starts other others) ∧
    ∃ tables, x.after.engine = some ⟨self, members, .sound, tables⟩ := by
  constructor
  · intro other others hs
    rw [(h.starts hs).1] at he
    cases he
  · obtain ⟨-, hw, -⟩ | ⟨-, -, -, -, -, hw, -⟩ | ⟨n, r, reply, -, -, hd⟩ := h.spec
    · exact ⟨tables, hw ▸ he⟩
    · exact ⟨tables, hw ▸ he⟩
    · exact (hd.engine_eq he).2

end Exchange.IsSound

namespace Worker

variable {w : Worker}

/-- What a worker deals with after a frame is what it deals with as it is then. -/
theorem serve_split (hw : w.IsSound) {work : List Delivery} (h : w.serve work = pre ++ x :: post) :
    x.IsSound ∧ ∃ later, post = x.after.serve later := by
  induction pre generalizing w work with
  | nil =>
    cases work with
    | nil => cases h
    | cons d work =>
      cases h
      exact ⟨hw.exchange d, work, rfl⟩
  | cons y pre ih =>
    cases work with
    | nil => cases h
    | cons d work =>
      obtain ⟨-, ht⟩ := List.cons.inj h
      exact ih (hw.exchange d).after ht

/-- Once there is an engine, none is started, and it stays. -/
theorem serve_keeps (hw : w.IsSound) (he : w.engine = some ⟨self, members, .sound, tables⟩)
    (work : List Delivery) : ∀ x ∈ w.serve work, (∀ other others, ¬ x.Starts other others) ∧
      ∃ tables, x.after.engine = some ⟨self, members, .sound, tables⟩ := by
  induction work generalizing w tables with
  | nil => exact fun _ h => nomatch h
  | cons d work ih =>
    intro x hx
    have hs := hw.exchange d
    have hk := hs.keeps he
    obtain rfl | hx := List.mem_cons.1 hx
    · exact hk
    · obtain ⟨-, tables, ht⟩ := hk
      exact ih hs.after ht x hx

/-- Until an engine is started there is none. -/
theorem serve_idle (hw : w.IsSound) (he : w.engine = none) {work : List Delivery}
    (h : w.serve work = pre ++ x :: post)
    (hs : ∀ y ∈ pre, ∀ self members, ¬ y.Starts self members) : x.before.engine = none := by
  induction pre generalizing w work with
  | nil =>
    cases work with
    | nil => cases h
    | cons d work =>
      cases h
      exact he
  | cons y pre ih =>
    cases work with
    | nil => cases h
    | cons d work =>
      obtain ⟨hd, ht⟩ := List.cons.inj h
      have hy := hw.exchange d
      have hn := (hy.idle he (hd ▸ hs y List.mem_cons_self)).1
      exact ih hy.after hn ht fun z hz => hs z (List.mem_cons_of_mem y hz)

end Worker

/-- What holds of all frames that a worker deals with after it was made. -/
structure Served (xs : List Exchange) : Prop where
  answered : ∀ x ∈ xs, x.Answered
  /-- Up to the first frame that starts an engine there is none, and every other frame fails. -/
  idle : ∀ pre x post, xs = pre ++ x :: post →
    (∀ y ∈ pre, ∀ self members, ¬ y.Starts self members) →
    x.before.engine = none ∧
    (∀ n self members, Request.read x.given.frame = .ok (n, .ok (.createContext self members)) →
      (x.Starts self members ↔
        ∃ next, Engine.start self members .sound x.given.net = .ok next)) ∧
    ((∀ self members, ¬ x.Starts self members) → x.after.engine = none ∧
      ∀ n, Frame.Carries x.given.frame n → ∃ reason, x.Says n (.failed reason))
  /-- No other frame starts an engine, and all later frames find it, whatever its tables. -/
  context : ∀ pre x post self members, xs = pre ++ x :: post → x.Starts self members →
    (∀ y ∈ pre, y.after.engine = none) ∧
    x.after.engine = some ⟨self, members, .sound, .empty⟩ ∧
    ∀ y ∈ post, (∀ other others, ¬ y.Starts other others) ∧
      ∃ tables, y.after.engine = some ⟨self, members, .sound, tables⟩

namespace Worker

variable {w : Worker}

theorem no_engine_before (hw : w.IsSound) {work : List Delivery}
    (h : w.serve work = pre ++ x :: post) (hs : x.Starts self members) :
    ∀ y ∈ pre, y.after.engine = none := by
  intro y hy
  obtain ⟨before, between, rfl⟩ := List.append_of_mem hy
  rw [List.append_assoc, List.cons_append] at h
  obtain ⟨hy, later, hl⟩ := serve_split hw h
  cases he : y.after.engine with
  | none => rfl
  | some e =>
    obtain ⟨own, others, conduct, tables⟩ := e
    obtain rfl : conduct = .sound := hy.after.engine _ he
    have hx : x ∈ y.after.serve later := hl ▸ List.mem_append_right between List.mem_cons_self
    exact absurd hs ((serve_keeps hy.after he later x hx).1 self members)

/-- A worker answers what can be answered, starts one engine and then keeps it. -/
theorem served_serve (work : List Delivery) : Served ((fresh []).serve work) where
  answered x hx := by
    obtain ⟨pre, post, h⟩ := List.append_of_mem hx
    exact (serve_split isSound_fresh h).1.answered
  idle pre x post h hs := by
    obtain ⟨hx, -⟩ := serve_split isSound_fresh h
    have he : x.before.engine = none := serve_idle isSound_fresh rfl h hs
    exact ⟨he, fun _ _ _ => hx.starts_iff he, hx.idle he⟩
  context pre x post self members h hs := by
    obtain ⟨hx, later, rfl⟩ := serve_split isSound_fresh h
    have he := (hx.starts hs).2
    exact ⟨no_engine_before isSound_fresh h hs, he, serve_keeps hx.after he later⟩

end Worker

end ShardQuery
