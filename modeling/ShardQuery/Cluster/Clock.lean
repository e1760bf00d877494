import ShardQuery.Cluster.Live

namespace ShardQuery

namespace Live

/-- The next event of a call to a worker that waits for nothing. -/
def askEvent? (l : Live) (o i : Nat) (c : LiveCall) : Option Event :=
  match c.call.task, c.stage with
  | .ask .., .fresh => some (.prepare o i)
  | .ask .., .numbered _ =>
    let w := linkOf c.call.participant
    let hasRoom := (l.links[w]?).any fun k => k.inbox.length < l.room
    if hasRoom || !l.isAlive w then some (.send o i) else none
  | .ask .., .pulling => some (.pull o i)
  | _, _ => none

def ownEvent? (o i : Nat) (c : LiveCall) : Option Event :=
  match c.call.task, c.stage with
  | .own _, .fresh => some (.own o i)
  | _, _ => none

def firstCall? (l : Live) (rule : Nat → Nat → LiveCall → Option Event) : Option Event :=
  l.running.findSome? fun (o, r) => r.calls.zipIdx.findSome? fun (c, i) => rule o i c

def ask? (l : Live) : Option Event := l.firstCall? l.askEvent?

/-- The time at which a worker delivers a result. -/
def jobDue (l : Live) (w : Nat) (job : Job) : Nat :=
  let delay := match l.cluster.workers[w]? with
    | some ⟨_, some e, _⟩ => e.conduct.delay
    | _ => 0
  job.since + delay

def linkEvent? (l : Live) (w : Nat) (k : Link) : Option Event :=
  if !k.outbox.isEmpty then some (.receive w)
  else if !l.isAlive w then (if k.channel.pending.isEmpty then none else some (.close w))
  else
    match k.job with
    | some job => if l.jobDue w job ≤ l.now then some (.deliver w) else none
    | none => if k.inbox.isEmpty then none else some (.serve w)

def deadline? (l : Live) (r : Running) : Option Nat :=
  l.cluster.settings.timeoutMs.map (r.since + ·)

def expiry? (l : Live) (o : Nat) (r : Running) : Option Event :=
  if (l.deadline? r).any (· ≤ l.now) then
    (r.calls.findIdx? (·.stage ≠ .ended)).map (.expire o)
  else none

/-- The end of an operation all of whose calls have ended, unless it breaks off. -/
def endEvent? (o : Nat) (r : Running) : Option Event :=
  let breaksOff := match r.aim with
    | .conclude goal => Cluster.breaksOff (.ofEnded r.ended) goal
    | .give _ => false
  if r.allEnded && !breaksOff then some (.conclude o) else none

/--
The next event at this instant. The coordinator comes first: what it has to send is sent, and calls
at their limit are given up, before workers do what is due. So a result that is delivered at the
limit is late, and at the limit zero no call is answered in time.
-/
def next? (l : Live) : Option Event :=
  let expiries := l.running.findSome? fun (o, r) => l.expiry? o r
  let ends := l.running.findSome? fun (o, r) => endEvent? o r
  let links := l.links.zipIdx.findSome? fun (k, w) => l.linkEvent? w k
  let strays := if l.strays.isEmpty then none else some (.stray 0)
  l.ask?.or (expiries.or (ends.or ((l.firstCall? ownEvent?).or (links.or strays))))

/-- The moments after this one at which something is due. -/
def dues (l : Live) : List Nat :=
  let jobs := l.links.zipIdx.filterMap fun (k, w) => k.job.map (l.jobDue w)
  let deadlines := l.running.filterMap fun (_, r) => l.deadline? r
  (jobs ++ deadlines).filter (l.now < ·)

def passing (l : Live) (moment : Nat) : Event := .tick (moment - l.now)

/-- The next event: one of this instant, or time that passes until something is due. -/
def future? (l : Live) : Option Event := l.next?.or (l.dues.min?.map l.passing)

def before? (moment : Nat) (l : Live) : Option Event :=
  l.next?.or ((l.dues.min?.filter (· < moment)).map l.passing)

/-- A bound on the events that are left, with time passing before each of them. -/
def work (l : Live) : Nat :=
  32 * (l.running.foldl (fun n (_, r) => n + r.calls.length + l.links.length + 1) 0 +
    l.links.foldl (fun n k => n + k.inbox.length + k.outbox.length + 2) 0 + l.strays.length)

/-- The events that a rule gives one after another, at most a number of them. -/
def stepsWithin (rule : Live → Option Event) : Nat → Live → Live
  | 0, l => l
  | n + 1, l =>
    match rule l with
    | some e => stepsWithin rule n (l.step e)
    | none => l

def untilAnswered (l : Live) (ops : List Nat) : Live :=
  stepsWithin (fun l => if ops.all fun o => (l.answer? o).isSome then none else l.future?) l.work l

/-- Runs up to a moment, without what is due at it. At this moment, only what is to be sent is. -/
def upTo (l : Live) (moment : Nat) : Live :=
  if moment ≤ l.now then stepsWithin ask? l.work l
  else
    let l := stepsWithin (before? moment) l.work l
    l.step (l.passing moment)

/-- Begins operations together and runs until all are answered: their numbers, and the state. -/
def performAll (l : Live) (ops : List Operation) : List Nat × Live :=
  let numbers := (List.range ops.length).map (l.begun + ·)
  (numbers, (ops.foldl start l).untilAnswered numbers)

def run (settings : Settings) (workers : Nat) (conducts : Conducts) (files : FileStore) :
    Except ClusterError Live := do
  let c ← Cluster.lift (Cluster.create settings workers conducts files)
  let l := (idle c).launch.untilAnswered [0]
  match l.answer? 0 with
  | some (.error e) => .error e
  | _ => .ok l

end Live

end ShardQuery
