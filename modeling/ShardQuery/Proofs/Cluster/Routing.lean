import ShardQuery.Cluster.Channel
import ShardQuery.Proofs.Option
import Mathlib.Data.List.Nodup

namespace ShardQuery

namespace Channel

/-- What a message says to the call that it is for. -/
def content (p : ParticipantId) : Except FrameError Reply → Except ClusterError Reply
  | .ok (.failed reason) => .error (.participantFailed p reason)
  | .ok reply => .ok reply
  | .error e => .error (.protocol e.message)

/-- A frame says something to a call that no reply has come for. -/
def Answers (s : Session) (text : String) (n : Nat) (message : Except FrameError Reply) : Prop :=
  Reply.read text = .ok (n, message) ∧ n ∈ s.channel.pending

namespace Session

def isSent (s : Session) (seq : Nat) : Bool := (s.sent.map Prod.fst).contains seq

structure Sound (p : ParticipantId) (s : Session) : Prop where
  worker : s.channel.worker = p
  queues : s.channel.repliesOpen = s.channel.requestsOpen
  closed : s.channel.requestsOpen = false → ∀ c ∈ s.calls, ∃ x, c.standing = .ended x
  numbers : s.calls.map (·.seq) = List.range' 1 s.channel.issued
  pending : s.channel.pending = (s.calls.filter (·.standing.isOpen)).map (·.seq)
  framed : ∀ c ∈ s.calls, c.standing.isWaiting = true → c.frame.isSome = true
  once : (s.sent.map Prod.fst).Nodup
  /-- Only what a call has for its frame is sent. -/
  written : ∀ m ∈ s.sent, ∃ c ∈ s.calls, c.seq = m.1 ∧ c.frame = some m.2
  unsent : ∀ c ∈ s.calls, c.standing.isWaiting = true → s.isSent c.seq = false

/-- How a channel may go on. -/
inductive Follows (p : ParticipantId) (s : Session) : Event → Session → Prop where
  | begun (r : Request) (hopen : s.channel.requestsOpen = true) :
    Follows p s (.call r) { s with
      channel := s.channel.issue.2
      calls := s.calls ++
        [⟨⟨s.channel.issued + 1, some (r.write (s.channel.issued + 1))⟩, .waiting none⟩] }
  | refused (r : Request) (hclosed : s.channel.requestsOpen = false) :
    Follows p s (.call r) { s with
      channel := { s.channel with issued := s.channel.issued + 1 }
      calls := s.calls ++
        [⟨⟨s.channel.issued + 1, none⟩, .ended (.error (.channelClosed p))⟩] }
  | departed (hc : c ∈ s.calls) (hwaits : c.standing.isWaiting = true)
      (hframe : c.frame = some frame) (hroom : s.hasRoom = true) :
    Follows p s (.send c.seq) { s with
      calls := s.moved c.seq .depart
      sent := s.sent ++ [(c.seq, frame)] }
  | held (h : s.hasRoom = true → ∀ c ∈ s.calls, c.seq = seq → c.standing.isWaiting = false) :
    Follows p s (.send seq) s
  | took (n : Nat) : Follows p s .take { s with taken := n }
  | answered (h : Answers s text n message) :
    Follows p s (.frame text) { s with
      channel := s.channel.settle n
      calls := s.moved n (.hear (content p message)) }
  | passed (h : ∀ n message, ¬ Answers s text n message) : Follows p s (.frame text) s
  | left : Follows p s .leave { s with
      channel := { s.channel with pending := [], requestsOpen := false, repliesOpen := false }
      calls := s.calls.map fun c => { c with standing := c.standing.close (.channelClosed p) } }

variable {p : ParticipantId} {s t : Session} {seq n k : Nat} {x : Except ClusterError Reply}
  {text : String} {message : Except FrameError Reply} {e : Event} {events : List Event}
  {c : Placed}

/-- A frame that cannot be read, or that no open call has the number of, changes nothing. -/
theorem step_of_not_answers (h : ∀ n message, ¬ Answers s text n message) :
    s.step (.frame text) = s := by
  have hreceive : s.channel.receive text = (s.channel, none) := by
    rw [receive]
    split
    · rfl
    · split
      · rfl
      · next n message hread =>
        rw [if_neg]
        intro hn
        exact h n message ⟨hread, List.contains_iff_mem.1 hn⟩
  rw [step, Session.hear, hreceive]

theorem Sound.idle (hs : s.Sound p) (h : s.channel.requestsOpen = false) :
    s.channel.pending = [] := by
  rw [hs.pending, List.map_eq_nil_iff, List.filter_eq_nil_iff]
  intro c hc hopen
  obtain ⟨x, hx⟩ := hs.closed h c hc
  rw [hx] at hopen
  cases hopen

theorem Sound.requestsOpen_of_pending (hs : s.Sound p) (h : n ∈ s.channel.pending) :
    s.channel.requestsOpen = true := by
  cases hr : s.channel.requestsOpen with
  | true => rfl
  | false =>
    rw [hs.idle hr] at h
    cases h

theorem Sound.step_of_answers (hs : s.Sound p) (h : Answers s text n message) :
    s.step (.frame text) = { s with
      channel := s.channel.settle n
      calls := s.moved n (.hear (content p message)) } := by
  obtain ⟨hread, hn⟩ := h
  have hopen : s.channel.repliesOpen = true := hs.queues.trans (hs.requestsOpen_of_pending hn)
  have hcontains : s.channel.pending.contains n = true := List.contains_iff_mem.2 hn
  have hreceive : s.channel.receive text =
      (s.channel.settle n, some (n, content p message)) := by
    rw [receive, hopen, hread, ← hs.worker]
    simp only [Bool.not_true, Bool.false_eq_true, if_false, hcontains, if_true]
    cases message with
    | error e => rfl
    | ok reply => cases reply <;> rfl
  rw [step, Session.hear, hreceive]

theorem Sound.follows_call (hs : s.Sound p) (r : Request) :
    Follows p s (.call r) (s.step (.call r)) := by
  obtain rfl := hs.worker
  cases hopen : s.channel.requestsOpen with
  | true =>
    have hcall : s.channel.call r =
        (⟨s.channel.issued + 1, some (r.write (s.channel.issued + 1))⟩, s.channel.issue.2) :=
      if_pos hopen
    rw [step, begin, hcall]
    exact .begun r hopen
  | false =>
    have hcall : s.channel.call r =
        (⟨s.channel.issued + 1, none⟩, { s.channel with issued := s.channel.issued + 1 }) := by
      rw [call, hopen]
      simp [settle, issue, hs.idle hopen]
    rw [step, begin, hcall]
    exact .refused r hopen

theorem Sound.follows_send (hs : s.Sound p) (seq : Nat) :
    Follows p s (.send seq) (s.step (.send seq)) := by
  rw [step, send]
  split
  · next frame standing hfind =>
    obtain ⟨hcond, -⟩ := List.find?_eq_some_iff_append.1 hfind
    have hmem := List.mem_of_find?_eq_some hfind
    rw [Bool.and_eq_true, decide_eq_true_eq] at hcond
    obtain ⟨rfl, hwaits⟩ := hcond
    split
    · next hroom => exact .departed hmem hwaits rfl hroom
    · next hno => exact .held fun hroom => absurd hroom hno
  · next hno =>
    apply Follows.held
    intro _ c hc hseq
    rw [Bool.eq_false_iff]
    intro hwaits
    -- a call that waits has a frame, so that it would have been found
    have hfound : (s.calls.find? fun c => c.seq = seq && c.standing.isWaiting).isSome = true :=
      List.find?_isSome.2 ⟨c, hc, Bool.and_eq_true_iff.2 ⟨decide_eq_true hseq, hwaits⟩⟩
    obtain ⟨d, hd⟩ := Option.isSome_iff_exists.1 hfound
    have hcond := List.find?_some hd
    rw [Bool.and_eq_true] at hcond
    obtain ⟨frame, hframe⟩ := Option.isSome_iff_exists.1
      (hs.framed d (List.mem_of_find?_eq_some hd) hcond.2)
    obtain ⟨⟨_, _⟩, standing⟩ := d
    cases hframe
    exact hno _ _ _ hd

theorem Sound.follows (hs : s.Sound p) (e : Event) : Follows p s e (s.step e) := by
  cases e with
  | call r => exact hs.follows_call r
  | send seq => exact hs.follows_send seq
  | take => exact .took _
  | frame text =>
    by_cases hmatch : ∃ n message, Answers s text n message
    · obtain ⟨n, message, h⟩ := hmatch
      rw [hs.step_of_answers h]
      exact .answered h
    · have hno : ∀ n message, ¬ Answers s text n message :=
        fun n message h => hmatch ⟨n, message, h⟩
      rw [step_of_not_answers hno]
      exact .passed hno
  | leave =>
    obtain rfl := hs.worker
    have hclose : s.channel.closeRequests.closeReplies.1 =
        { s.channel with pending := [], requestsOpen := false, repliesOpen := false } := by
      cases hopen : s.channel.requestsOpen with
      | true => simp [closeRequests, closeReplies, hs.queues, hopen, abandon]
      | false => simp [closeRequests, closeReplies, hs.queues, hopen, hs.idle hopen]
    rw [step, hclose]
    exact .left

@[simp] theorem moved_seq {f : Standing → Standing} :
    (s.moved seq f).map (·.seq) = s.calls.map (·.seq) := by
  rw [Session.moved, List.map_map]
  apply List.map_congr_left
  intro c _
  simp only [Function.comp]
  split <;> rfl

/-- What is so of each call before it moves is so after it, if the move of its standing keeps it. -/
theorem forall_moved {f : Standing → Standing} {P : Placed → Prop}
    (hothers : ∀ c ∈ s.calls, c.seq ≠ seq → P c)
    (hmoved : ∀ c ∈ s.calls, c.seq = seq → P { c with standing := f c.standing }) :
    ∀ c ∈ s.moved seq f, P c := by
  intro _ hmem
  obtain ⟨c, hc, rfl⟩ := List.mem_map.1 hmem
  by_cases hseq : c.seq = seq
  · rw [if_pos hseq]
    exact hmoved c hc hseq
  · rw [if_neg hseq]
    exact hothers c hc hseq

theorem pending_moved {f : Standing → Standing} :
    ((s.moved seq f).filter (·.standing.isOpen)).map (·.seq) =
      (s.calls.filter fun c =>
        if c.seq = seq then (f c.standing).isOpen else c.standing.isOpen).map (·.seq) := by
  rw [Session.moved, List.filter_map, List.map_map]
  congr 1
  · funext c
    simp only [Function.comp]
    split <;> rfl
  · congr 1
    funext c
    simp only [Function.comp]
    split <;> rfl

theorem isSent_iff : s.isSent seq = true ↔ seq ∈ s.sent.map Prod.fst := List.contains_iff_mem

/-- The numbers that are given out are those of the calls, so that the next one is new. -/
theorem Sound.seq_le (hs : s.Sound p) (hc : c ∈ s.calls) : c.seq ≤ s.channel.issued := by
  have hmem : c.seq ∈ List.range' 1 s.channel.issued := by
    rw [← hs.numbers]
    exact List.mem_map_of_mem hc
  rw [List.mem_range'_1] at hmem
  omega

theorem Sound.not_isSent_next (hs : s.Sound p) : s.isSent (s.channel.issued + 1) = false := by
  rw [Bool.eq_false_iff]
  intro h
  obtain ⟨m, hm, hseq⟩ := List.mem_map.1 (isSent_iff.1 h)
  obtain ⟨c, hc, hcm, -⟩ := hs.written m hm
  have hle := hs.seq_le hc
  omega

theorem ended_close (st : Standing) (e : ClusterError) : ∃ x, st.close e = .ended x := by
  cases st with
  | ended x => exact ⟨x, rfl⟩
  | waiting | sent => exact ⟨_, rfl⟩

theorem isOpen_close (st : Standing) (e : ClusterError) : (st.close e).isOpen = false := by
  cases st <;> rfl

theorem isOpen_depart (st : Standing) : st.depart.isOpen = st.isOpen := by
  rcases st with ⟨_ | _⟩ | _ | _ <;> rfl

theorem isOpen_hear (st : Standing) : (st.hear x).isOpen = false := by
  cases st <;> rfl

theorem isWaiting_hear (st : Standing) : (st.hear x).isWaiting = st.isWaiting := by
  cases st <;> rfl

theorem isWaiting_depart (st : Standing) : st.depart.isWaiting = false := by
  rcases st with ⟨_ | _⟩ | _ | _ <;> rfl

theorem Sound.follow_closed (hs : s.Sound p) (h : Follows p s e t)
    (hclosed : t.channel.requestsOpen = false) : ∀ c ∈ t.calls, ∃ x, c.standing = .ended x := by
  cases h with
  | begun r hopen => exact absurd (hopen.symm.trans hclosed) (by decide)
  | refused r hrefused =>
    intro c hc
    rcases List.mem_append.1 hc with hc | hc
    · exact hs.closed hrefused c hc
    · rw [List.mem_singleton] at hc
      exact ⟨_, congrArg _ hc⟩
  | departed hc hwaits =>
    obtain ⟨x, hx⟩ := hs.closed hclosed _ hc
    rw [hx] at hwaits
    cases hwaits
  | held | took | passed => exact hs.closed hclosed
  | answered h => exact absurd ((hs.requestsOpen_of_pending h.2).symm.trans hclosed) (by decide)
  | left =>
    intro _ hmem
    obtain ⟨c, -, rfl⟩ := List.mem_map.1 hmem
    exact ended_close c.standing _

theorem Sound.follow_numbers (hs : s.Sound p) (h : Follows p s e t) :
    t.calls.map (·.seq) = List.range' 1 t.channel.issued := by
  cases h with
  | begun | refused =>
    rw [List.map_append, hs.numbers]
    simp only [issue, List.range'_1_concat, List.map_cons, List.map_nil, Nat.add_comm 1]
  | departed | answered => exact moved_seq.trans hs.numbers
  | held | took | passed => exact hs.numbers
  | left =>
    rw [List.map_map]
    exact hs.numbers

theorem Sound.follow_pending (hs : s.Sound p) (h : Follows p s e t) :
    t.channel.pending = (t.calls.filter (·.standing.isOpen)).map (·.seq) := by
  cases h with
  | begun r =>
    rw [List.filter_append, List.map_append, ← hs.pending]
    rfl
  | refused r =>
    rw [List.filter_append, List.map_append, ← hs.pending]
    exact (List.append_nil _).symm
  | departed =>
    rw [pending_moved, hs.pending]
    simp only [isOpen_depart, ite_self]
  | held | took | passed => exact hs.pending
  | @answered _ n =>
    rw [pending_moved]
    show s.channel.pending.filter (· ≠ n) = _
    rw [hs.pending, List.filter_map, List.filter_filter]
    congr 2
    funext c
    by_cases hseq : c.seq = n <;> simp [hseq, isOpen_hear]
  | left =>
    rw [eq_comm, List.map_eq_nil_iff, List.filter_eq_nil_iff]
    intro _ hmem
    obtain ⟨c, -, rfl⟩ := List.mem_map.1 hmem
    rw [isOpen_close]
    exact Bool.false_ne_true

theorem Sound.follow_framed (hs : s.Sound p) (h : Follows p s e t) :
    ∀ c ∈ t.calls, c.standing.isWaiting = true → c.frame.isSome = true := by
  cases h with
  | begun | refused =>
    intro c hc
    rcases List.mem_append.1 hc with hc | hc
    · exact hs.framed c hc
    · rw [List.mem_singleton.1 hc]
      first | exact fun _ => rfl | nofun
  | departed =>
    apply forall_moved
    · exact fun c hc _ => hs.framed c hc
    · intro c _ _ hwaits
      rw [isWaiting_depart] at hwaits
      cases hwaits
  | held | took | passed => exact hs.framed
  | answered =>
    apply forall_moved
    · exact fun c hc _ => hs.framed c hc
    · intro c hc _ hwaits
      rw [isWaiting_hear] at hwaits
      exact hs.framed c hc hwaits
  | left =>
    intro _ hmem hwaits
    obtain ⟨c, -, rfl⟩ := List.mem_map.1 hmem
    obtain ⟨x, hx⟩ := ended_close c.standing (.channelClosed p)
    rw [hx] at hwaits
    cases hwaits

theorem Sound.follow_once (hs : s.Sound p) (h : Follows p s e t) :
    (t.sent.map Prod.fst).Nodup := by
  cases h with
  | departed hc hwaits =>
    rw [List.map_append]
    apply List.Nodup.append hs.once (List.nodup_singleton _)
    rw [List.disjoint_singleton, ← isSent_iff, hs.unsent _ hc hwaits]
    exact Bool.false_ne_true
  | _ => exact hs.once

/-- A call keeps its number and its frame. -/
theorem Follows.exists_call (h : Follows p s e t) (hc : c ∈ s.calls) :
    ∃ d ∈ t.calls, d.toIssued = c.toIssued := by
  cases h with
  | begun | refused => exact ⟨c, List.mem_append_left _ hc, rfl⟩
  | departed | answered =>
    refine ⟨_, List.mem_map_of_mem hc, ?_⟩
    split <;> rfl
  | held | took | passed => exact ⟨c, hc, rfl⟩
  | left => exact ⟨_, List.mem_map_of_mem hc, rfl⟩

theorem Sound.follow_written (hs : s.Sound p) (h : Follows p s e t) :
    ∀ m ∈ t.sent, ∃ c ∈ t.calls, c.seq = m.1 ∧ c.frame = some m.2 := by
  intro m hm
  have hkept : (∃ c ∈ s.calls, c.seq = m.1 ∧ c.frame = some m.2) →
      ∃ c ∈ t.calls, c.seq = m.1 ∧ c.frame = some m.2 := by
    rintro ⟨c, hc, hseq, hframe⟩
    obtain ⟨d, hd, heq⟩ := h.exists_call hc
    exact ⟨d, hd, heq ▸ hseq, heq ▸ hframe⟩
  apply hkept
  cases h with
  | departed hc _ hframe =>
    rcases List.mem_append.1 hm with hm | hm
    · exact hs.written m hm
    · rw [List.mem_singleton.1 hm]
      exact ⟨_, hc, rfl, hframe⟩
  | _ => exact hs.written m hm

theorem Sound.follow_unsent (hs : s.Sound p) (h : Follows p s e t) :
    ∀ c ∈ t.calls, c.standing.isWaiting = true → t.isSent c.seq = false := by
  cases h with
  | begun | refused =>
    intro c hc
    rcases List.mem_append.1 hc with hc | hc
    · exact hs.unsent c hc
    · rw [List.mem_singleton.1 hc]
      exact fun _ => hs.not_isSent_next
  | departed hd hwaits' =>
    apply forall_moved
    · intro c hc hne hwaits
      have hnot := hs.unsent c hc hwaits
      rw [Bool.eq_false_iff, Ne, isSent_iff] at hnot ⊢
      rw [List.map_append, List.mem_append]
      rintro (h | h)
      · exact hnot h
      · exact hne (List.mem_singleton.1 h)
    · intro c _ _ hwaits
      rw [isWaiting_depart] at hwaits
      cases hwaits
  | held | took | passed => exact hs.unsent
  | answered =>
    apply forall_moved
    · exact fun c hc _ => hs.unsent c hc
    · intro c hc _ hwaits
      rw [isWaiting_hear] at hwaits
      exact hs.unsent c hc hwaits
  | left =>
    intro _ hmem hwaits
    obtain ⟨c, -, rfl⟩ := List.mem_map.1 hmem
    obtain ⟨x, hx⟩ := ended_close c.standing (.channelClosed p)
    rw [hx] at hwaits
    cases hwaits

theorem Sound.follow (hs : s.Sound p) (h : Follows p s e t) : t.Sound p where
  worker := by cases h <;> exact hs.worker
  queues := by
    cases h with
    | left => rfl
    | _ => exact hs.queues
  closed := hs.follow_closed h
  numbers := hs.follow_numbers h
  pending := hs.follow_pending h
  framed := hs.follow_framed h
  once := hs.follow_once h
  written := hs.follow_written h
  unsent := hs.follow_unsent h

theorem Sound.run (hs : s.Sound p) (events : List Event) : (s.run events).Sound p := by
  induction events generalizing s with
  | nil => exact hs
  | cons e events ih => exact ih (hs.follow (hs.follows e))

/-- The worker's queue never holds more requests than it has room for. -/
structure Bounded (capacity : Nat) (s : Session) : Prop where
  size : s.capacity = capacity
  taken : s.taken ≤ s.sent.length
  queued : s.sent.length ≤ s.taken + capacity

theorem Bounded.step {capacity : Nat} (hb : s.Bounded capacity) (e : Event) :
    (s.step e).Bounded capacity := by
  obtain ⟨hsize, htaken, hqueued⟩ := hb
  cases e with
  | call | leave => exact ⟨hsize, htaken, hqueued⟩
  | send seq =>
    rw [Session.step, send]
    split
    · split
      · next hroom =>
        have hlt : s.sent.length < s.taken + s.capacity := of_decide_eq_true hroom
        refine ⟨hsize, ?_, ?_⟩
        · show s.taken ≤ (s.sent ++ _).length
          rw [List.length_append]
          omega
        · show (s.sent ++ _).length ≤ s.taken + capacity
          rw [List.length_append, List.length_singleton]
          omega
      · exact ⟨hsize, htaken, hqueued⟩
    · exact ⟨hsize, htaken, hqueued⟩
  | take =>
    refine ⟨hsize, Nat.min_le_right _ _, ?_⟩
    show s.sent.length ≤ min (s.taken + 1) s.sent.length + capacity
    omega
  | frame text =>
    rw [Session.step, Session.hear]
    split <;> exact ⟨hsize, htaken, hqueued⟩

theorem Bounded.run {capacity : Nat} (hb : s.Bounded capacity) (events : List Event) :
    (s.run events).Bounded capacity := by
  induction events generalizing s with
  | nil => exact hb
  | cons e events ih => exact ih (hb.step e)

end Session

-- The second call waits for room, so that its early reply is kept, and lost as the worker leaves.
example :
    (((Session.fresh ⟨1⟩ 1).run [.call (.dropTable "t"), .call (.dropTable "u"), .send 1, .send 2,
      .frame (Reply.tableDropped.write 2), .leave]).calls.map
        fun c => c.standing matches .ended (.error (.channelClosed _))) = [true, true] := by
  decide +kernel

end Channel

end ShardQuery
