import PeerTracker.Proofs.Figures
import PeerTracker.Udp.Queue

/-!
# What becomes of packets that wait

A listener for datagrams takes turns with the rest of the tracker: a packet comes in, some of
those that wait are taken out, one of these is answered, or the tracker is asked for something
else. The turns come in any order, and packets that were taken out are answered in any order,
since many may answer at once (`Program.UdpListener`). Only a full queue drops a packet, and to
the tracker a listener is nothing but a source of demands, so that what holds wherever demands
lead holds here as well.
-/

namespace PeerTracker

/-- Whether a datagram is dropped. -/
def Demand.isOverflow : Demand → Bool
  | overflow => true
  | _ => false

theorem Demand.read_queueDrops (rules : Rules) (s : State) (d : Demand) :
    (d.exec rules s).stats.read .queueDrops =
      s.stats.read .queueDrops + Int64.ofNat (if d.isOverflow then 1 else 0) := by
  by_cases h : d = overflow
  · subst h
    exact s.read_count .queueDrops .queueDrops 1
  · have hquiet : Counter.IsQuiet .queueDrops := .inr rfl
    have hother : d.isOverflow = false := by
      cases d <;> first | rfl | exact absurd rfl h
    rw [hquiet.read_exec rules s h, hother]
    exact (Int64.add_zero _).symm

namespace Udp

/-! ## Steps -/

namespace PacketQueue

/-- The packets that wait, the first one first. -/
def waiting (q : PacketQueue) : List Packet := q.packets.toList

theorem waiting_takeBatch (q : PacketQueue) :
    q.takeBatch.1 ++ q.takeBatch.2.waiting = q.waiting := by
  have htaken : q.takeBatch.1 = q.waiting.take batchSize := by simp [takeBatch, waiting]
  have hleft : q.takeBatch.2.waiting = q.waiting.drop batchSize := by
    simp [takeBatch, waiting, List.take_of_length_le]
  rw [htaken, hleft, List.take_append_drop]

end PacketQueue

section Receive

variable (p : Packet) {q : PacketQueue} (s : State)

theorem receive_of_room (h : q.waiting.length < q.capacity) :
    ∃ longer, receive p q s = (longer, s) ∧ longer.capacity = q.capacity ∧
      longer.waiting = q.waiting ++ [p] := by
  have hsize : q.packets.size < q.capacity := h
  rw [receive, PacketQueue.push?, dif_pos hsize]
  exact ⟨_, rfl, rfl, Array.toList_push⟩

theorem receive_of_full (h : ¬q.waiting.length < q.capacity) :
    receive p q s = (q, s.count .queueDrops 1) := by
  have hsize : ¬q.packets.size < q.capacity := h
  rw [receive, PacketQueue.push?, dif_neg hsize]

end Receive

theorem serve_snd (rules : Rules) (usePayloadIp : Bool) (now : Int64) (p : Packet) (s : State) :
    (serve rules usePayloadIp now p s).2 =
      (Demand.datagram p.sender usePayloadIp now p.octets).exec rules s := by
  unfold serve Demand.exec
  split <;> next heq => simp only [heq]

/-! ## Turns -/

/-- A listener with the tracker that it serves, and with what has become of its packets. -/
structure Listener where
  queue : PacketQueue
  state : State
  /-- Packets that found no room. -/
  dropped : List Packet := []
  /-- Packets that were taken out, as they came. -/
  taken : List Packet := []
  /-- Those of them that are not answered yet. -/
  held : List Packet := []
  answered : List Packet := []

/-- What happens next. -/
inductive Turn where
  | arrive (p : Packet)
  | take
  /-- Happens only if the packet is one of those that are to be answered. -/
  | answer (p : Packet) (now : Int64)
  /-- The tracker is asked by somebody else. -/
  | meanwhile (d : Demand)

namespace Turn

/-- The packet that comes in, if one does. -/
def arrivals : Turn → List Packet
  | arrive p => [p]
  | _ => []

/-- Whether another listener drops a datagram. -/
def dropsElsewhere : Turn → Bool
  | meanwhile d => d.isOverflow
  | _ => false

def exec (rules : Rules) (usePayloadIp : Bool) (l : Listener) : Turn → Listener
  | arrive p =>
    let out := receive p l.queue l.state
    { l with
      queue := out.1
      state := out.2
      dropped :=
        if l.queue.waiting.length < l.queue.capacity then l.dropped else l.dropped ++ [p] }
  | take =>
    let out := l.queue.takeBatch
    { l with queue := out.2, taken := l.taken ++ out.1, held := l.held ++ out.1 }
  | answer p now =>
    if p ∈ l.held then
      { l with
        state := (serve rules usePayloadIp now p l.state).2
        held := l.held.erase p
        answered := l.answered ++ [p] }
    else l
  | meanwhile d => { l with state := d.exec rules l.state }

end Turn

namespace Listener

/-- A listener that begins. -/
def ofSize (size : Nat) (s : State) : Listener := { queue := .ofSize size, state := s }

section Run

variable (rules : Rules) (usePayloadIp : Bool) (start : Listener)

def run (turns : List Turn) : Listener := turns.foldl (Turn.exec rules usePayloadIp) start

theorem run_snoc (turns : List Turn) (turn : Turn) :
    start.run rules usePayloadIp (turns ++ [turn]) =
      turn.exec rules usePayloadIp (start.run rules usePayloadIp turns) := by
  rw [run, List.foldl_append]
  rfl

end Run

/-- What can be said of the packets that came in, where the tracker was asked for other things
that dropped so many datagrams elsewhere. -/
structure Accounts (rules : Rules) (room : Nat) (start : State) (arrived : List Packet)
    (elsewhere : Nat) (l : Listener) : Prop where
  capacity : l.queue.capacity = room
  fates : arrived.Perm (l.taken ++ l.queue.waiting ++ l.dropped)
  order : (l.taken ++ l.queue.waiting).Sublist arrived
  answers : l.taken.Perm (l.answered ++ l.held)
  burst : l.dropped = [] ∨ room < arrived.length
  drops : l.state.stats.read .queueDrops =
    start.stats.read .queueDrops + Int64.ofNat (l.dropped.length + elsewhere)
  reachable : Reachable rules start l.state

namespace Accounts

variable {rules : Rules} {room : Nat} {start : State} {arrived : List Packet} {elsewhere : Nat}
  {l : Listener} (h : l.Accounts rules room start arrived elsewhere)

theorem ofSize (rules : Rules) (size : Nat) (start : State) :
    (Listener.ofSize size start).Accounts rules (max size 1) start [] 0 where
  capacity := rfl
  fates := .nil
  order := .slnil
  answers := .nil
  burst := .inl rfl
  drops := (Int64.add_zero _).symm
  reachable := .refl

include h

theorem arrive (usePayloadIp : Bool) (p : Packet) :
    ((Turn.arrive p).exec rules usePayloadIp l).Accounts rules room start (arrived ++ [p])
      elsewhere := by
  by_cases hroom : l.queue.waiting.length < l.queue.capacity
  · obtain ⟨longer, hreceive, hcapacity, hwaiting⟩ := receive_of_room p l.state hroom
    have hlonger : l.taken ++ longer.waiting = l.taken ++ l.queue.waiting ++ [p] := by
      rw [hwaiting, List.append_assoc]
    simp only [Turn.exec, hreceive, if_pos hroom]
    refine ⟨hcapacity.trans h.capacity, ?fates, ?order, h.answers, ?burst, h.drops, h.reachable⟩
    case fates =>
      rw [hlonger, List.append_assoc]
      refine (h.fates.append_right [p]).trans ?_
      rw [List.append_assoc]
      exact List.perm_append_comm.append_left _
    case order =>
      rw [hlonger]
      exact h.order.append (.refl [p])
    case burst =>
      refine h.burst.imp_right fun hburst => ?_
      rw [List.length_append]
      exact Nat.lt_add_right _ hburst
  · have hfull : room ≤ l.queue.waiting.length := h.capacity ▸ Nat.le_of_not_lt hroom
    simp only [Turn.exec, receive_of_full p l.state hroom, if_neg hroom]
    refine ⟨h.capacity, ?fates, ?order, h.answers, .inr ?burst, ?drops,
      h.reachable.serve .overflow trivial⟩
    case fates =>
      rw [← List.append_assoc]
      exact h.fates.append_right [p]
    case order => exact h.order.trans (List.sublist_append_left _ _)
    case burst =>
      -- those that wait have come before
      have hlength := h.order.length_le
      rw [List.length_append] at hlength
      rw [List.length_append, List.length_singleton]
      omega
    case drops =>
      show (Demand.overflow.exec rules l.state).stats.read .queueDrops = _
      rw [Demand.read_queueDrops, h.drops, Int64.add_assoc, ← Int64.ofNat_add,
        List.length_append, List.length_singleton, Nat.add_right_comm]
      rfl

theorem take (usePayloadIp : Bool) :
    (Turn.take.exec rules usePayloadIp l).Accounts rules room start arrived elsewhere := by
  have hbatch : l.taken ++ l.queue.takeBatch.1 ++ l.queue.takeBatch.2.waiting =
      l.taken ++ l.queue.waiting := by
    rw [List.append_assoc, l.queue.waiting_takeBatch]
  refine ⟨h.capacity, hbatch ▸ h.fates, hbatch ▸ h.order, ?answers, h.burst, h.drops,
    h.reachable⟩
  case answers =>
    show (l.taken ++ l.queue.takeBatch.1).Perm (l.answered ++ (l.held ++ l.queue.takeBatch.1))
    rw [← List.append_assoc]
    exact h.answers.append_right _

theorem answer (usePayloadIp : Bool) (p : Packet) (now : Int64) :
    ((Turn.answer p now).exec rules usePayloadIp l).Accounts rules room start arrived
      elsewhere := by
  by_cases hheld : p ∈ l.held
  · simp only [Turn.exec, if_pos hheld, serve_snd]
    refine ⟨h.capacity, h.fates, h.order, ?answers, h.burst, ?drops,
      h.reachable.serve (.datagram p.sender usePayloadIp now p.octets) trivial⟩
    case answers =>
      refine h.answers.trans ?_
      rw [List.append_assoc]
      exact (List.perm_cons_erase hheld).append_left _
    case drops =>
      rw [Demand.read_queueDrops]
      exact (Int64.add_zero _).trans h.drops
  · simp only [Turn.exec, if_neg hheld]
    exact h

theorem meanwhile (usePayloadIp : Bool) (d : Demand) :
    ((Turn.meanwhile d).exec rules usePayloadIp l).Accounts rules room start arrived
      (elsewhere + if d.isOverflow then 1 else 0) where
  capacity := h.capacity
  fates := h.fates
  order := h.order
  answers := h.answers
  burst := h.burst
  drops := by
    show (d.exec rules l.state).stats.read .queueDrops = _
    rw [Demand.read_queueDrops, h.drops, Int64.add_assoc, ← Int64.ofNat_add, Nat.add_assoc]
    rfl
  reachable := h.reachable.serve d trivial

theorem exec (usePayloadIp : Bool) (turn : Turn) :
    (turn.exec rules usePayloadIp l).Accounts rules room start (arrived ++ turn.arrivals)
      (elsewhere + if turn.dropsElsewhere then 1 else 0) := by
  have hnothing : arrived = arrived ++ [] := (List.append_nil _).symm
  cases turn with
  | arrive p => exact h.arrive usePayloadIp p
  | take => exact hnothing ▸ h.take usePayloadIp
  | answer p now => exact hnothing ▸ h.answer usePayloadIp p now
  | meanwhile d => exact hnothing ▸ h.meanwhile usePayloadIp d

end Accounts

theorem accounts_run (rules : Rules) (usePayloadIp : Bool) (size : Nat) (start : State)
    (turns : List Turn) :
    ((ofSize size start).run rules usePayloadIp turns).Accounts rules (max size 1) start
      (turns.flatMap Turn.arrivals) (turns.countP Turn.dropsElsewhere) := by
  induction turns using List.reverseRecOn with
  | nil => exact .ofSize rules size start
  | append_singleton turns turn ih =>
      rw [run_snoc, List.flatMap_append, List.flatMap_singleton, List.countP_append,
        List.countP_singleton]
      exact ih.exec usePayloadIp turn

/-- **Each packet has one fate, and what is dropped is counted.** Whatever turns a listener has
taken with the rest of the tracker, the packets that came in are those that were answered, are
about to be, wait, or were dropped, each as often as it came. Packets are taken out in the order
in which they came. None is dropped before more have come than there is room for; and the counter
of drops has grown by as many as were dropped here and elsewhere. Wherever the tracker has come
to, demands alone could have led it there. -/
theorem packets_have_one_fate (rules : Rules) (usePayloadIp : Bool) (size : Nat) (start : State)
    (turns : List Turn) :
    let l := (ofSize size start).run rules usePayloadIp turns
    let arrived := turns.flatMap Turn.arrivals
    arrived.Perm (l.answered ++ l.held ++ l.queue.waiting ++ l.dropped) ∧
      (l.taken ++ l.queue.waiting).Sublist arrived ∧
      (arrived.length ≤ max size 1 → l.dropped = []) ∧
      l.state.stats.read .queueDrops = start.stats.read .queueDrops +
        Int64.ofNat (l.dropped.length + turns.countP Turn.dropsElsewhere) ∧
      Reachable rules start l.state := by
  intro l arrived
  have h := accounts_run rules usePayloadIp size start turns
  refine ⟨?_, h.order, fun hfew => ?_, h.drops, h.reachable⟩
  · exact h.fates.trans ((h.answers.append_right _).append_right _)
  · exact h.burst.resolve_right (Nat.not_lt.mpr hfew)

end Listener

end Udp

end PeerTracker
