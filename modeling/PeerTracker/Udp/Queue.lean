import PeerTracker.Udp.Handler

/-!
# Packets that wait

Datagrams are received by one task and answered by others. Between them stands a queue with
room for so many packets; one that finds no room is dropped, and only counted. Those that
answer take some packets out at once, in the order in which they came.
-/

namespace PeerTracker.Udp

/-- A datagram that was received. -/
structure Packet where
  sender : Net.Endpoint
  octets : Bytes
deriving DecidableEq

/-- Packets in the order in which they came, no more than there is room for. -/
structure PacketQueue where
  capacity : Nat
  packets : Array Packet
  fits : packets.size ≤ capacity

namespace PacketQueue

/-- An empty queue; there is always room for one packet. -/
def ofSize (size : Nat) : PacketQueue := ⟨max size 1, #[], Nat.zero_le _⟩

/-- The queue with one more packet, unless it is full. -/
def push? (q : PacketQueue) (p : Packet) : Option PacketQueue :=
  if h : q.packets.size < q.capacity then
    some ⟨q.capacity, q.packets.push p, by rw [Array.size_push]; exact h⟩
  else none

/-- The most packets that are taken out at once. -/
def batchSize : Nat := 64

def takeBatch (q : PacketQueue) : List Packet × PacketQueue :=
  ((q.packets.take batchSize).toList, ⟨q.capacity, q.packets.drop batchSize, by
    rw [Array.drop, Array.size_extract, Nat.min_self]
    exact Nat.le_trans (Nat.sub_le _ _) q.fits⟩)

end PacketQueue

/-- A packet comes in: it waits, or it is dropped and counted. -/
def receive (p : Packet) (q : PacketQueue) (s : State) : PacketQueue × State :=
  match q.push? p with
  | some longer => (longer, s)
  | none => (q, s.count .queueDrops 1)

/-- Answers a packet; gives the octets to send back, if there are any. -/
def serve (rules : Rules) (usePayloadIp : Bool) (now : Int64) (p : Packet) (s : State) :
    Option Bytes × State :=
  match handle rules p.sender usePayloadIp now p.octets s with
  | (none, s) => (none, s)
  | (some reply, s) =>
    let (written, s) := reply.send s
    (some written, s)

end PeerTracker.Udp
