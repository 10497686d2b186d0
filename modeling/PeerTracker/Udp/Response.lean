import PeerTracker.Text.Utf8
import PeerTracker.Udp.Request

/-!
# Replies by datagram

A reply begins with its action and the transaction id of the request. An announce
reply ends in compact peers, six octets each for IPv4 and eighteen for IPv6; which
of the two is known to the reader only from its own address.
-/

namespace PeerTracker.Udp

structure AnnounceReply where
  transactionId : Int32
  interval : Int32
  leechers : Int32
  seeders : Int32
  peers : Bytes
deriving DecidableEq, Repr

structure ScrapeCounts where
  seeders : Int32
  completed : Int32
  leechers : Int32
deriving DecidableEq, Repr

inductive Response where
  | connect (transactionId : Int32) (connectionId : Int64)
  | announce4 (r : AnnounceReply)
  | announce6 (r : AnnounceReply)
  | scrape (transactionId : Int32) (counts : List ScrapeCounts)
  | error (transactionId : Int32) (message : String)
deriving DecidableEq, Repr

inductive ResponseError where
  | unexpectedEnd
  | truncatedPeer
  | truncatedScrape
  | unknownAction
deriving DecidableEq, Repr

/-- The sort of a failure, as the reader's caller is told it. -/
inductive FailureKind where
  | unexpectedEof
  | invalidData
deriving DecidableEq, Repr

namespace ResponseError

def kind : ResponseError → FailureKind
  | unexpectedEnd => .unexpectedEof
  | truncatedPeer => .invalidData
  | truncatedScrape => .invalidData
  | unknownAction => .invalidData

def message : ResponseError → String
  | unexpectedEnd => "failed to fill whole buffer"
  | truncatedPeer => "truncated peer entry"
  | truncatedScrape => "truncated scrape entry"
  | unknownAction => "unknown action"

end ResponseError

def ScrapeCounts.encode (c : ScrapeCounts) : Bytes :=
  int32 c.seeders ++ int32 c.completed ++ int32 c.leechers

def AnnounceReply.encode (r : AnnounceReply) : Bytes :=
  int32 announceAction ++ int32 r.transactionId ++ int32 r.interval ++ int32 r.leechers
    ++ int32 r.seeders ++ r.peers

namespace Response

def transactionId : Response → Int32
  | connect t _ => t
  | announce4 r => r.transactionId
  | announce6 r => r.transactionId
  | scrape t _ => t
  | error t _ => t

def encode : Response → Bytes
  | connect t connectionId => int32 connectAction ++ int32 t ++ int64 connectionId
  | announce4 r => r.encode
  | announce6 r => r.encode
  | scrape t counts => int32 scrapeAction ++ int32 t ++ counts.flatMap ScrapeCounts.encode
  | error t message => int32 errorAction ++ int32 t ++ Utf8.ofString message

/-- The number of octets `encode` writes. -/
def size : Response → Nat
  | connect _ _ => 16
  | announce4 r => 20 + r.peers.length
  | announce6 r => 20 + r.peers.length
  | scrape _ counts => 8 + 12 * counts.length
  | error _ message => 8 + (Utf8.ofString message).length

def entrySize (ipv4 : Bool) : Nat := if ipv4 then 6 else 18

/-- Action and transaction id. -/
def readHeader : Cursor (Int32 × Int32) := do
  let action ← .int32
  let transactionId ← .int32
  pure (action, transactionId)

/-- Interval, leechers and seeders. -/
def readFigures : Cursor (Int32 × Int32 × Int32) := do
  let interval ← .int32
  let leechers ← .int32
  let seeders ← .int32
  pure (interval, leechers, seeders)

/-- `n` triples that follow one another. -/
def readCounts : (n : Nat) → Cursor (List ScrapeCounts)
  | 0 => pure []
  | n + 1 => do
    let seeders ← .int32
    let completed ← .int32
    let leechers ← .int32
    let rest ← readCounts n
    pure (⟨seeders, completed, leechers⟩ :: rest)

def decode (ipv4 : Bool) (bs : Bytes) : Except ResponseError Response :=
  match readHeader bs 0 with
  | none => .error .unexpectedEnd
  | some ((action, t), place) =>
    if action = connectAction then
      match Cursor.int64 bs place with
      | none => .error .unexpectedEnd
      | some (connectionId, _) => .ok (.connect t connectionId)
    else if action = announceAction then
      match readFigures bs place with
      | none => .error .unexpectedEnd
      | some ((interval, leechers, seeders), place) =>
        let peers := bs.drop place
        if peers.length % entrySize ipv4 ≠ 0 then .error .truncatedPeer
        else
          let r : AnnounceReply := ⟨t, interval, leechers, seeders, peers⟩
          .ok (if ipv4 then .announce4 r else .announce6 r)
    else if action = scrapeAction then
      let rest := bs.drop place
      if rest.length % 12 ≠ 0 then .error .truncatedScrape
      else match readCounts (rest.length / 12) bs place with
        | none => .error .unexpectedEnd
        | some (counts, _) => .ok (.scrape t counts)
    else if action = errorAction then .ok (.error t (Utf8.lossyString (bs.drop place)))
    else .error .unknownAction

end Response

end PeerTracker.Udp
