import PeerTracker.Event
import PeerTracker.Udp.Cursor

/-!
# Requests by datagram

Every request begins with a connection id, an action and a transaction id. A
connect request has the protocol's own number for its connection id. A datagram
that cannot be read is answered only if it has a whole header and does not claim
to connect: the error then carries the ids that the answer needs.
-/

namespace PeerTracker.Udp

/-- The connection id of every connect request. -/
def protocolId : Int64 := 4497486125440

def connectAction : Int32 := 0
def announceAction : Int32 := 1
def scrapeAction : Int32 := 2
def errorAction : Int32 := 3

def headerSize : Nat := 16
def announceSize : Nat := 98

structure AnnounceRequest where
  connectionId : Int64
  transactionId : Int32
  infoHash : InfoHash
  peerId : PeerId
  downloaded : Int64
  left : Int64
  uploaded : Int64
  event : Event
  /-- The address the peer asks to be known by. -/
  ip : Option Net.Ipv4
  key : UInt32
  wanted : Int32
  port : UInt16
deriving DecidableEq

structure ScrapeRequest where
  connectionId : Int64
  transactionId : Int32
  hashes : List InfoHash
deriving DecidableEq

inductive Request where
  | connect (transactionId : Int32)
  | announce (r : AnnounceRequest)
  | scrape (r : ScrapeRequest)
deriving DecidableEq

/-- What is wrong with a datagram. -/
inductive Fault where
  | unexpectedEnd
  | noProtocolId
  | badPacket
  | badHash
  | badAction
  /-- A report from elsewhere. -/
  | reported (text : String)
deriving DecidableEq, Repr

def Fault.text : Fault → String
  | .unexpectedEnd => "failed to fill whole buffer"
  | .noProtocolId => "protocol identifier missing"
  | .badPacket => "bad packet"
  | .badHash => "bad hash"
  | .badAction => "bad action"
  | .reported text => text

inductive RequestError where
  | unsendable (fault : Fault)
  | sendable (connectionId : Int64) (transactionId : Int32) (fault : Fault)
deriving DecidableEq

/-- The value, field by field. -/
def RequestError.describe : RequestError → String
  | .unsendable fault => "Unsendable \x7b err: " ++ Quoted.text fault.text ++ " \x7d"
  | .sendable connectionId transactionId fault =>
    "Sendable \x7b connection_id: ConnectionId(" ++ toString connectionId.toInt
      ++ "), transaction_id: TransactionId(" ++ toString transactionId.toInt ++ "), err: "
      ++ Quoted.text fault.text ++ " \x7d"

namespace Request

def transactionId : Request → Int32
  | connect t => t
  | announce r => r.transactionId
  | scrape r => r.transactionId

def header (connectionId : Int64) (action transactionId : Int32) : Bytes :=
  int64 connectionId ++ int32 action ++ int32 transactionId

def encode : Request → Bytes
  | connect t => header protocolId connectAction t
  | announce r =>
    header r.connectionId announceAction r.transactionId ++ r.infoHash.bytes ++ r.peerId.bytes
      ++ int64 r.downloaded ++ int64 r.left ++ int64 r.uploaded ++ int32 r.event.code
      ++ (r.ip.getD .unspecified).octets ++ BigEndian.encode 4 r.key.toNat ++ int32 r.wanted
      ++ BigEndian.encode 2 r.port.toNat
  | scrape r =>
    header r.connectionId scrapeAction r.transactionId ++ r.hashes.flatMap (·.bytes)

/-- Connection id, action and transaction id. -/
def readHeader : Cursor (Int64 × Int32 × Int32) := do
  let connectionId ← .int64
  let action ← .int32
  let transactionId ← .int32
  pure (connectionId, action, transactionId)

/-- What follows the header of an announce. -/
def readAnnounce (connectionId : Int64) (transactionId : Int32) : Cursor AnnounceRequest := do
  let infoHash ← .identifier
  let peerId ← .identifier
  let downloaded ← .int64
  let left ← .int64
  let uploaded ← .int64
  let event ← .int32
  let ip ← .ipv4
  let key ← .word32
  let wanted ← .int32
  let port ← .word16
  pure {
    connectionId, transactionId, infoHash, peerId, downloaded, left, uploaded
    event := .ofCode event
    ip := if ip = .unspecified then none else some ip
    key, wanted, port }

/-- The first `n` identifiers of those that follow one another; `none` if one is not whole. -/
def identifiers? : (n : Nat) → Bytes → Option (List Identifier)
  | 0, _ => some []
  | n + 1, bs => do
    let i ← Identifier.ofBytes? (bs.take 20)
    let rest ← identifiers? n (bs.drop 20)
    pure (i :: rest)

def decode (bs : Bytes) : Except RequestError Request :=
  match readHeader bs 0 with
  | none => .error (.unsendable .unexpectedEnd)
  | some ((connectionId, action, transactionId), place) =>
    let refuse (fault : Fault) : Except RequestError Request :=
      .error (.sendable connectionId transactionId fault)
    if action = connectAction then
      if connectionId = protocolId then .ok (.connect transactionId)
      else .error (.unsendable .noProtocolId)
    else if action = announceAction then
      if bs.length < announceSize then refuse .badPacket
      else match readAnnounce connectionId transactionId bs place with
        | none => refuse .unexpectedEnd
        | some (r, _) => .ok (.announce r)
    else if action = scrapeAction then
      let rest := bs.drop place
      if rest.length % 20 ≠ 0 then refuse .badHash
      else match identifiers? (rest.length / 20) rest with
        | none => refuse .badHash
        | some hashes => .ok (.scrape ⟨connectionId, transactionId, hashes⟩)
    else refuse .badAction

end Request

end PeerTracker.Udp
