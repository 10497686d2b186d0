import PeerTracker.Scrape
import PeerTracker.Udp.Response

/-!
# Handling datagrams

A datagram is answered by at most one reply. The connection id is checked before
anything else is looked at, so a sender that has none learns only that. Peers in
an announce reply are of the family that the reply travels over.
-/

namespace PeerTracker.Udp

/-- An error of this transport, which it counts itself. -/
def refuse (transactionId : Int32) (text : String) (s : State) : Response × State :=
  (.error transactionId text, s.count .clientErrors 1)

/-- A byte count, negative ones reading as zero. -/
def byteCount (n : Int64) : UInt64 := if n.toInt < 0 then 0 else n.toUInt64

/-- The address a peer is to be known by. -/
def peerIp (remote : Net.Endpoint) (r : AnnounceRequest) (usePayloadIp : Bool) : Net.IpAddr :=
  match r.ip with
  | some ip => if usePayloadIp then .v4 ip else remote.ip
  | none => remote.ip

/-- What the service is asked. -/
def announcement (remote : Net.Endpoint) (r : AnnounceRequest) (usePayloadIp : Bool) :
    Announcement where
  infoHash := r.infoHash.bytes
  peerId := r.peerId.bytes
  port := Int64.ofNat r.port.toNat
  event := r.event
  wanted := if 1 ≤ r.wanted.toInt then some r.wanted.toInt64 else none
  uploaded := byteCount r.uploaded
  downloaded := byteCount r.downloaded
  left := if r.left.toInt < 0 then none else some r.left.toUInt64
  compact := true
  noPeerId := true
  ip := peerIp remote r usePayloadIp

/-- Whether a remote gets IPv4 peers. -/
def isV4Remote (remote : Net.Endpoint) : Bool := remote.ip.canonical.isV4

def announceReply (v4 : Bool) (r : AnnounceReply) : Response :=
  if v4 then .announce4 r else .announce6 r

def handleAnnounce (rules : Rules) (remote : Net.Endpoint) (r : AnnounceRequest)
    (usePayloadIp : Bool) (now : Int64) (s : State) : Response × State :=
  let t := r.transactionId
  let v4 := isV4Remote remote
  if r.port = 0 then refuse t "bad port" s
  else
    match announce rules (announcement remote r usePayloadIp) now s with
    | (.error e, s) => (.error t e.publicText, s)
    | (.ok .stopped, s) => (announceReply v4 ⟨t, -1, -1, -1, []⟩, s)
    | (.ok (.announced result), s) =>
      let (peers, pools) := result.intoCompact v4 s.pools
      (announceReply v4 ⟨t, result.interval.toInt32, result.incomplete.toInt32,
        result.complete.toInt32, peers.bytes⟩, { s with pools := pools })

def counts (e : ScrapeEntry) : ScrapeCounts :=
  ⟨e.complete.toInt32, e.downloaded, e.incomplete.toInt32⟩

def handleScrape (r : ScrapeRequest) (s : State) : Response × State :=
  match scrape s (r.hashes.map (·.bytes)) with
  | (.ok entries, s) => (.scrape r.transactionId (entries.map counts), s)
  | (.error e, s) => (.error r.transactionId e.publicText, s)

def handleConnect (rules : Rules) (remote : Net.Endpoint) (transactionId : Int32)
    (now : Int64) (s : State) : Response × State :=
  (.connect transactionId (rules.key.issue remote now), s.count .connects 1)

/-- Goes on only with an id that was issued to the sender. -/
def verified (rules : Rules) (remote : Net.Endpoint) (id : Int64) (now : Int64)
    (transactionId : Int32) (s : State) (next : Response × State) : Response × State :=
  if rules.key.verify id remote now then next else refuse transactionId "bad connid" s

/-- Answers a datagram, if it is to be answered. -/
def handle (rules : Rules) (remote : Net.Endpoint) (usePayloadIp : Bool) (now : Int64)
    (datagram : Bytes) (s : State) : Option Response × State :=
  let answer (r : Response × State) : Option Response × State := (some r.1, r.2)
  match Request.decode datagram with
  | .ok (.connect t) => answer (handleConnect rules remote t now s)
  | .ok (.announce r) =>
    answer <| verified rules remote r.connectionId now r.transactionId s
      (handleAnnounce rules remote r usePayloadIp now s)
  | .ok (.scrape r) =>
    answer <| verified rules remote r.connectionId now r.transactionId s (handleScrape r s)
  | .error (.sendable id t fault) =>
    answer <| verified rules remote id now t s (refuse t fault.text s)
  | .error (.unsendable _) => (none, s)

/-- Parks the peers of a reply that was sent. -/
def Response.recycle (r : Response) (pools : Pools) : Pools :=
  match r with
  | .announce4 a => pools.putList4 ⟨a.peers, a.peers.length⟩
  | .announce6 a => pools.putList6 ⟨a.peers, a.peers.length⟩
  | _ => pools

/-- Writes a reply by way of a pooled buffer, then parks that and the reply. -/
def Response.send (r : Response) (s : State) : Bytes × State :=
  let (buffer, pools) := s.pools.getEncoder
  let written := buffer.append r.encode
  (written.bytes, { s with pools := r.recycle (pools.putEncoder written) })

end PeerTracker.Udp
