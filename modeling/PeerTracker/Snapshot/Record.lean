import PeerTracker.Peer
import PeerTracker.Snapshot.Lz4
import PeerTracker.Snapshot.MessagePack

/-!
# Snapshots

A snapshot lists swarms with their peers and providers. Counters are not in it.
In bytes it is a compressed MessagePack array; a record is an array of its fields
in order, and a map from field names is taken too.
-/

namespace PeerTracker.Snapshot

structure PeerRecord where
  id : PeerId
  ip : Net.IpAddr
  port : UInt16
  complete : Bool
  lastSeen : Int64
  uploaded : UInt64
  downloaded : UInt64
deriving DecidableEq

structure SwarmRecord where
  hash : InfoHash
  peers : List PeerRecord
  providers : List PeerRecord
deriving DecidableEq

namespace PeerRecord

def ofPeer (id : PeerId) (p : Peer) : PeerRecord :=
  ⟨id, p.ip, p.port, p.complete, p.lastSeen, p.uploaded, p.downloaded⟩

/-- The record as a peer of a swarm that was just loaded. -/
def toPeer (r : PeerRecord) : Peer :=
  ⟨r.ip, r.port, r.complete, r.lastSeen, r.uploaded, r.downloaded, 0⟩

end PeerRecord

/-! ## As MessagePack -/

def identifierValue (i : Identifier) : MessagePack := .str (ascii i.toText)

/-- An address is a map from its family to its octets. -/
def ipValue (ip : Net.IpAddr) : MessagePack :=
  .map [(.str (ascii (if ip.isV4 then "V4" else "V6")),
    .array (ip.octets.map fun b => .int b.toNat))]

def PeerRecord.value (r : PeerRecord) : MessagePack :=
  .array [identifierValue r.id, ipValue r.ip, .int r.port.toNat, .bool r.complete,
    .int r.lastSeen.toInt, .int r.uploaded.toNat, .int r.downloaded.toNat]

def SwarmRecord.value (r : SwarmRecord) : MessagePack :=
  .array [identifierValue r.hash, .array (r.peers.map PeerRecord.value),
    .array (r.providers.map PeerRecord.value)]

/-! ## From MessagePack -/

def identifier? : MessagePack → Option Identifier
  | .str octets => (Hex.decode 20 octets).toOption.bind Identifier.ofBytes?
  | _ => none

def natBelow? (bound : Nat) : MessagePack → Option Nat
  | .int i => if 0 ≤ i ∧ i < bound then some i.toNat else none
  | _ => none

def int64? : MessagePack → Option Int64
  | .int i => if Int64.minValue.toInt ≤ i ∧ i ≤ Int64.maxValue.toInt then some (Int64.ofInt i) else none
  | _ => none

def bool? : MessagePack → Option Bool
  | .bool b => some b
  | _ => none

/-- The parts of an array; binary data counts as an array of octets. -/
def items? : MessagePack → Option (List MessagePack)
  | .array items => some items
  | .bin octets => some (octets.map fun b => .int b.toNat)
  | _ => none

/-- `n` octets: an array of just as many, or binary data of at least as many. -/
def octets? (n : Nat) : MessagePack → Option Bytes
  | .array items =>
    if items.length = n then (items.mapM (natBelow? 256)).map (·.map UInt8.ofNat) else none
  | .bin octets => if n ≤ octets.length then some (octets.take n) else none
  | _ => none

/-- Pairs of octets as groups. -/
def groups : Bytes → List UInt16
  | hi :: lo :: rest => UInt16.ofNat (hi.toNat * 256 + lo.toNat) :: groups rest
  | _ => []

/-- A name in a map, which may also stand as its number. -/
def names (index : Nat) (name : String) : MessagePack → Bool
  | .str octets => octets = ascii name
  | .bin octets => octets = ascii name
  | .int i => i = index
  | _ => false

def ip? : MessagePack → Option Net.IpAddr
  | .map [(family, value)] =>
    if names 0 "V4" family then ((octets? 4 value).bind Net.Ipv4.ofOctets?).map .v4
    else if names 1 "V6" family then
      ((octets? 16 value).bind fun bs => Net.Ipv6.ofGroups? (groups bs)).map .v6
    else none
  | _ => none

/-- Whether a value can be the name of a field at all. -/
def isName : MessagePack → Bool
  | .str _ => true
  | .bin _ => true
  | .int i => 0 ≤ i
  | _ => false

/-- The values of the named fields, in the order of the names: an array of just
these, or a map that has each of them once. -/
def fields? (fieldNames : List String) : MessagePack → Option (List MessagePack)
  | .array items => if items.length = fieldNames.length then some items else none
  | .map entries =>
    if entries.all fun e => isName e.1 then
      fieldNames.zipIdx.mapM fun (name, index) =>
        match entries.filter fun e => names index name e.1 with
        | [e] => some e.2
        | _ => none
    else none
  | _ => none

def PeerRecord.ofValue? (v : MessagePack) : Option PeerRecord := do
  let [id, ip, port, complete, lastSeen, uploaded, downloaded] ← fields?
      ["peer_id", "ip", "port", "complete", "last_seen", "uploaded", "downloaded"] v
    | none
  pure {
    id := ← identifier? id
    ip := ← ip? ip
    port := UInt16.ofNat (← natBelow? UInt16.size port)
    complete := ← bool? complete
    lastSeen := ← int64? lastSeen
    uploaded := UInt64.ofNat (← natBelow? UInt64.size uploaded)
    downloaded := UInt64.ofNat (← natBelow? UInt64.size downloaded) }

def SwarmRecord.ofValue? (v : MessagePack) : Option SwarmRecord := do
  let [hash, peers, providers] ← fields? ["info_hash", "peers", "baseline_providers"] v
    | none
  pure {
    hash := ← identifier? hash
    peers := ← (← items? peers).mapM PeerRecord.ofValue?
    providers := ← (← items? providers).mapM PeerRecord.ofValue? }

/-! ## As bytes -/

/-- The MessagePack form of a snapshot. -/
def pack (records : List SwarmRecord) : Bytes :=
  (MessagePack.array (records.map SwarmRecord.value)).encode

def unpack (bs : Bytes) : Option (List SwarmRecord) := do
  let v ← MessagePack.decode bs
  (← items? v).mapM SwarmRecord.ofValue?

inductive Error where
  | compression (cause : Lz4.Error)
  | decode
deriving DecidableEq, Repr

def encode (records : List SwarmRecord) : Bytes := Lz4.compress (pack records)

def decode (bs : Bytes) : Except Error (List SwarmRecord) :=
  match Lz4.decompress bs with
  | .error e => .error (.compression e)
  | .ok packed =>
    match unpack packed with
    | none => .error .decode
    | some records => .ok records

end PeerTracker.Snapshot
