import PeerTracker.Digest.Sha1
import PeerTracker.Net.Address

/-!
# Connection ids

A connection id proves that a sender receives at its address. It is the front of
a digest over a secret, the time bucket, and the canonical endpoint, so nothing
has to be remembered. An id is good in the bucket it was issued in and in the
next.
-/

namespace PeerTracker.Udp

/-- The secret and the length of a time bucket in seconds. -/
structure ConnectionKey where
  secret : Bytes
  lifetime : Nat
  lifetime_pos : 0 < lifetime

namespace ConnectionKey

/-- A configured lifetime of zero acts as one second. -/
def ofLifetime (secret : Bytes) (configured : UInt64) : ConnectionKey :=
  ⟨secret, max configured.toNat 1, by omega⟩

/-- Times before the epoch count as the epoch. -/
def bucket (key : ConnectionKey) (now : Int64) : Nat :=
  now.toInt.toNat / key.lifetime

/-- What is digested after the secret. -/
def claim (remote : Net.Endpoint) (bucket : Nat) : Bytes :=
  BigEndian.encode 8 bucket ++ remote.ip.canonical.octets
    ++ BigEndian.encode 2 remote.port.toNat

def derive (key : ConnectionKey) (remote : Net.Endpoint) (bucket : Nat) : Int64 :=
  let digest := Sha1.digest (key.secret ++ claim remote bucket)
  (UInt64.ofNat (BigEndian.decode (digest.take 8))).toInt64

def issue (key : ConnectionKey) (remote : Net.Endpoint) (now : Int64) : Int64 :=
  key.derive remote (key.bucket now)

def verify (key : ConnectionKey) (id : Int64) (remote : Net.Endpoint) (now : Int64) : Bool :=
  let b := key.bucket now
  id == key.derive remote b || (0 < b && id == key.derive remote (b - 1))

/-- The key without its secret. -/
def describe (key : ConnectionKey) : String :=
  "ConnectionIdManager \x7b lifetime: " ++ toString key.lifetime ++ ", .. \x7d"

end ConnectionKey

end PeerTracker.Udp
