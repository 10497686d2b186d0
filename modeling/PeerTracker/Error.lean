import PeerTracker.Stats

/-!
# Refusals

Why a service refuses a request. A client may read the wording of its own
mistakes; of any other failure it learns only that there was one.
-/

namespace PeerTracker

inductive Refusal where
  | badHash
  | badPeerId
  | badPort
  | badNumwant
  | tooManyHashes
  /-- Some other mistake of a client. -/
  | client (text : String)
  /-- A failure that is not the client's. -/
  | server (text : String)
deriving DecidableEq, Repr

namespace Refusal

def text : Refusal → String
  | badHash => "bad hash"
  | badPeerId => "bad peerid"
  | badPort => "bad port"
  | badNumwant => "bad numwant"
  | tooManyHashes => "74 hashes max"
  | client text => text
  | server text => text

def isClient : Refusal → Bool
  | server _ => false
  | _ => true

def publicText (r : Refusal) : String := if r.isClient then r.text else "internal err"

/-- The counter that counts it. -/
def counter (r : Refusal) : Counter := if r.isClient then .clientErrors else .serverErrors

end Refusal

end PeerTracker
