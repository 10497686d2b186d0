import PeerTracker.Announce

/-!
# Scraping

A scrape asks for the counters of several swarms at once. It is answered in
request order, unknown swarms counting as empty, or refused as a whole.
-/

namespace PeerTracker

structure ScrapeEntry where
  complete : UInt32
  incomplete : UInt32
  /-- Finished downloads are not counted. -/
  downloaded : Int32
deriving DecidableEq, Repr

namespace Scrape

/-- The most hashes that a reply by datagram can carry. -/
def maxHashes : Nat := 74

def entry (s : State) (hash : InfoHash) : ScrapeEntry :=
  let (complete, incomplete) := Store.hashStats s hash
  ⟨complete, incomplete, -1⟩

def process (s : State) (hashes : List Bytes) : Except Refusal (List ScrapeEntry) :=
  if maxHashes < hashes.length then .error .tooManyHashes
  else hashes.mapM fun bs =>
    match Identifier.ofBytes? bs with
    | none => .error .badHash
    | some hash => .ok (entry s hash)

end Scrape

/-- Handles a scrape and counts it. -/
def scrape (s : State) (hashes : List Bytes) : Except Refusal (List ScrapeEntry) × State :=
  let s := s.count .scrapes 1
  let outcome := Scrape.process s hashes
  (outcome, s.countRefusal outcome)

end PeerTracker
