import PeerTracker.Scrape

/-!
# Bodies of web replies

Replies are bencoded dictionaries. The peers of a verbose announce reply are
encoded already, so the dictionary is written around them: `peers` comes after
every other key and the hint before.
-/

namespace PeerTracker.Http

/-- The key of a hint at a baseline provider. -/
def hintKey : Bytes := ascii "baseline provider"

/-- The numbers of an announce reply, as dictionary entries. -/
def numbers (r : AnnounceResult) : List (Bytes × Bencode) := [
  (ascii "interval", .int r.interval.toInt),
  (ascii "complete", .int r.complete.toNat),
  (ascii "incomplete", .int r.incomplete.toNat)]

/-- A hint that goes with compact peers. -/
def compactHint (r : AnnounceResult) : List (Bytes × Bencode) :=
  match r.hint with
  | some (.compact b) => [(hintKey, .bytes b.bytes)]
  | _ => []

/-- An encoded dictionary with a hint that goes with verbose peers put in front of its
entries. -/
def spliceHint (r : AnnounceResult) (body : Bytes) : Bytes :=
  match r.hint with
  | some (.verbose entry) =>
    ascii "d" ++ Bencode.encodeBytes hintKey ++ entry ++ body.drop 1
  | _ => body

def compactBody (r : AnnounceResult) (v4 v6 : Bytes) : Bytes :=
  (Bencode.dictOf (numbers r ++ [(ascii "peers", .bytes v4), (ascii "peers6", .bytes v6)]
    ++ compactHint r)).encode

/-- The end of the dictionary of numbers makes room for the peers. -/
def verboseBody (r : AnnounceResult) (entries : List Bytes) : Bytes :=
  (spliceHint r (Bencode.dictOf (numbers r)).encode).dropLast
    ++ ascii "5:peersl" ++ entries.flatten ++ ascii "ee"

def announceBody (r : AnnounceResult) : Bytes :=
  match r.peers with
  | .compact v4 v6 => compactBody r v4.bytes v6.bytes
  | .verbose entries => verboseBody r entries

def scrapeEntry (e : ScrapeEntry) : Bencode :=
  .dictOf [(ascii "complete", .int e.complete.toNat), (ascii "downloaded", .int e.downloaded.toInt),
    (ascii "incomplete", .int e.incomplete.toNat)]

/-- The counters of each hash; of equal hashes one entry is left. -/
def scrapeBody (hashes : List Bytes) (entries : List ScrapeEntry) : Bytes :=
  (Bencode.dictOf [(ascii "files", .dictOf (hashes.zip (entries.map scrapeEntry)))]).encode

def failureBody (reason : String) : Bytes :=
  (Bencode.dictOf [(ascii "failure reason", .text reason)]).encode

end PeerTracker.Http
