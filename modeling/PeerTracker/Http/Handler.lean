import PeerTracker.Http.Body
import PeerTracker.Http.Report
import PeerTracker.Http.Request

/-!
# Handling web requests

`/announce`, `/scrape` and `/stats` answer GET requests; any other path is
unknown. A refusal is a dictionary with its reason under a status of success,
since clients read the body only. The client's address is checked before the
query string is read.
-/

namespace PeerTracker.Http

structure Reply where
  status : Nat
  /-- None goes with an empty body that says nothing but its status. -/
  contentType : Option String
  body : Bytes
deriving DecidableEq, Repr

def plainText : String := "text/plain; charset=utf-8"

def plain (body : Bytes) : Reply := ⟨200, some plainText, body⟩

def failure (reason : String) : Reply := plain (failureBody reason)

/-- A refusal that the services did not count. -/
def refuse (reason : String) (s : State) : Reply × State :=
  (failure reason, s.count .clientErrors 1)

/-! ## Announcing -/

/-- A number where an absent, an empty and an unreadable one are alike. -/
def number (q : Query) (key : String) (reader : Bytes → Option α) : Option α :=
  (q.number? key reader).join

/-- What a query string announces; a number of wanted peers that cannot be read
is as bad as a negative one. -/
def announcement (q : Query) (ip : Net.IpAddr) : Announcement where
  infoHash := (q.value? "info_hash").getD []
  peerId := (q.value? "peer_id").getD []
  port := (number q "port" Decimal.readInt64?).getD 0
  event := .ofWord ((q.value? "event").getD [])
  wanted := (q.number? "numwant" Decimal.readInt64?).map (·.getD (-1))
  uploaded := (number q "uploaded" Decimal.readUInt64?).getD 0
  downloaded := (number q "downloaded" Decimal.readUInt64?).getD 0
  left := number q "left" Decimal.readUInt64?
  compact := q.flag "compact"
  noPeerId := q.flag "no_peer_id"
  ip := ip

def handleAnnounce (rules : Rules) (q : Query) (ip : Net.IpAddr) (now : Int64) (s : State) :
    Reply × State :=
  match announce rules (announcement q ip) now s with
  | (.error e, s) => (failure e.publicText, s)
  | (.ok .stopped, s) => (plain [], s)
  | (.ok (.announced result), s) =>
    (plain (announceBody result), { s with pools := result.recycle s.pools })

/-! ## Scraping -/

def handleScrape (q : Query) (s : State) : Reply × State :=
  match (q.get? "info_hash").getD [] with
  | [] => refuse "no infohashes" s
  | hashes =>
    match scrape s hashes with
    | (.error e, s) => (failure e.publicText, s)
    | (.ok entries, s) => (plain (scrapeBody hashes entries), s)

/-! ## Routes -/

inductive Route where
  | announce
  | scrape
  | stats
  | unknown
deriving DecidableEq, Repr

/-- The route of a path. -/
def route (path : Bytes) : Route :=
  if path = ascii "/announce" then .announce
  else if path = ascii "/scrape" then .scrape
  else if path = ascii "/stats" then .stats
  else .unknown

/-- Reads the query string for a handler. -/
def withQuery (r : Request) (s : State) (handler : Query → Reply × State) : Reply × State :=
  match Query.parse r.query with
  | .error e => refuse e.message s
  | .ok q => handler q

def serve (rules : Rules) (r : Request) (ip : Net.IpAddr) (now : Int64) (s : State) :
    Route → Reply × State
  | .announce => withQuery r s fun q => handleAnnounce rules q ip now s
  | .scrape => withQuery r s fun q => handleScrape q s
  | .stats => (⟨200, some "application/json", reportBody s⟩, s)
  | .unknown => (⟨404, some plainText, failureBody "unknown request"⟩, s)

/-- Answers a request; `realIp` names the header that carries the client's
address, or is empty. -/
def handle (rules : Rules) (realIp : String) (r : Request) (now : Int64) (s : State) :
    Reply × State :=
  let target := route r.path
  if target ≠ .unknown ∧ r.method ≠ "GET" then (⟨405, none, []⟩, s)
  else match r.clientIp? realIp with
    | none => refuse "unknown origin ip" s
    | some ip => serve rules r ip now s target

end PeerTracker.Http
