import PeerTracker.Backup
import PeerTracker.CommandLine
import PeerTracker.Expiry
import PeerTracker.Http.Handler
import PeerTracker.Udp.Queue

/-!
# What a running tracker says

The remarks of a running tracker, with the part of it that makes each. Whether something
is worth a remark is decided here, and when a remark is made is a matter of `Program`.

Not all that is said for the curious is kept: that a peer looks like a bad actor shows in its
counter only, and a restored swarm takes the place of another one without a word. Nothing is
said of failures of the services either, since they have none.
-/

namespace PeerTracker.Journal

open Log (Entry)

/-! ## Times -/

/-- The decimal places of `part` out of `10 ^ width`, without zeros at the end. -/
def places (width part : Nat) : String :=
  let digits := ((Log.padded width part).toList.reverse.dropWhile (· = '0')).reverse
  if digits = [] then "" else "." ++ String.ofList digits

/-- A span of time in the largest unit that it fills. -/
def elapsed (nanoseconds : Nat) : String :=
  if Log.perSecond ≤ nanoseconds then
    toString (nanoseconds / Log.perSecond) ++ places 9 (nanoseconds % Log.perSecond) ++ "s"
  else if 1000000 ≤ nanoseconds then
    toString (nanoseconds / 1000000) ++ places 6 (nanoseconds % 1000000) ++ "ms"
  else if 1000 ≤ nanoseconds then
    toString (nanoseconds / 1000) ++ places 3 (nanoseconds % 1000) ++ "µs"
  else toString nanoseconds ++ "ns"

/-! ## Starting and stopping -/

def logging : Entry := ⟨.info, "swarm_tracker::common::common", "logging initialized."⟩

section Main

/-- Said by the program itself. -/
def main (severity : Log.Severity) (message : String) : Entry := ⟨severity, "swarm_tracker", message⟩

def version : Entry :=
  main .info s!"{CommandLine.programName} - Version: {CommandLine.version}"

def startingEmpty (target error : String) : Entry :=
  main .warn s!"[BACKUP] Could not restore from {target}, starting empty: {error}"

def startingExpiry (interval : Nat) : Entry :=
  main .info s!"[BOOT] Starting expiry every {interval} seconds..."

def badHttpAddress (address error : String) : Entry :=
  main .error s!"[HTTP] Invalid bind address {address}: {error}"

def httpUnbound (address error : String) : Entry :=
  main .error s!"[HTTP] Unable to bind to {address}: {error}"

def httpStopped (error : String) : Entry :=
  main .error s!"[HTTP] Server stopped with an error: {error}"

def udpUnbound (address error : String) : Entry :=
  main .error s!"[UDP] Unable to bind to {address}: {error}"

def noInterrupt (error : String) : Entry :=
  main .error s!"[BOOT] Unable to listen for the shutdown signal: {error}"

def stopping : Entry := main .info "Shutdown request received, shutting down..."

def udpStopFailed (error : String) : Entry :=
  main .error s!"Errors happened on shutting down UDP sockets: {error}"

def savingLast : Entry := main .info "Saving final snapshot..."

def lastSaveFailed (error : String) : Entry := main .error s!"[BACKUP] Final save failed: {error}"

def stopped : Entry := main .info "Server shutting down completed"

end Main

/-! ## Sweeps -/

section Expiry

def expiry (message : String) : Entry :=
  ⟨.info, "swarm_tracker::tracker::impls::expiry_manager", "[EXPIRY] " ++ message⟩

def sweeping (rules : Rules) : Entry :=
  expiry s!"Sweeping every {rules.cleanupInterval} seconds, peer timeout {rules.timeout} seconds"

/-- A sweep is worth a remark if it removed peers or swarms; providers alone are not. -/
def swept (t : Trimmed) : Option Entry :=
  if 0 < t.peers ∨ 0 < t.hashes then
    some (expiry
      s!"Removed {t.peers} peers, {t.providers} baseline providers and {t.hashes} hashes")
  else none

def expiryStopped : Entry := expiry "Shutting down"

end Expiry

/-! ## Snapshots -/

section Backup

def backup (severity : Log.Severity) (message : String) : Entry :=
  ⟨severity, "swarm_tracker::backup::backup", "[BACKUP] " ++ message⟩

def noSnapshot (b : Backup) : Entry := backup .info s!"No snapshot found at {b.describe}"

/-- A snapshot of so many octets was restored. -/
def restored (b : Backup) (peers hashes size nanoseconds : Nat) : Entry :=
  backup .info (s!"Restored {peers} peers in {hashes} hashes from {b.describe} "
    ++ s!"({size} bytes, {elapsed nanoseconds})")

def saved (b : Backup) (size nanoseconds : Nat) : Entry :=
  backup .info s!"Saved {size} bytes to {b.describe} in {elapsed nanoseconds}"

def savingEvery (b : Backup) (interval : Nat) : Entry :=
  backup .info s!"Saving to {b.describe} every {interval} seconds"

def saveFailed (error : String) : Entry := backup .error s!"Periodic save failed: {error}"

def backupStopped : Entry := backup .info "Shutting down"

end Backup

/-! ## Web requests -/

section Http

def http (severity : Log.Severity) (message : String) : Entry :=
  ⟨severity, "swarm_tracker::http::http", "[HTTP] " ++ message⟩

def httpStarting (address : Net.Endpoint) : Entry :=
  http .info s!"Starting server listener on {address.toText}"

/-- Scrapes and requests for what is not there, from clients whose address is known. -/
def requested (realIp : String) (r : Http.Request) : Option Entry :=
  (r.clientIp? realIp).bind fun ip =>
    match Http.route r.path with
    | .scrape =>
      if r.method = "GET" then some (http .debug s!"Request from {ip.toText}: Scrape") else none
    | .unknown => some (http .debug s!"Request from {ip.toText}: 404 Not Found")
    | _ => none

end Http

/-! ## Datagrams -/

section Udp

def udpServer (severity : Log.Severity) (message : String) : Entry :=
  ⟨severity, "swarm_tracker::udp::impls::udp_server", "[UDP] " ++ message⟩

def parsePool (message : String) : Entry :=
  ⟨.info, "swarm_tracker::udp::impls::parse_pool", "[UDP] " ++ message⟩

def bufferNotSet (name : String) (address : Net.Endpoint) (error : String) : Entry :=
  udpServer .warn s!"Could not set {name} buffer size on {address.toText}: {error}"

def buffers (address : Net.Endpoint) (received sent : Nat) : Entry :=
  udpServer .info
    s!"Socket {address.toText} buffers - Recv: {received} bytes, Send: {sent} bytes"

def udpStarting (u : UdpSettings) (address : Net.Endpoint) (rules : Rules) : Entry :=
  ⟨.info, "swarm_tracker::udp::udp",
    s!"[UDP] Starting a server listener on {address.toText} with {u.udpThreads} UDP threads and "
      ++ s!"{u.workerThreads} worker threads, connection ids valid for {rules.key.lifetime}s"⟩

def workerStarted (i : Nat) : Entry := parsePool s!"Start Parse Pool thread {i}..."

def workerStopped (i : Nat) : Entry := parsePool s!"Shutting down the Parse Pool thread {i}..."

def receiverStopped (i : Nat) : Entry := udpServer .info s!"Stopping receive thread {i}..."

def notReceived (i : Nat) (error : String) : Entry :=
  udpServer .debug s!"Receive thread {i} recv_from error: {error}"

/-- A packet that gets no answer is worth a remark. -/
def unanswered (p : Udp.Packet) : Option Entry :=
  match Udp.Request.decode p.octets with
  | .error (.unsendable fault) =>
    some (udpServer .debug s!"Dropping packet from {p.sender.toText}: {fault.text}")
  | _ => none

def notSent (remote : Net.Endpoint) (size : Nat) (error : String) : Entry :=
  udpServer .debug s!"Could not send {size} bytes to {remote.toText}: {error}"

end Udp

end PeerTracker.Journal
