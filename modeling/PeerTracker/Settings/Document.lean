import PeerTracker.Settings
import PeerTracker.Text.Utf8
import PeerTracker.Toml.Parser
import PeerTracker.Toml.Printer

/-!
# Settings as a document

Settings are read from a TOML document and written as one. Every field has to be
there with a fitting type, except that trust in carried addresses may be left
out; further fields are passed over. A table may also stand as an array of its
fields in order.
-/

namespace PeerTracker.Settings

open Toml

/-! ## Writing -/

def natValue (n : Nat) : Value := .integer n

def trackerEntries (t : TrackerSettings) : Entries := [
  ("announce_interval", natValue t.announceInterval.toNat),
  ("announce_fuzz", natValue t.announceFuzz.toNat),
  ("numwant_default", natValue t.numwantDefault.toNat),
  ("numwant_limit", natValue t.numwantLimit.toNat),
  ("peers_timeout", natValue t.peersTimeout.toNat),
  ("peers_cleanup_interval", natValue t.peersCleanupInterval.toNat),
  ("min_leechers", natValue t.minLeechers.toNat),
  ("fast_mode", .boolean t.fastMode),
  ("baseline_providers", .array (t.baselineProviders.map .string))]

def udpEntries (u : UdpSettings) : Entries := [
  ("enabled", .boolean u.enabled),
  ("bind_address", .string u.bindAddress),
  ("udp_threads", natValue u.udpThreads.toNat),
  ("worker_threads", natValue u.workerThreads.toNat),
  ("queue_size", natValue u.queueSize.toNat),
  ("receive_buffer_size", natValue u.receiveBufferSize.toNat),
  ("send_buffer_size", natValue u.sendBufferSize.toNat),
  ("reuse_address", .boolean u.reuseAddress),
  ("connection_id_lifetime", natValue u.connectionIdLifetime.toNat),
  ("use_payload_ip", .boolean u.usePayloadIp)]

def httpEntries (h : HttpSettings) : Entries := [
  ("enabled", .boolean h.enabled),
  ("bind_address", .string h.bindAddress),
  ("threads", natValue h.threads.toNat),
  ("keep_alive", natValue h.keepAlive.toNat),
  ("request_timeout", natValue h.requestTimeout.toNat),
  ("disconnect_timeout", natValue h.disconnectTimeout.toNat),
  ("real_ip", .string h.realIp)]

def backupEntries (b : BackupSettings) : Entries := [
  ("enabled", .boolean b.enabled),
  ("path", .string b.path),
  ("interval", natValue b.interval.toNat),
  ("save_on_shutdown", .boolean b.saveOnShutdown)]

def entries (s : Settings) : Entries := [
  ("log_level", .string s.logLevel),
  ("tracker_config", .table .defined (trackerEntries s.tracker)),
  ("udp_server", .tables (s.udp.map udpEntries)),
  ("http_server", .tables (s.http.map httpEntries)),
  ("backup", .table .defined (backupEntries s.backup))]

def toText (s : Settings) : String := documentText s.entries

/-! ## Reading -/

/-- Where the fields of a structure are found. -/
inductive Source where
  | byName (es : Entries)
  | inOrder (items : List Value)

def Source.ofValue? : Value → Option Source
  | .table _ es => some (.byName es)
  | .array items => some (.inOrder items)
  | .tables elements => some (.inOrder (elements.map (.table .defined)))
  | _ => none

/-- The field with this name, the `index`-th. -/
def Source.field? (s : Source) (index : Nat) (name : String) : Option Value :=
  match s with
  | byName es => es.get? name
  | inOrder items => items[index]?

def string? : Value → Option String
  | .string s => some s
  | _ => none

def boolean? : Value → Option Bool
  | .boolean b => some b
  | _ => none

def word64? : Value → Option UInt64
  | .integer i => if 0 ≤ i ∧ i < UInt64.size then some (UInt64.ofNat i.toNat) else none
  | _ => none

def word32? : Value → Option UInt32
  | .integer i => if 0 ≤ i ∧ i < UInt32.size then some (UInt32.ofNat i.toNat) else none
  | _ => none

/-- The items of an array, or the tables of a list as values. -/
def list? : Value → Option (List Value)
  | .array items => some items
  | .tables elements => some (elements.map (.table .defined))
  | _ => none

def trackerOfSource? (s : Source) : Option TrackerSettings := do
  pure {
    announceInterval := ← (s.field? 0 "announce_interval").bind word64?
    announceFuzz := ← (s.field? 1 "announce_fuzz").bind word64?
    numwantDefault := ← (s.field? 2 "numwant_default").bind word32?
    numwantLimit := ← (s.field? 3 "numwant_limit").bind word32?
    peersTimeout := ← (s.field? 4 "peers_timeout").bind word64?
    peersCleanupInterval := ← (s.field? 5 "peers_cleanup_interval").bind word64?
    minLeechers := ← (s.field? 6 "min_leechers").bind word32?
    fastMode := ← (s.field? 7 "fast_mode").bind boolean?
    baselineProviders :=
      ← ((s.field? 8 "baseline_providers").bind list?).bind fun vs => vs.mapM string? }

def udpOfSource? (s : Source) : Option UdpSettings := do
  pure {
    enabled := ← (s.field? 0 "enabled").bind boolean?
    bindAddress := ← (s.field? 1 "bind_address").bind string?
    udpThreads := ← (s.field? 2 "udp_threads").bind word64?
    workerThreads := ← (s.field? 3 "worker_threads").bind word64?
    queueSize := ← (s.field? 4 "queue_size").bind word64?
    receiveBufferSize := ← (s.field? 5 "receive_buffer_size").bind word64?
    sendBufferSize := ← (s.field? 6 "send_buffer_size").bind word64?
    reuseAddress := ← (s.field? 7 "reuse_address").bind boolean?
    connectionIdLifetime := ← (s.field? 8 "connection_id_lifetime").bind word64?
    usePayloadIp := ← match s.field? 9 "use_payload_ip" with
      | none => some false
      | some v => boolean? v }

def httpOfSource? (s : Source) : Option HttpSettings := do
  pure {
    enabled := ← (s.field? 0 "enabled").bind boolean?
    bindAddress := ← (s.field? 1 "bind_address").bind string?
    threads := ← (s.field? 2 "threads").bind word64?
    keepAlive := ← (s.field? 3 "keep_alive").bind word64?
    requestTimeout := ← (s.field? 4 "request_timeout").bind word64?
    disconnectTimeout := ← (s.field? 5 "disconnect_timeout").bind word64?
    realIp := ← (s.field? 6 "real_ip").bind string? }

def backupOfSource? (s : Source) : Option BackupSettings := do
  pure {
    enabled := ← (s.field? 0 "enabled").bind boolean?
    path := ← (s.field? 1 "path").bind string?
    interval := ← (s.field? 2 "interval").bind word64?
    saveOnShutdown := ← (s.field? 3 "save_on_shutdown").bind boolean? }

def ofSource? (s : Source) : Option Settings := do
  let sub (index : Nat) (name : String) := (s.field? index name).bind Source.ofValue?
  let all (index : Nat) (name : String) := (s.field? index name).bind list?
  pure {
    logLevel := ← (s.field? 0 "log_level").bind string?
    tracker := ← (sub 1 "tracker_config").bind trackerOfSource?
    udp := ← (all 2 "udp_server").bind fun vs =>
      vs.mapM fun v => (Source.ofValue? v).bind udpOfSource?
    http := ← (all 3 "http_server").bind fun vs =>
      vs.mapM fun v => (Source.ofValue? v).bind httpOfSource?
    backup := ← (sub 4 "backup").bind backupOfSource? }

def ofEntries? (es : Entries) : Option Settings := ofSource? (.byName es)

/-- Reads settings from the octets of a file. -/
def ofBytes? (bs : Bytes) : Option Settings :=
  (Toml.parse? (Utf8.lossy bs)).bind ofEntries?

end PeerTracker.Settings
