import PeerTracker.Net.AddressText

/-!
# Settings

What an operator configures. `Settings.check` says what is wrong with settings,
the first fault in a fixed order; disabled listeners are not looked at.
-/

namespace PeerTracker

structure TrackerSettings where
  announceInterval : UInt64 := 1800
  /-- Upper bound of the random seconds added to the interval. -/
  announceFuzz : UInt64 := 300
  numwantDefault : UInt32 := 50
  numwantLimit : UInt32 := 100
  peersTimeout : UInt64 := 2700
  peersCleanupInterval : UInt64 := 300
  minLeechers : UInt32 := 2
  fastMode : Bool := false
  /-- Endpoints of trusted seeds. -/
  baselineProviders : List String := []
deriving DecidableEq, Repr, Inhabited

structure UdpSettings where
  enabled : Bool := true
  bindAddress : String := "0.0.0.0:6969"
  udpThreads : UInt64 := 1
  workerThreads : UInt64 := 1
  queueSize : UInt64 := 65536
  receiveBufferSize : UInt64 := 4194304
  sendBufferSize : UInt64 := 4194304
  reuseAddress : Bool := true
  /-- Seconds a connection id stays valid, at most twice this in practice. -/
  connectionIdLifetime : UInt64 := 120
  /-- Trusts the address that an announce carries. -/
  usePayloadIp : Bool := false
deriving DecidableEq, Repr, Inhabited

structure HttpSettings where
  enabled : Bool := true
  bindAddress : String := "0.0.0.0:6969"
  threads : UInt64 := 1
  keepAlive : UInt64 := 60
  requestTimeout : UInt64 := 15
  disconnectTimeout : UInt64 := 15
  /-- The header that carries the client's address behind a proxy, or nothing. -/
  realIp : String := ""
deriving DecidableEq, Repr, Inhabited

structure BackupSettings where
  enabled : Bool := false
  path : String := "swarm-tracker.snapshot"
  /-- Seconds between snapshots; zero saves only at the end. -/
  interval : UInt64 := 3600
  saveOnShutdown : Bool := true
deriving DecidableEq, Repr, Inhabited

structure Settings where
  logLevel : String := "info"
  tracker : TrackerSettings := {}
  udp : List UdpSettings := [{}]
  http : List HttpSettings := [{}]
  backup : BackupSettings := {}
deriving DecidableEq, Repr, Inhabited

/-- What can be wrong with settings that were read. -/
inductive SettingsError where
  | zeroNumwantLimit
  | defaultAboveLimit
  | zeroTimeout
  | zeroCleanupInterval
  | badAddress (name value : String)
  | zeroLifetime
  | differentLifetimes
  | emptyBackupPath
  | unknownLogLevel (level : String)
  | loggingAlreadySet
deriving DecidableEq, Repr

namespace SettingsError

def message : SettingsError → String
  | zeroNumwantLimit => "invalid value: numwant_limit must be at least 1"
  | defaultAboveLimit => "invalid value: numwant_default exceeds numwant_limit"
  | zeroTimeout => "invalid value: peers_timeout must be positive"
  | zeroCleanupInterval => "invalid value: peers_cleanup_interval must be positive"
  | badAddress name value =>
    "invalid value: " ++ name ++ " \"" ++ value ++ "\" is not an ip:port pair"
  | zeroLifetime => "invalid value: [UDP] connection_id_lifetime must be positive"
  | differentLifetimes =>
    "invalid value: [UDP] connection_id_lifetime must be the same on every listener"
  | emptyBackupPath => "invalid value: [BACKUP] path is empty"
  | unknownLogLevel level => "unknown log level '" ++ level ++ "'"
  | loggingAlreadySet =>
    "invalid value: logging: attempted to set a logger after the logging system was already initialized"

end SettingsError

namespace Settings

def checkAddress (name value : String) : Except SettingsError Net.Endpoint :=
  match Net.Endpoint.ofText? value with
  | some e => .ok e
  | none => .error (.badAddress name value)

def checkProviders : List String → Except SettingsError Unit
  | [] => .ok ()
  | p :: rest => do
    let _ ← checkAddress "baseline provider" p
    checkProviders rest

/-- Enabled listeners for datagrams, against the lifetime of the first. -/
def checkUdp (lifetime : Option UInt64) : List UdpSettings → Except SettingsError Unit
  | [] => .ok ()
  | u :: rest => do
    let _ ← checkAddress "[UDP] bind_address" u.bindAddress
    if u.connectionIdLifetime = 0 then throw .zeroLifetime
    else if lifetime.getD u.connectionIdLifetime ≠ u.connectionIdLifetime then
      throw .differentLifetimes
    else checkUdp (some (lifetime.getD u.connectionIdLifetime)) rest

def checkHttp : List HttpSettings → Except SettingsError Unit
  | [] => .ok ()
  | h :: rest => do
    let _ ← checkAddress "[HTTP] bind_address" h.bindAddress
    checkHttp rest

def check (s : Settings) : Except SettingsError Unit :=
  if s.tracker.numwantLimit < 1 then .error .zeroNumwantLimit
  else if s.tracker.numwantLimit < s.tracker.numwantDefault then .error .defaultAboveLimit
  else if s.tracker.peersTimeout = 0 then .error .zeroTimeout
  else if s.tracker.peersCleanupInterval = 0 then .error .zeroCleanupInterval
  else do
    checkProviders s.tracker.baselineProviders
    checkUdp none (s.udp.filter (·.enabled))
    checkHttp (s.http.filter (·.enabled))
    if s.backup.enabled && s.backup.path = "" then throw .emptyBackupPath

/-- The provider endpoints that can be read; the others are passed over. -/
def providers (s : Settings) : List Net.Endpoint :=
  s.tracker.baselineProviders.filterMap Net.Endpoint.ofText?

/-- The lifetime of connection ids when no listener sets it. -/
def defaultLifetime : UInt64 := 120

/-- The first enabled listener sets the lifetime of connection ids. -/
def connectionIdLifetime (s : Settings) : UInt64 :=
  match s.udp.find? (·.enabled) with
  | some u => u.connectionIdLifetime
  | none => defaultLifetime

end Settings

end PeerTracker
