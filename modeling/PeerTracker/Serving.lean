import PeerTracker.Http.Wire
import PeerTracker.Journal
import Std.Async

/-!
# Serving

A running tracker: its listeners and timers, until it is interrupted. What to answer, what to keep
and what to say is decided elsewhere; here octets go in and out, clocks tick, and one lock keeps
the state of the tracker.

What the sockets of the library cannot do is left out. A listener for datagrams has one task that
receives, whatever its settings say; it cannot set the sizes of its buffers, which it says, or
whether its address is used again. A connection has neither time limits nor a thread of its own, and is cut
off when the tracker stops. Those that answer look for packets once a millisecond, and the log
tells universal time.
-/

namespace PeerTracker.Program

open Std Async

/-- What a running tracker shares between its listeners and timers. -/
structure Server where
  settings : Settings
  rules : Rules
  threshold : Log.Threshold
  state : Mutex State
  /-- Set once, when everything is to stop. -/
  stop : CancellationToken

def toBytes (bs : ByteArray) : Bytes := bs.toList

def ofBytes (bs : Bytes) : ByteArray := ⟨bs.toArray⟩

def nanoseconds : IO Nat := do
  let now ← Time.Timestamp.now
  return now.toNanosecondsSinceUnixEpoch.toInt.toNat

def seconds : IO Int64 := do
  return Int64.ofNat ((← nanoseconds) / Log.perSecond)

/-- An action with the time that it took. -/
def timed (action : IO α) : IO (α × Nat) := do
  let started ← IO.monoNanosNow
  let result ← action
  return (result, (← IO.monoNanosNow) - started)

/-- A failure of the machine in words. -/
def describe : IO.Error → String
  | .noFileOrDirectory .. => DiskError.notFound.message
  | .permissionDenied .. => "Permission denied (os error 13)"
  | e => toString e

/-- Two fresh numbers, more than one request ever draws. -/
def freshRandom : IO RandomSource := do
  let bs := toBytes (← IO.getRandomBytes 16)
  return .ofList [UInt64.ofNat (BigEndian.decode (bs.take 8)),
    UInt64.ofNat (BigEndian.decode (bs.drop 8))]

namespace Server

def backup (server : Server) : Backup := .ofSettings server.settings.backup

def say (server : Server) (remark : Log.Entry) : IO Unit := do
  if server.threshold.shows remark.severity then
    IO.print (Log.line (← nanoseconds) remark.severity remark.target remark.message)
    (← IO.getStdout).flush

/-- Makes a remark if there is one to make. -/
def sayIfAny (server : Server) (remark : Option Log.Entry) : IO Unit := remark.forM server.say

/-- Changes the state of the tracker by one request. -/
def update (server : Server) (change : State → α × State) : IO α := do
  let random ← freshRandom
  server.state.atomically (m := BaseIO) do
    let (answer, s) := change { (← get) with random := random }
    set s
    return answer

end Server

/-! ## Waiting -/

/-- The longest time that can be waited for, in milliseconds. -/
def longestPause : Nat := UInt64.size - 1

/-- Waits for a while; tells whether the tracker was stopped meanwhile. -/
def Server.pause (server : Server) (milliseconds : Nat) : Async Bool := do
  Selectable.one #[
    .case server.stop.selector fun _ => return true,
    .case (← Selector.sleep (.ofNat (min milliseconds longestPause))) fun _ => return false]

/-- Does a task each time that so many seconds have passed; the last remark is made when the tracker
is stopped. -/
partial def Server.every (server : Server) (interval : Nat) (task : IO Unit) (last : Log.Entry) :
    Async Unit := do
  if ← server.pause (interval * 1000) then server.say last
  else
    task
    server.every interval task last

/-! ## Addresses -/

def socketAddress (e : Net.Endpoint) : Std.Net.SocketAddress :=
  match e.ip with
  | .v4 x => .v4 ⟨⟨#v[x.a, x.b, x.c, x.d]⟩, e.port⟩
  | .v6 x => .v6 ⟨⟨#v[x.g0, x.g1, x.g2, x.g3, x.g4, x.g5, x.g6, x.g7]⟩, e.port⟩

def endpoint : Std.Net.SocketAddress → Net.Endpoint
  | .v4 a =>
    let o := a.addr.octets
    ⟨.v4 ⟨o[0], o[1], o[2], o[3]⟩, a.port, 0⟩
  | .v6 a =>
    let g := a.addr.segments
    ⟨.v6 ⟨g[0], g[1], g[2], g[3], g[4], g[5], g[6], g[7]⟩, a.port, 0⟩

/-- What is said of a text that is no address. -/
def notAnAddress : String := "invalid socket address syntax"

/-! ## Datagrams -/

/-- What is said of what the sockets of the library cannot do. -/
def notSupported : String := "Operation not supported (os error 95)"

/-- The most octets of one datagram that are looked at. A datagram over IPv4 has no more of them;
one over IPv6 may have 65,527, and what it has too many is cut off. -/
def datagramLimit : UInt64 := 65507

/-- A listener for datagrams. -/
structure UdpListener where
  server : Server
  settings : UdpSettings
  socket : UDP.Socket
  queue : Mutex Udp.PacketQueue

namespace UdpListener

/-- Puts a packet into the queue. -/
def receive (l : UdpListener) (p : Udp.Packet) : IO Unit :=
  l.server.state.atomically (m := BaseIO) do
    let s ← get
    let s ← l.queue.atomically (m := BaseIO) (modifyGet fun q => (Udp.receive p q s).swap)
    set s

/-- Takes some packets out of the queue. -/
def takeBatch (l : UdpListener) : IO (List Udp.Packet) :=
  l.queue.atomically (m := BaseIO) (modifyGet (·.takeBatch))

def answer (l : UdpListener) (now : Int64) (p : Udp.Packet) : Async Unit := do
  match ← l.server.update (Udp.serve l.server.rules l.settings.usePayloadIp now p) with
  | none => l.server.sayIfAny (Journal.unanswered p)
  | some written =>
    try l.socket.send (ofBytes written) (some (socketAddress p.sender))
    catch e => l.server.say (Journal.notSent p.sender written.length (describe e))

/-- One of those that receive. -/
partial def receiver (l : UdpListener) (i : Nat) : Async Unit := do
  let stopped ←
    try
      Selectable.one #[
        .case l.server.stop.selector fun _ => return true,
        .case (l.socket.recvSelector datagramLimit) fun (octets, sender) => do
          if let some sender := sender then l.receive ⟨endpoint sender, toBytes octets⟩
          return false]
    catch e => do
      l.server.say (Journal.notReceived i (describe e))
      pure false
  if stopped then l.server.say (Journal.receiverStopped i) else l.receiver i

/-- One of those that answer. -/
partial def worker (l : UdpListener) (i : Nat) : Async Unit := do
  sleep 1
  if ← l.server.stop.isCancelled then l.server.say (Journal.workerStopped i)
  else
    let batch ← l.takeBatch
    let now ← seconds
    for p in batch do l.answer now p
    l.worker i

/-- Sets the tasks of a listener going. -/
def start (l : UdpListener) : IO (List (AsyncTask Unit)) := do
  let workers ← (List.range (max l.settings.workerThreads.toNat 1)).mapM fun i => do
    l.server.say (Journal.workerStarted i)
    (l.worker i).toIO
  return (← (l.receiver 0).toIO) :: workers

end UdpListener

/-- Opens a listener for datagrams; if that fails, tells why. -/
def Server.listenUdp (server : Server) (u : UdpSettings) :
    IO (Except Log.Entry (List (AsyncTask Unit))) := do
  let some address := Net.Endpoint.ofText? u.bindAddress
    | return .error (Journal.udpUnbound u.bindAddress notAnAddress)
  try
    let socket ← UDP.Socket.mk
    for buffer in ["receive", "send"] do
      server.say (Journal.bufferNotSet buffer address notSupported)
    socket.bind (socketAddress address)
    -- sizes that nobody tells are given as zero
    server.say (Journal.buffers address 0 0)
    let queue ← Mutex.new (Udp.PacketQueue.ofSize u.queueSize.toNat)
    server.say (Journal.udpStarting u address server.rules)
    return .ok (← UdpListener.start ⟨server, u, socket, queue⟩)
  catch e => return .error (Journal.udpUnbound u.bindAddress (describe e))

/-! ## Web requests -/

/-- Collects a request's head from a connection. -/
partial def receiveHead (client : TCP.Socket.Client) (got : Bytes) : Async (Option Bytes) := do
  if let some head := Http.head? got then return some head
  if Http.headLimit < got.length then return none
  match ← client.recv? 8192 with
  | none => return none
  | some more => receiveHead client (got ++ toBytes more)

/-- Answers the request of a connection; a connection that fails is given up. -/
def Server.converse (server : Server) (h : HttpSettings) (client : TCP.Socket.Client) :
    Async Unit := do
  try
    let remote := endpoint (← client.getPeerName)
    let head ← receiveHead client []
    let reply ← match head.bind (Http.Request.ofHead? · remote) with
      | none => pure Http.Reply.badRequest
      | some request => do
        server.sayIfAny (Journal.requested h.realIp request)
        server.update (Http.handle server.rules h.realIp request (← seconds))
    client.send (ofBytes reply.encode)
    client.shutdown
  catch _ => pure ()

partial def Server.accept (server : Server) (h : HttpSettings) (listener : TCP.Socket.Server) :
    Async Unit := do
  let stopped ← Selectable.one #[
    .case server.stop.selector fun _ => return true,
    .case listener.acceptSelector fun client => do
      background (server.converse h client)
      return false]
  unless stopped do server.accept h listener

/-- How many connections may wait to be accepted. -/
def backlog : UInt32 := 1024

/-- Opens a listener for web requests; if that fails, tells why. -/
def Server.listenHttp (server : Server) (h : HttpSettings) : IO (Except Log.Entry Unit) := do
  let some address := Net.Endpoint.ofText? h.bindAddress
    | return .error (Journal.badHttpAddress h.bindAddress notAnAddress)
  server.say (Journal.httpStarting address)
  try
    let listener ← TCP.Socket.Server.mk
    listener.bind (socketAddress address)
    listener.listen backlog
    let serving : Async Unit := do
      try server.accept h listener
      catch e => server.say (Journal.httpStopped (describe e))
    let _ ← serving.toIO
    return .ok ()
  catch e => return .error (Journal.httpUnbound address.toText (describe e))

/-! ## Snapshots -/

/-- A path of the disk's steps under the root that the settings' path starts at. -/
def place (root : String) (p : Path) : String := root ++ "/".intercalate p

def performStep (root : String) : Disk.Step → IO Unit
  | .create p => IO.FS.writeBinFile (place root p) ⟨#[]⟩
  | .write p content => IO.FS.writeBinFile (place root p) (ofBytes content)
  | .sync p => do
    let file ← IO.FS.Handle.mk (place root p) .readWrite
    file.flush
  | .rename old new => IO.FS.rename (place root old) (place root new)

/-- The stored snapshot, if there is one. -/
def loadSnapshot : Backup → IO (Option Bytes)
  | .off => return none
  | .file path => do
    try return some (toBytes (← IO.FS.readBinFile path))
    catch
      | .noFileOrDirectory .. => return none
      | e => throw e

def storeSnapshot (content : Bytes) : Backup → IO Unit
  | .off => return ()
  | .file path => do
    let root := if path.startsWith "/" then "/" else ""
    for step in Backup.steps (.ofText path) content do performStep root step

namespace Server

def restore (server : Server) : IO Unit := do
  let b := server.backup
  try
    match ← loadSnapshot b with
    | none => server.say (Journal.noSnapshot b)
    | some content =>
      match ← timed (server.update fun s => Store.restore server.rules.store s content) with
      | (.ok (peers, hashes), time) =>
        server.say (Journal.restored b peers hashes content.length time)
      | (.error e, _) =>
        server.say (Journal.startingEmpty b.describe (Backup.Error.snapshot e).message)
  catch e => server.say (Journal.startingEmpty b.describe (Backup.ioMessage (describe e)))

/-- Stores a snapshot; `failed` tells how a failure is put. -/
def save (server : Server) (failed : String → Log.Entry) : IO Unit := do
  try
    let (size, time) ← timed do
      let content ← server.state.atomically (m := BaseIO) do
        return Snapshot.encode (Store.snapshot (← get))
      storeSnapshot content server.backup
      return content.length
    server.say (Journal.saved server.backup size time)
  catch e => server.say (failed (Backup.ioMessage (describe e)))

/-! ## Timers -/

def sweep (server : Server) : IO Unit := do
  let now ← seconds
  let gone ← server.update (PeerTracker.sweep server.rules now)
  server.sayIfAny (Journal.swept gone)

def startTimers (server : Server) : IO Unit := do
  let rules := server.rules
  server.say (Journal.startingExpiry rules.cleanupInterval)
  server.say (Journal.sweeping rules)
  let _ ← (server.every rules.cleanupInterval server.sweep Journal.expiryStopped).toIO
  let b := server.settings.backup
  if b.enabled && 0 < b.interval then
    server.say (Journal.savingEvery server.backup b.interval.toNat)
    let _ ← (server.every b.interval.toNat (server.save Journal.saveFailed)
      Journal.backupStopped).toIO

/-! ## Running -/

/-- Opens all enabled listeners, up to the first one that fails. -/
def listen (server : Server) : IO (Except Log.Entry (List (AsyncTask Unit))) := do
  for h in server.settings.http do
    if h.enabled then
      if let .error remark ← server.listenHttp h then return .error remark
  let mut tasks := []
  for u in server.settings.udp do
    if u.enabled then
      match ← server.listenUdp u with
      | .error remark => return .error remark
      | .ok more => tasks := tasks ++ more
  return .ok tasks

def awaitInterrupt (server : Server) : IO Unit := do
  try
    let interrupt ← Signal.Waiter.mk .sigint false
    let _ ← (← interrupt.wait).block
  catch e => server.say (Journal.noInterrupt (describe e))

/-- Stops everything and waits for those that answer datagrams. -/
def halt (server : Server) (tasks : List (AsyncTask Unit)) : IO Unit := do
  server.stop.cancel
  try for task in tasks do task.block
  catch e => server.say (Journal.udpStopFailed (describe e))

/-- Serves until interrupted. -/
def run (server : Server) : IO UInt32 := do
  server.say Journal.logging
  server.say Journal.version
  server.restore
  server.startTimers
  match ← server.listen with
  | .error remark =>
    server.say remark
    return CommandLine.failedListener
  | .ok tasks =>
    server.awaitInterrupt
    server.say Journal.stopping
    server.halt tasks
    let b := server.settings.backup
    if b.enabled && b.saveOnShutdown then
      server.say Journal.savingLast
      server.save Journal.lastSaveFailed
    server.say Journal.stopped
    return 0

end Server

def serve (settings : Settings) (threshold : Log.Threshold) : IO UInt32 := do
  let secret := toBytes (← IO.getRandomBytes 32)
  let s := State.ofSettings settings (← freshRandom)
  let now ← seconds
  let state ← Mutex.new { s with stats := { s.stats with started := now } }
  Server.run ⟨settings, .ofSettings settings secret, threshold, state, ← CancellationToken.new⟩

end PeerTracker.Program
