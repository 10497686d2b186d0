import PeerTracker.Expiry
import PeerTracker.Http.Handler
import PeerTracker.Proofs.Announces
import PeerTracker.Proofs.Recounts
import PeerTracker.Udp.Handler

/-!
# What a tracker is asked to do

Announces and scrapes reach a tracker over both transports or from a program that
embeds it, and between them it sweeps and restores snapshots. Whatever it does, it does
to the store by a few actions that the demand alone determines (`Demand.performs`). A
tracker may also come upon its tables in another order than it left them in. What is
kept by actions and by another order is so wherever a tracker comes to (`Leads.keeps`).
-/

namespace PeerTracker

/-! ## Transports -/

theorem steady_scrape (s : State) (hashes : List Bytes) : s.Steady (scrape s hashes).2 := by
  unfold scrape State.countRefusal
  dsimp only
  split
  · next e _ => exact (State.Steady.count s (by decide) _).trans (.count _ e.counter_ne_kind _)
  · exact .count s (by decide) _

namespace Http

/-- The announce that a web request makes, if it makes one. -/
def announcement? (realIp : String) (r : Request) : Option Announcement :=
  if route r.path = .announce ∧ r.method = "GET" then
    (r.clientIp? realIp).bind fun ip => (Query.parse r.query).toOption.map (announcement · ip)
  else none

theorem steady_handleAnnounce (rules : Rules) (q : Query) (ip : Net.IpAddr) (now : Int64)
    (s : State) :
    (announce rules (announcement q ip) now s).2.Steady (handleAnnounce rules q ip now s).2 := by
  unfold handleAnnounce
  split
  · next heq => rw [heq]; exact .refl _
  · next heq => rw [heq]; exact .refl _
  · next reply _ heq =>
    rw [heq]
    exact reply.steady_recycle _

theorem steady_handleScrape (q : Query) (s : State) : s.Steady (handleScrape q s).2 := by
  have hscrape := steady_scrape s ((q.get? "info_hash").getD [])
  unfold handleScrape
  split
  · exact .count s (by decide) _
  · split <;> next heq => rw [heq] at hscrape; exact hscrape

theorem steady_withQuery (r : Request) (s : State) {handler : Query → Reply × State}
    (h : ∀ q, s.Steady (handler q).2) : s.Steady (withQuery r s handler).2 := by
  unfold withQuery
  split
  · exact .count s (by decide) _
  · exact h _

/-- Answering a web request leaves the store as the announce that it makes does. -/
theorem steady_handle (rules : Rules) (realIp : String) (r : Request) (now : Int64) (s : State) :
    ((announcement? realIp r).elim s fun q => (announce rules q now s).2).Steady
      (handle rules realIp r now s).2 := by
  by_cases hannounce : route r.path = .announce ∧ r.method = "GET"
  · obtain ⟨hroute, hget⟩ := hannounce
    simp only [announcement?, handle, hroute, hget, if_true, and_self, ne_eq, not_true_eq_false,
      and_false, if_false]
    cases r.clientIp? realIp with
    | none => exact .count s (by decide) _
    | some ip =>
        simp only [Option.bind_some, serve, withQuery]
        cases Query.parse r.query with
        | error e => exact .count s (by decide) _
        | ok q => exact steady_handleAnnounce rules q ip now s
  · simp only [announcement?, if_neg hannounce, Option.elim_none, handle]
    split
    · exact .refl s
    · next hget =>
      split
      · exact .count s (by decide) _
      · next ip _ =>
        cases hroute : route r.path with
        | announce =>
            -- the method was looked at before the client's address was
            refine absurd ⟨hroute, ?_⟩ hannounce
            rw [hroute] at hget
            by_contra hmethod
            exact hget ⟨by decide, hmethod⟩
        | scrape => exact steady_withQuery r s fun q => steady_handleScrape q s
        | stats => exact .refl s
        | unknown => exact .refl s

end Http

namespace Udp

/-- The announce that a datagram makes, if it makes one. -/
def announcement? (rules : Rules) (remote : Net.Endpoint) (usePayloadIp : Bool) (now : Int64)
    (datagram : Bytes) : Option Announcement :=
  match Request.decode datagram with
  | .ok (.announce r) =>
    if rules.key.verify r.connectionId remote now = true ∧ r.port ≠ 0 then
      some (announcement remote r usePayloadIp)
    else none
  | _ => none

variable (rules : Rules) (remote : Net.Endpoint) (usePayloadIp : Bool) (now : Int64) (s : State)

theorem steady_handleScrape (r : ScrapeRequest) : s.Steady (handleScrape r s).2 := by
  have hscrape := steady_scrape s (r.hashes.map (·.bytes))
  unfold handleScrape
  split <;> next heq => rw [heq] at hscrape; exact hscrape

theorem steady_verified (id : Int64) (t : Int32) {next : Response × State}
    (h : s.Steady next.2) : s.Steady (verified rules remote id now t s next).2 := by
  unfold verified
  split
  · exact h
  · exact .count s (by decide) _

theorem steady_handleAnnounce {r : AnnounceRequest} (hport : r.port ≠ 0) :
    (announce rules (announcement remote r usePayloadIp) now s).2.Steady
      (handleAnnounce rules remote r usePayloadIp now s).2 := by
  simp only [handleAnnounce, if_neg hport]
  split
  · next heq => rw [heq]; exact .refl _
  · next heq => rw [heq]; exact .refl _
  · next reply _ heq =>
    rw [heq]
    exact reply.steady_intoCompact _ _

/-- Answering a datagram leaves the store as the announce that it makes does. -/
theorem steady_handle (datagram : Bytes) :
    ((announcement? rules remote usePayloadIp now datagram).elim s fun q =>
      (announce rules q now s).2).Steady
        (handle rules remote usePayloadIp now datagram s).2 := by
  unfold announcement? handle
  cases Request.decode datagram with
  | error e =>
      cases e with
      | unsendable fault => exact .refl s
      | sendable id t fault => exact steady_verified rules remote now s id t (.count s (by decide) _)
  | ok request =>
      cases request with
      | connect t => exact .count s (by decide) _
      | scrape r => exact steady_verified rules remote now s _ _ (steady_handleScrape s r)
      | announce r =>
          by_cases hverify : rules.key.verify r.connectionId remote now = true
          · simp only [hverify, verified, if_true, true_and]
            by_cases hport : r.port = 0
            · simp only [hport, ne_eq, not_true_eq_false, if_false, handleAnnounce, if_true]
              exact .count s (by decide) _
            · rw [if_pos hport]
              exact steady_handleAnnounce rules remote usePayloadIp now s hport
          · simp only [hverify, verified, false_and, if_false, Bool.false_eq_true]
            exact .count s (by decide) _

theorem Response.steady_send (r : Response) : s.Steady (r.send s).2 := by
  refine .buffers s ?_ fun _ h => ?_
  · show (r.recycle (s.pools.getEncoder.2.putEncoder _)).peers = s.pools.peers
    unfold recycle
    split <;> rfl
  · show Pools.Restored _ (r.recycle (s.pools.getEncoder.2.putEncoder _))
    have hencoder := h.getEncoder.2.putEncoder (s.pools.getEncoder.1.append r.encode)
    unfold recycle
    split
    · exact hencoder.putList4 _
    · exact hencoder.putList6 _
    · exact hencoder

end Udp

/-! ## Demands -/

inductive Demand where
  /-- From within the program, which may or may not hand the reply back. -/
  | announce (q : Announcement) (now : Int64) (recycled : Bool)
  | scrape (hashes : List Bytes)
  | web (realIp : String) (r : Http.Request) (now : Int64)
  | datagram (remote : Net.Endpoint) (usePayloadIp : Bool) (now : Int64) (bs : Bytes)
  /-- A datagram that finds no room to wait in. -/
  | overflow
  | sweep (now : Int64)
  | restore (bs : Bytes)

namespace Demand

def exec (rules : Rules) (s : State) : Demand → State
  | announce q now recycled =>
    match PeerTracker.announce rules q now s with
    | (.ok (.announced reply), s) =>
      if recycled then { s with pools := reply.recycle s.pools } else s
    | (_, s) => s
  | scrape hashes => (PeerTracker.scrape s hashes).2
  | web realIp r now => (Http.handle rules realIp r now s).2
  | datagram remote usePayloadIp now bs =>
    match Udp.handle rules remote usePayloadIp now bs s with
    | (some reply, s) => (reply.send s).2
    | (none, s) => s
  | overflow => s.count .queueDrops 1
  | sweep now => (PeerTracker.sweep rules now s).2
  | restore bs => (Store.restore rules.store s bs).2

/-- The announce in a demand, and when it is made. -/
def announcement? (rules : Rules) : Demand → Option (Announcement × Int64)
  | announce q now _ => some (q, now)
  | web realIp r now => (Http.announcement? realIp r).map (·, now)
  | datagram remote usePayloadIp now bs =>
    (Udp.announcement? rules remote usePayloadIp now bs).map (·, now)
  | _ => none

/-- What a demand does to the store, step by step. -/
def actions (rules : Rules) : Demand → List Action
  | sweep now => [.command (.trim now rules.timeout)]
  | restore bs => (Operation.restore bs).actions
  | d => (d.announcement? rules).elim [] fun a => Announce.actions rules a.1 a.2

variable (rules : Rules) (s : State)

theorem performs_announcement {q? : Option Announcement} {now : Int64} {s' : State}
    (h : (q?.elim s fun q => (PeerTracker.announce rules q now s).2).Steady s') :
    s.Performs rules.store
      ((q?.map (·, now)).elim [] fun a => Announce.actions rules a.1 a.2) s' := by
  cases q? with
  | none => exact .idle h
  | some q => exact (announce_performs rules q now s).trans h

/-- A datagram is handled with pools as good as they were. -/
theorem restored_handle {limit : Nat} (hs : s.pools.Restored limit) (remote : Net.Endpoint)
    (usePayloadIp : Bool) (now : Int64) (bs : Bytes) :
    (Udp.handle rules remote usePayloadIp now bs s).2.pools.Restored limit :=
  (performs_announcement rules s (Udp.steady_handle rules remote usePayloadIp now s bs)).restored hs

theorem performs (d : Demand) : s.Performs rules.store (d.actions rules) (d.exec rules s) := by
  cases d with
  | announce q now recycled =>
      refine (announce_performs rules q now s).trans ?_
      simp only [exec]
      split
      · next reply _ heq =>
        rw [heq]
        split
        · exact reply.steady_recycle _
        · exact .refl _
      · next heq => rw [heq]; exact .refl _
  | scrape hashes => exact .idle (steady_scrape s hashes)
  | web realIp r now =>
      exact performs_announcement rules s (Http.steady_handle rules realIp r now s)
  | datagram remote usePayloadIp now bs =>
      refine performs_announcement rules s
        ((Udp.steady_handle rules remote usePayloadIp now s bs).trans ?_)
      simp only [exec]
      split
      · next reply _ heq => rw [heq]; exact Udp.Response.steady_send _ reply
      · next heq => rw [heq]; exact .refl _
  | overflow => exact .idle (.count s (by decide) _)
  | sweep now =>
      exact ⟨s, .refl s, (State.Steady.count _ (by decide) _).trans (.count _ (by decide) _)⟩
  | restore bs =>
      have hrun := Operation.exec_eq rules.store s (.restore bs)
      refine ⟨s, .refl s, ?_⟩
      show State.Steady _ ((Operation.restore bs).exec rules.store s)
      rw [hrun]
      exact .refl _

end Demand

theorem State.Steady.sound {s t : State} (h : s.Steady t) (hs : s.Sound) : t.Sound := by
  intro hash w hw
  rw [h.swarm?_eq] at hw
  exact hs hash w hw

/-! ## Other orders -/

/-- The same peers and providers, possibly in other orders. -/
structure Swarm.Reordered (w v : Swarm) : Prop where
  peers : w.peers.entries.Perm v.peers.entries
  providers : w.providers.entries.Perm v.providers.entries
  complete : v.complete = w.complete
  incomplete : v.incomplete = w.incomplete
  retired : v.retired = w.retired

/-- The same swarms, possibly in another order, and each possibly in others. -/
structure State.Reordered (s t : State) : Prop where
  swarms : ∀ hash, Option.Rel Swarm.Reordered (s.swarm? hash) (t.swarm? hash)
  pools : t.pools = s.pools
  stats : t.stats = s.stats
  random : t.random = s.random

theorem Table.get?_of_perm {K V : Type} [DecidableEq K] {t u : Table K V}
    (h : t.entries.Perm u.entries) (k : K) : u.get? k = t.get? k := by
  ext v
  rw [get?_eq_some_iff, get?_eq_some_iff]
  exact h.mem_iff.symm

theorem Swarm.Reordered.symm {w v : Swarm} (h : w.Reordered v) : v.Reordered w :=
  ⟨h.peers.symm, h.providers.symm, h.complete.symm, h.incomplete.symm, h.retired.symm⟩

namespace State.Reordered

theorem refl (s : State) : s.Reordered s where
  swarms := by
    intro hash
    cases s.swarm? hash with
    | none => exact .none
    | some w => exact .some ⟨.refl _, .refl _, rfl, rfl, rfl⟩
  pools := rfl
  stats := rfl
  random := rfl

variable {s t : State} (h : s.Reordered t)
include h

theorem symm : t.Reordered s where
  swarms := by
    intro hash
    have hrel := h.swarms hash
    generalize s.swarm? hash = a, t.swarm? hash = b at hrel ⊢
    cases hrel with
    | none => exact .none
    | some hreordered => exact .some hreordered.symm
  pools := h.pools.symm
  stats := h.stats.symm
  random := h.random.symm

theorem of_swarm? {hash : InfoHash} {w : Swarm} (hw : s.swarm? hash = some w) :
    ∃ v, t.swarm? hash = some v ∧ w.Reordered v := by
  have hrel := h.swarms hash
  rw [hw] at hrel
  generalize t.swarm? hash = b at hrel ⊢
  cases hrel with
  | some hreordered => exact ⟨_, rfl, hreordered⟩

theorem sound (hs : s.Sound) : t.Sound := by
  intro hash v hv
  obtain ⟨w, hw, hreordered⟩ := h.symm.of_swarm? hv
  obtain ⟨hcounted, hlive⟩ := hs hash w hw
  refine ⟨fun c => ?_, hreordered.retired.symm.trans hlive⟩
  have hbag : v.peers.bag = w.peers.bag :=
    Multiset.coe_eq_coe.mpr (hreordered.peers.map Prod.snd)
  have hcounter : w.counter c = v.counter c := by
    cases c
    · exact hreordered.incomplete
    · exact hreordered.complete
  rw [← hcounter, hcounted c, Swarm.tally, Swarm.tally, hbag]

end State.Reordered

/-! ## Where a tracker comes to -/

/-- A tracker comes from one state to another by demands that are allowed, and by
finding its tables in another order. -/
inductive Leads (rules : Rules) (Allowed : Demand → Prop) (s : State) : State → Prop where
  | refl : Leads rules Allowed s s
  | serve {t : State} (d : Demand) :
      Leads rules Allowed s t → Allowed d → Leads rules Allowed s (d.exec rules t)
  | reorder {t u : State} :
      Leads rules Allowed s t → t.Reordered u → Leads rules Allowed s u

/-- What leaving the store alone keeps, and what each action of an allowed demand keeps,
and another order, is kept all the way. -/
theorem Leads.keeps {rules : Rules} {Allowed : Demand → Prop} {P : State → Prop}
    (hsteady : ∀ s t, s.Steady t → P s → P t)
    (hexec : ∀ s d, Allowed d → ∀ a ∈ d.actions rules, P s → P (a.exec rules.store s))
    (hreorder : ∀ s t, s.Reordered t → P s → P t) {s t : State} (h : Leads rules Allowed s t)
    (hs : P s) : P t := by
  induction h with
  | refl => exact hs
  | serve d _ hallowed ih =>
      exact (d.performs rules _).keeps hsteady (fun s a ha => hexec s d hallowed a ha) ih
  | reorder _ hreordered ih => exact hreorder _ _ hreordered ih

/-- Any demands at all. -/
def Reachable (rules : Rules) (start s : State) : Prop := Leads rules (fun _ => True) start s

namespace Leads

variable {rules : Rules} {Allowed : Demand → Prop} {s t : State}

theorem sound (h : Leads rules Allowed s t) (hs : s.Sound) : t.Sound :=
  h.keeps (P := State.Sound) (fun _ _ hsteady => hsteady.sound)
    (fun s _ _ a _ hs => hs.exec s a) (fun _ _ hreordered => hreordered.sound) hs

theorem restored {limit : Nat} (h : Leads rules Allowed s t) (hs : s.pools.Restored limit) :
    t.pools.Restored limit := by
  induction h with
  | refl => exact hs
  | serve d _ _ ih => exact (d.performs rules _).restored ih
  | reorder _ hreordered ih => exact hreordered.pools ▸ ih

end Leads

/-! ## A demand with everything in it -/

/-- A peer with everything joins the swarm of the hash of zeros. -/
def sampleAnnouncement (id : PeerId) : Announcement where
  infoHash := Identifier.zero.bytes
  peerId := id.bytes
  port := 6881
  event := .started
  wanted := none
  uploaded := 0
  downloaded := 0
  left := some 0
  compact := true
  noPeerId := false
  ip := .v4 ⟨10, 0, 0, 1⟩

end PeerTracker
