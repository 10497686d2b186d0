import PeerTracker.Proofs.Bodies
import PeerTracker.Proofs.Datagrams
import PeerTracker.Proofs.Figures

/-!
# Refusals

A request is refused by its transport, which has not called a service yet, or by the
service, which has counted the call. Either way the refusal is counted once, by whoever
refused, and nothing else has happened (`Refused`). A request that is served moves none of
the figures that tell of failures (`Served`). Each transport is one case analysis into
these, and the replies of the two kinds are told apart by what is sent.
-/

namespace PeerTracker

/-- What a refused request has done: its service may have been counted, the refusal was. -/
inductive Refused (service : Option Counter) (s : State) : State → Prop
  | atOnce : Refused service s (s.count .clientErrors 1)
  | byService (c : Counter) (called : service = some c) :
      Refused service s ((s.count c 1).count .clientErrors 1)

/-- Neither a failure nor a connection was counted. -/
def Served (s s' : State) : Prop :=
  ∀ c ∈ [Counter.connects, .clientErrors, .serverErrors], s'.stats.read c = s.stats.read c

/-- What is counted for a service is that it was called. -/
def Calls (service : Option Counter) : Prop :=
  ∀ c ∈ service, c = .announces ∨ c = .scrapes

section Figures

variable {service : Option Counter} {s s' : State}

theorem State.read_count_clientErrors (s : State) (c : Counter) :
    (s.count .clientErrors 1).stats.read c =
      s.stats.read c + if c = .clientErrors then 1 else 0 := by
  rw [State.read_count]
  split
  · rfl
  · rw [Int64.add_zero]

theorem Refused.read (h : Refused service s s') (hcalls : Calls service) {c : Counter}
    (hc : c ≠ .announces ∧ c ≠ .scrapes) :
    s'.stats.read c = s.stats.read c + if c = .clientErrors then 1 else 0 := by
  cases h with
  | atOnce => exact s.read_count_clientErrors c
  | byService d called =>
      have hd : c ≠ d := by
        rcases hcalls d called with rfl | rfl
        · exact hc.1
        · exact hc.2
      rw [State.read_count_clientErrors, State.read_count, if_neg hd]

theorem served_of_announce {r : Rules} {q : Announcement} {now : Int64} {o : AnnounceOutcome}
    (h : announce r q now s = (.ok o, s')) : Served s s' := by
  intro c hc
  have hcounter : (c ≠ .seeds ∧ c ≠ .leeches) ∧ c ≠ .announces ∧ c ≠ .badActors := by
    revert c
    decide
  obtain ⟨htotal, hself, hactor⟩ := hcounter
  exact read_announce_ok h (Counter.not_isTotal htotal) hself hactor

theorem served_of_scrape {hashes : List Bytes} {entries : List ScrapeEntry}
    (h : scrape s hashes = (.ok entries, s')) : Served s s' := by
  intro c hc
  have hself : c ≠ .scrapes := by
    revert c
    decide
  rw [state_of_scrape_ok h, State.read_count, if_neg hself]

theorem refused_of_announce {r : Rules} {q : Announcement} {now : Int64} {e : Refusal}
    (h : announce r q now s = (.error e, s')) : Refused (some .announces) s s' := by
  rw [state_of_announce_error h]
  exact .byService _ rfl

theorem refused_of_scrape {hashes : List Bytes} {e : Refusal}
    (h : scrape s hashes = (.error e, s')) : Refused (some .scrapes) s s' := by
  rw [state_of_scrape_error h]
  exact .byService _ rfl

end Figures

/-! ## Datagrams -/

namespace Udp

/-- The service that a datagram calls. -/
def service (d : Bytes) : Option Counter :=
  if int32At d 8 = announceAction then some .announces
  else if int32At d 8 = scrapeAction then some .scrapes
  else none

theorem calls_service (d : Bytes) : Calls (service d) := by
  intro c hc
  unfold service at hc
  split at hc
  · cases hc
    exact .inl rfl
  · split at hc <;> cases hc
    exact .inr rfl

namespace Response

def isError : Response → Bool
  | error _ _ => true
  | _ => false

def isConnect : Response → Bool
  | connect _ _ => true
  | _ => false

end Response

theorem isError_announceReply (v4 : Bool) (a : AnnounceReply) :
    (announceReply v4 a).isError = false ∧ (announceReply v4 a).isConnect = false := by
  cases v4 <;> exact ⟨rfl, rfl⟩

/-- What has become of a datagram and of the state that it found. -/
inductive Outcome (service : Option Counter) (s : State) : Option Response × State → Prop
  | ignored : Outcome service s (none, s)
  | connected (t : Int32) (id : Int64) :
      Outcome service s (some (.connect t id), s.count .connects 1)
  | refused (t : Int32) (message : String) {s' : State} (h : Refused service s s') :
      Outcome service s (some (.error t message), s')
  | served {r : Response} {s' : State} (kind : r.isError = false ∧ r.isConnect = false)
      (h : Served s s') : Outcome service s (some r, s')

variable {rules : Rules} {remote : Net.Endpoint} {usePayloadIp : Bool} {now : Int64} {s : State}

theorem outcome_handleAnnounce (r : AnnounceRequest) :
    let out := handleAnnounce rules remote r usePayloadIp now s
    Outcome (some .announces) s (some out.1, out.2) := by
  unfold handleAnnounce
  dsimp only
  split
  · exact .refused _ _ .atOnce
  · split
    · next heq => exact .refused _ _ (refused_of_announce heq)
    · next heq => exact .served (isError_announceReply _ _) (served_of_announce heq)
    · next heq =>
      -- parking what is left of the reply counts nothing
      have hserved := served_of_announce heq
      exact .served (isError_announceReply _ _) hserved

theorem outcome_handleScrape (r : ScrapeRequest) :
    let out := handleScrape r s
    Outcome (some .scrapes) s (some out.1, out.2) := by
  unfold handleScrape
  dsimp only
  split
  · next heq => exact .served ⟨rfl, rfl⟩ (served_of_scrape heq)
  · next heq => exact .refused _ _ (refused_of_scrape heq)

theorem outcome_verified {service : Option Counter} (id : Int64) (t : Int32)
    {next : Response × State} (h : Outcome service s (some next.1, next.2)) :
    let out := verified rules remote id now t s next
    Outcome service s (some out.1, out.2) := by
  unfold verified
  dsimp only
  split
  · exact h
  · exact .refused _ _ .atOnce

theorem outcome_handle (rules : Rules) (remote : Net.Endpoint) (usePayloadIp : Bool)
    (now : Int64) (d : Bytes) (s : State) :
    Outcome (service d) s (handle rules remote usePayloadIp now d s) := by
  have hreads := Request.reads_decode d
  unfold handle
  generalize Request.decode d = result at hreads
  cases hreads with
  | unsendable fault unanswerable => exact .ignored
  | sendable whole action id fault => exact outcome_verified id _ (.refused _ _ .atOnce)
  | connect whole action magic => exact .connected _ _
  | announce whole action r transaction =>
      have hservice : service d = some .announces := if_pos action
      rw [hservice]
      exact outcome_verified _ _ (outcome_handleAnnounce r)
  | scrape action r transaction number =>
      have hannounce : int32At d 8 ≠ announceAction := by rw [action]; decide
      have hservice : service d = some .scrapes := by rw [service, if_neg hannounce, if_pos action]
      rw [hservice]
      exact outcome_verified _ _ (outcome_handleScrape r)

end Udp

/-! ## Web requests -/

namespace Http

/-- The service that a path calls. -/
def Route.service : Route → Option Counter
  | announce => some .announces
  | scrape => some .scrapes
  | _ => none

theorem Route.calls_service (route : Route) : Calls route.service := by
  intro c hc
  cases route <;> cases hc
  · exact .inl rfl
  · exact .inr rfl

/-- What has become of a request to a service and of the state that it found. -/
inductive Outcome (service : Option Counter) (s : State) : Reply × State → Prop
  | refused (reason : String) {s' : State} (h : Refused service s s') :
      Outcome service s (failure reason, s')
  | served {body : Bytes} {s' : State} (kind : ¬IsFailure body) (h : Served s s') :
      Outcome service s (plain body, s')

variable {rules : Rules} {now : Int64} {s : State}

theorem outcome_handleAnnounce (q : Query) (ip : Net.IpAddr) :
    Outcome (some .announces) s (handleAnnounce rules q ip now s) := by
  unfold handleAnnounce
  split
  · next heq => exact .refused _ (refused_of_announce heq)
  · next heq => exact .served not_isFailure_nil (served_of_announce heq)
  · next heq =>
    have hserved := served_of_announce heq
    exact .served (not_isFailure_announceBody _) hserved

theorem outcome_handleScrape (q : Query) : Outcome (some .scrapes) s (handleScrape q s) := by
  unfold handleScrape
  split
  · exact .refused _ .atOnce
  · split
    · next heq => exact .refused _ (refused_of_scrape heq)
    · next heq => exact .served (not_isFailure_scrapeBody _ _) (served_of_scrape heq)

theorem outcome_withQuery {service : Option Counter} (r : Request)
    {handler : Query → Reply × State} (h : ∀ q, Outcome service s (handler q)) :
    Outcome service s (withQuery r s handler) := by
  unfold withQuery
  split
  · exact .refused _ .atOnce
  · exact h _

theorem outcome_handle (rules : Rules) (realIp : String) (r : Request) (now : Int64) (s : State)
    (hmethod : r.method = "GET") (hroute : route r.path = .announce ∨ route r.path = .scrape) :
    Outcome (route r.path).service s (handle rules realIp r now s) := by
  unfold handle
  dsimp only
  rw [if_neg fun h => h.2 hmethod]
  split
  · exact .refused _ .atOnce
  · rcases hroute with hroute | hroute
    · rw [hroute]
      exact outcome_withQuery r fun q => outcome_handleAnnounce q _
    · rw [hroute]
      exact outcome_withQuery r fun q => outcome_handleScrape q

end Http

/-! ## Over both transports -/

/-- **What is refused is counted once, and nothing else happens.** Whatever datagram comes,
wherever from: without a reply the state is as it was. With one, the failures of clients
grow by one if the reply is an error and not otherwise, and connections by one if it is a
connection id and not otherwise. The same holds of requests for `/announce` and `/scrape`,
where it is the body that tells a failure, whatever else the request carries. Failures of
the server are never counted, and a refusal has done nothing but count itself and perhaps,
before it, the call of the service: the store, the pools and the random numbers are those
from before. -/
theorem refusals_are_counted_once (rules : Rules) (now : Int64) (s : State) :
    (∀ (remote : Net.Endpoint) (usePayloadIp : Bool) (d : Bytes),
      let out := Udp.handle rules remote usePayloadIp now d s
      out.2.stats.read .serverErrors = s.stats.read .serverErrors ∧
        (out.1 = none → out.2 = s) ∧
        ∀ reply, out.1 = some reply →
          out.2.stats.read .clientErrors =
              s.stats.read .clientErrors + (if reply.isError then 1 else 0) ∧
            out.2.stats.read .connects =
              s.stats.read .connects + (if reply.isConnect then 1 else 0) ∧
            (reply.isError = true → Refused (Udp.service d) s out.2)) ∧
      ∀ (realIp : String) (r : Http.Request), r.method = "GET" →
        (Http.route r.path = .announce ∨ Http.route r.path = .scrape) →
        let out := Http.handle rules realIp r now s
        out.2.stats.read .serverErrors = s.stats.read .serverErrors ∧
          (Http.IsFailure out.1.body →
            out.2.stats.read .clientErrors = s.stats.read .clientErrors + 1 ∧
              Refused (Http.route r.path).service s out.2) ∧
          (¬Http.IsFailure out.1.body →
            out.2.stats.read .clientErrors = s.stats.read .clientErrors) := by
  constructor
  · intro remote usePayloadIp d out
    have houtcome : Udp.Outcome (Udp.service d) s out :=
      Udp.outcome_handle rules remote usePayloadIp now d s
    have hcalls := Udp.calls_service d
    generalize out = result at houtcome
    cases houtcome with
    | ignored => exact ⟨rfl, fun _ => rfl, fun _ h => nomatch h⟩
    | connected t id =>
        refine ⟨rfl, fun h => (nomatch h), ?_⟩
        rintro _ ⟨⟩
        exact ⟨(Int64.add_zero _).symm, rfl, fun h => nomatch h⟩
    | refused t message h =>
        refine ⟨?_, fun h => (nomatch h), ?_⟩
        · exact (h.read hcalls (by decide)).trans (Int64.add_zero _)
        · rintro _ ⟨⟩
          exact ⟨h.read hcalls (by decide), h.read hcalls (by decide), fun _ => h⟩
    | served kind h =>
        refine ⟨h _ (by decide), fun h => (nomatch h), ?_⟩
        rintro _ ⟨⟩
        rw [kind.1, kind.2, h _ (by decide), h _ (by decide)]
        exact ⟨(Int64.add_zero _).symm, (Int64.add_zero _).symm, fun h => nomatch h⟩
  · intro realIp r hmethod hroute out
    have houtcome : Http.Outcome (Http.route r.path).service s out :=
      Http.outcome_handle rules realIp r now s hmethod hroute
    have hcalls := (Http.route r.path).calls_service
    generalize out = result at houtcome
    cases houtcome with
    | refused reason h =>
        refine ⟨(h.read hcalls (by decide)).trans (Int64.add_zero _), ?_, ?_⟩
        · exact fun _ => ⟨h.read hcalls (by decide), h⟩
        · exact fun hkind => absurd (Http.isFailure_failureBody reason) hkind
    | served kind h =>
        refine ⟨h _ (by decide), fun hkind => absurd hkind kind, fun _ => h _ (by decide)⟩

/-- A request for `/announce` from `10.0.0.1`, with nothing to announce. -/
def emptyAnnounce : Http.Request where
  target := ascii "/announce"
  remote := some ⟨.v4 ⟨10, 0, 0, 1⟩, 6881, 0⟩

/-- A datagram with an unknown connection id and a web request without an info hash: each
is counted as one failure of a client. -/
theorem refusals_are_counted_once_both_ways :
    let start := State.fresh 74 (.ofList [])
    let remote : Net.Endpoint := ⟨.unspecified, 6881, 0⟩
    let d := Udp.handle Udp.sampleRules remote false 5 Udp.sampleDatagram start
    let w := Http.handle Udp.sampleRules "" emptyAnnounce 5 start
    (d.1 = some (.error 3 "bad connid") ∧ Refused none start d.2 ∧
        d.2.stats.read .clientErrors = 1) ∧
      Http.IsFailure w.1.body ∧ Refused (some .announces) start w.2 ∧
        w.2.stats.read .clientErrors = 1 := by
  intro start remote d w
  have hreply : d.1 = some (.error 3 "bad connid") := by decide +kernel
  have hservice : Udp.service Udp.sampleDatagram = none := by decide +kernel
  have hroute : Http.route emptyAnnounce.path = .announce := by decide +kernel
  have hbody : w.1 = Http.failure "bad hash" := by decide +kernel
  have hfailure : Http.IsFailure w.1.body := hbody ▸ Http.isFailure_failureBody "bad hash"
  obtain ⟨hdatagrams, hrequests⟩ := refusals_are_counted_once Udp.sampleRules 5 start
  constructor
  · obtain ⟨-, -, hcounted⟩ := hdatagrams remote false Udp.sampleDatagram
    obtain ⟨herrors, -, hrefused⟩ := hcounted _ hreply
    exact ⟨hreply, hservice ▸ hrefused rfl, herrors⟩
  · obtain ⟨-, hcounted, -⟩ := hrequests "" emptyAnnounce rfl (.inl hroute)
    obtain ⟨herrors, hrefused⟩ := hcounted hfailure
    rw [hroute] at hrefused
    exact ⟨hfailure, hrefused, herrors⟩

end PeerTracker
