import PeerTracker.Proofs.StoreSteps

/-!
# Runs of a store

While a tracker serves, commands change its store; a snapshot may be restored at any
time. An operation is one of these. Since a snapshot is loaded entry by entry, each
operation is a list of actions that change the store one after the other
(`Operation.exec_eq`), and a run has a state between any two of them: `trail` pairs
each action with the state it finds.
-/

namespace PeerTracker

/-- A change of the store by the tracker that serves. -/
inductive Command where
  | save (hash : InfoHash) (id : PeerId) (u : Update)
  | drop (hash : InfoHash) (id : PeerId) (provider : Bool)
  | trim (now timeout : Int64)
deriving DecidableEq

def Command.exec (rules : StoreRules) (s : State) : Command → State
  | save hash id u => (Store.save rules s hash id u).2
  | drop hash id provider => Store.drop rules s hash id provider
  | trim now timeout => (Store.trim rules s now timeout).2

/-- A command, or a snapshot to restore, which may turn out to be unreadable. -/
inductive Operation where
  | command (c : Command)
  | restore (bs : Bytes)
deriving DecidableEq

/-- A command, or one entry of a snapshot. -/
inductive Action where
  | command (c : Command)
  | entry (r : Snapshot.SwarmRecord)
deriving DecidableEq

def Action.exec (rules : StoreRules) (s : State) : Action → State
  | command c => c.exec rules s
  | entry r => (Store.loadEntry rules.fast ((0, 0), s) r).2

namespace Operation

def exec (rules : StoreRules) (s : State) : Operation → State
  | command c => c.exec rules s
  | restore bs => (Store.restore rules s bs).2

/-- What an operation does step by step; a snapshot that cannot be read does nothing. -/
def actions : Operation → List Action
  | command c => [.command c]
  | restore bs =>
    match Snapshot.decode bs with
    | .error _ => []
    | .ok records => records.map .entry

theorem foldl_loadEntry_snd (rules : StoreRules) (records : List Snapshot.SwarmRecord)
    (acc : (Nat × Nat) × State) :
    (records.foldl (Store.loadEntry rules.fast) acc).2 =
      (records.map Action.entry).foldl (Action.exec rules) acc.2 := by
  induction records generalizing acc with
  | nil => rfl
  | cons r records ih =>
      rw [List.foldl_cons, ih, List.map_cons, List.foldl_cons]
      congr 1
      rw [Action.exec, Store.loadEntry_snd, Store.loadEntry_snd]

theorem exec_eq (rules : StoreRules) (s : State) (op : Operation) :
    op.exec rules s = op.actions.foldl (Action.exec rules) s := by
  cases op with
  | command c => rfl
  | restore bs =>
      cases h : Snapshot.decode bs with
      | error e => simp only [exec, actions, Store.restore, h, List.foldl_nil]
      | ok records =>
          simp only [exec, actions, Store.restore, h]
          exact foldl_loadEntry_snd rules records ((0, 0), s)

theorem foldl_exec_eq (rules : StoreRules) (s : State) (ops : List Operation) :
    ops.foldl (exec rules) s = (ops.flatMap actions).foldl (Action.exec rules) s := by
  induction ops generalizing s with
  | nil => rfl
  | cons op ops ih =>
      rw [List.foldl_cons, ih, List.flatMap_cons, List.foldl_append, exec_eq]

end Operation

/-- The actions of a run, each with the state it finds. -/
def trail (rules : StoreRules) : State → List Action → List (State × Action)
  | _, [] => []
  | s, a :: as => (s, a) :: trail rules (a.exec rules s) as

/-- Every action of a run is on its trail, with the state that those before it make. -/
theorem mem_trail (rules : StoreRules) (s : State) (before : List Action) (a : Action)
    (after : List Action) :
    (before.foldl (Action.exec rules) s, a) ∈ trail rules s (before ++ a :: after) := by
  induction before generalizing s with
  | nil => exact List.mem_cons_self
  | cons b before ih => exact List.mem_cons_of_mem _ (ih (b.exec rules s))

/-- What each action keeps, where it is allowed, holds wherever a run comes by that does
only what is allowed. -/
theorem holds_on_trail {rules : StoreRules} {P : State → Prop} {Allowed : State → Action → Prop}
    (hstep : ∀ s a, P s → Allowed s a → P (Action.exec rules s a)) (as : List Action)
    (s : State) (h : P s) (hallowed : ∀ x ∈ trail rules s as, Allowed x.1 x.2) :
    (∀ x ∈ trail rules s as, P x.1) ∧ P (as.foldl (Action.exec rules) s) := by
  -- the rest of the run starts from another state, hence for every `s`
  induction as generalizing s with
  | nil => exact ⟨fun _ hx => absurd hx List.not_mem_nil, h⟩
  | cons a as ih =>
      have hfirst := hallowed (s, a) List.mem_cons_self
      have hrest : ∀ x ∈ trail rules (a.exec rules s) as, Allowed x.1 x.2 :=
        fun x hx => hallowed x (List.mem_cons_of_mem _ hx)
      obtain ⟨htrail, hend⟩ := ih _ (hstep s a h hfirst) hrest
      refine ⟨?_, hend⟩
      intro x hx
      rcases List.mem_cons.mp hx with rfl | hx
      · exact h
      · exact htrail x hx

/-! ## A run with everything in it -/

/-- A report from one address, complete or not. -/
def sampleReport (complete : Bool) (now : Int64) : Update :=
  ⟨.unspecified, 6881, complete, 10, 20, now, true⟩

/-- A second peer. -/
def otherId : PeerId := ⟨List.replicate 20 1, rfl⟩

/-- An entry that names one of its peers twice. -/
def sampleEntry : Snapshot.SwarmRecord where
  hash := .zero
  peers := [⟨.zero, .unspecified, 6881, true, 4, 0, 0⟩, ⟨.zero, .unspecified, 1, false, 4, 0, 0⟩,
    ⟨otherId, .unspecified, 6882, false, 4, 0, 0⟩]
  providers := []

/-- Two peers enter, a snapshot is refused, one peer changes sides, the other expires,
and a snapshot replaces the swarm. -/
def sampleRun : List Operation :=
  [.command (.save .zero .zero (sampleReport false 1)),
    .command (.save .zero otherId (sampleReport false 2)), .restore [],
    .command (.save .zero .zero (sampleReport true 3)), .command (.trim 5 2),
    .restore (Snapshot.encode [sampleEntry])]

end PeerTracker
