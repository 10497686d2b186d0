import PeerTracker.Proofs.AddressTexts
import PeerTracker.Proofs.AnnounceBodies
import PeerTracker.Proofs.Histories
import PeerTracker.Proofs.Texts

/-!
# Two forms of one list

The compact and the verbose list of a swarm are made by different loops. What a client
reads of a verbose entry (`Contact.read?`) is enough to write the compact form of the peer,
so that the two lists can be compared by their octets alone. Both show the same records:
the verbose list by its making, the compact one because buffers that are large enough never
stop it (`Store.peerListBytes_spec`). That nothing is lost on the way through the text of an
address is `Net.IpAddr.ofText?_toText`.
-/

namespace PeerTracker

/-- What a client is told of a peer, of its id only on request. -/
structure Contact where
  ip : Net.IpAddr
  port : Int
  id : Option Bytes

namespace Contact

def ofRecord (withId : Bool) (e : PeerId × Peer) : Contact where
  ip := e.2.ip
  port := e.2.port.toNat
  id := if withId then some e.1.bytes else none

/-- The octets of the address and the port in network order. -/
def compact (c : Contact) : Bytes := c.ip.octets ++ BigEndian.encode 2 c.port.toNat

/-- What a dictionary says: the text under `ip` has to be that of an address, and under
`peer id` there need not be anything. -/
def ofDict? (es : List (Bytes × Bencode)) : Option Contact :=
  match Table.find (ascii "ip") es, Table.find (ascii "port") es,
    Table.find (ascii "peer id") es with
  | some (.bytes text), some (.int port), none =>
    (Net.IpAddr.ofText? (Utf8.lossyString text)).map (⟨·, port, none⟩)
  | some (.bytes text), some (.int port), some (.bytes id) =>
    (Net.IpAddr.ofText? (Utf8.lossyString text)).map (⟨·, port, some id⟩)
  | _, _, _ => none

/-- What is read of a verbose entry. -/
def read? (entry : Bytes) : Option Contact :=
  match Bencode.decode entry with
  | some (.dict es) => ofDict? es
  | _ => none

theorem read?_verbose (withId : Bool) (e : PeerId × Peer) :
    read? (e.2.verbose e.1 withId).encode = some (ofRecord withId e) := by
  have hdecode := Bencode.decode_eq_some_iff.mpr ⟨e.2.canonical_verbose e.1 withId, rfl⟩
  have haddress : Net.IpAddr.ofText? (Utf8.lossyString (ascii e.2.ip.toText)) = some e.2.ip := by
    rw [Utf8.lossyString_ascii e.2.ip.toNat_lt_of_mem_toText, Net.IpAddr.ofText?_toText]
  rw [read?, hdecode]
  cases withId with
  | true => exact congrArg (Option.map _) haddress
  | false => exact congrArg (Option.map _) haddress

/-- The compact form of a family is written from what a client is told. -/
theorem compacts_eq (v4 withId : Bool) (es : List (PeerId × Peer)) :
    Peer.compacts v4 (es.map Prod.snd) =
      ((es.map (ofRecord withId)).filter fun c => c.ip.isV4 == v4).flatMap compact := by
  rw [Peer.compacts, List.filter_map, List.filter_map, List.flatMap_map, List.flatMap_map]
  rfl

end Contact

/-- **Both forms describe the same peers.** Whatever the swarm, in whatever order it is
found, and however many peers are wanted, if the buffers have capacity for that many then
both lists show the same records, the front of the table, and the count of the compact one
is the number of entries of the other. Each entry is the encoding of a canonical dictionary
from which the address and the port of its record are read, and the id just if ids were
asked for. The octets of each buffer are what is written from the entries of its family, in
their order. -/
theorem peer_lists_agree (s : State) (hash : InfoHash) (wanted : Nat) (withIds : Bool)
    {b4 b6 : Buffer} (h4 : 6 * wanted ≤ b4.capacity) (h6 : 18 * wanted ≤ b6.capacity) :
    let chosen := (Store.listed s hash).take wanted
    let entries := Store.peerList s hash wanted withIds
    let out := Store.peerListBytes s hash wanted b4 b6
    (PeerListing.verbose entries).Shows withIds chosen ∧
      (PeerListing.compact out.2.1 out.2.2).Shows withIds chosen ∧
      out.1 = entries.length ∧
      (∀ entry ∈ entries, ∃ es, (Bencode.dict es).Canonical ∧ entry = (Bencode.dict es).encode) ∧
      entries.map Contact.read? = chosen.map (fun e => some (Contact.ofRecord withIds e)) ∧
      out.2.1.bytes =
        ((entries.filterMap Contact.read?).filter fun c => c.ip.isV4).flatMap Contact.compact ∧
      out.2.2.bytes =
        ((entries.filterMap Contact.read?).filter fun c => !c.ip.isV4).flatMap Contact.compact := by
  intro chosen entries out
  obtain ⟨-, hbytes4, hbytes6, hcount⟩ := Store.peerListBytes_spec s hash wanted b4 b6
  have hentries : entries = chosen.map fun e => (e.2.verbose e.1 withIds).encode := rfl
  have hlength : entries.length = min wanted (Store.listed s hash).length := by
    rw [hentries, List.length_map, List.length_take]
  have hout : out.1 = entries.length := (hcount h4 h6).trans hlength.symm
  have hchosen : (Store.listed s hash).take out.1 = chosen := by
    rw [hout, hlength, ← List.take_eq_take_min]
  have hread : entries.map Contact.read? =
      chosen.map fun e => some (Contact.ofRecord withIds e) := by
    rw [hentries, List.map_map]
    exact List.map_congr_left fun e _ => Contact.read?_verbose withIds e
  have hcontacts : entries.filterMap Contact.read? = chosen.map (Contact.ofRecord withIds) := by
    rw [hentries, List.filterMap_map]
    exact List.filterMap_eq_map_iff_forall_eq_some.mpr fun e _ => Contact.read?_verbose withIds e
  rw [hchosen] at hbytes4 hbytes6
  refine ⟨rfl, ⟨hbytes4, hbytes6⟩, hout, ?_, hread, ?_, ?_⟩
  · intro entry hentry
    obtain ⟨e, -, rfl⟩ := List.mem_map.mp hentry
    exact ⟨_, e.2.canonical_verbose e.1 withIds, rfl⟩
  · rw [hcontacts, hbytes4, Contact.compacts_eq true withIds]
    simp only [beq_true]
  · rw [hcontacts, hbytes6, Contact.compacts_eq false withIds]
    simp only [beq_false]

/-- A swarm of a peer of each family, of which more are wanted than there are. -/
def sampleSwarm : State :=
  let first := (Store.save ⟨1, false⟩ (.fresh 50 (.ofList [])) .zero otherId (sampleReport true 5)).2
  (Store.save ⟨1, false⟩ first .zero .zero
    { sampleReport false 6 with ip := .v6 ⟨0x2001, 0xDB8, 0, 0, 1, 0, 0, 1⟩ }).2

theorem peer_lists_agree_sample :
    let b4 := Buffer.withCapacity 30
    let b6 := Buffer.withCapacity 90
    let entries := Store.peerList sampleSwarm .zero 5 true
    let out := Store.peerListBytes sampleSwarm .zero 5 b4 b6
    6 * 5 ≤ b4.capacity ∧ 18 * 5 ≤ b6.capacity ∧ out.1 = 2 ∧ entries.length = 2 ∧
      out.2.2.bytes =
        ((entries.filterMap Contact.read?).filter fun c => !c.ip.isV4).flatMap Contact.compact := by
  intro b4 b6 entries out
  have h4 : 6 * 5 ≤ b4.capacity := Nat.le_refl 30
  have h6 : 18 * 5 ≤ b6.capacity := Nat.le_refl 90
  obtain ⟨-, -, hcount, -, -, -, hbytes6⟩ := peer_lists_agree sampleSwarm .zero 5 true h4 h6
  have hentries : entries.length = 2 := by decide +kernel
  exact ⟨h4, h6, hcount.trans hentries, hentries, hbytes6⟩

end PeerTracker
