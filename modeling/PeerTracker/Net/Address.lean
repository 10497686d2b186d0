import PeerTracker.Bytes.BigEndian

/-!
# Internet addresses

An address is four octets or eight groups of sixteen bits. An IPv6 address that
carries an IPv4 one in its last two groups names the same host; `canonical`
gives such a host its IPv4 form, so that equal hosts are equal addresses.
-/

namespace PeerTracker.Net

structure Ipv4 where
  a : UInt8
  b : UInt8
  c : UInt8
  d : UInt8
deriving DecidableEq, Repr

structure Ipv6 where
  g0 : UInt16
  g1 : UInt16
  g2 : UInt16
  g3 : UInt16
  g4 : UInt16
  g5 : UInt16
  g6 : UInt16
  g7 : UInt16
deriving DecidableEq, Repr

inductive IpAddr where
  | v4 (address : Ipv4)
  | v6 (address : Ipv6)
deriving DecidableEq, Repr

namespace Ipv4

/-- `0.0.0.0` -/
def unspecified : Ipv4 := ⟨0, 0, 0, 0⟩

def octets (x : Ipv4) : Bytes := [x.a, x.b, x.c, x.d]

def ofOctets? : Bytes → Option Ipv4
  | [a, b, c, d] => some ⟨a, b, c, d⟩
  | _ => none

theorem ofOctets?_octets (x : Ipv4) : ofOctets? x.octets = some x := rfl

theorem octets_of_ofOctets? {bs : Bytes} {x : Ipv4} (h : ofOctets? bs = some x) :
    x.octets = bs := by
  unfold ofOctets? at h
  split at h
  · cases h
    rfl
  · cases h

theorem ofOctets?_isSome_iff (bs : Bytes) : (ofOctets? bs).isSome ↔ bs.length = 4 := by
  constructor
  · intro h
    obtain ⟨x, hx⟩ := Option.isSome_iff_exists.mp h
    rw [← octets_of_ofOctets? hx]
    rfl
  · intro h
    match bs, h with
    | [a, b, c, d], _ => rfl

theorem octets_inj {x y : Ipv4} (h : x.octets = y.octets) : x = y :=
  Option.some.inj (congrArg ofOctets? h)

end Ipv4

namespace Ipv6

def groups (x : Ipv6) : List UInt16 := [x.g0, x.g1, x.g2, x.g3, x.g4, x.g5, x.g6, x.g7]

def octets (x : Ipv6) : Bytes := x.groups.flatMap fun g => BigEndian.encode 2 g.toNat

def ofGroups? : List UInt16 → Option Ipv6
  | [g0, g1, g2, g3, g4, g5, g6, g7] => some ⟨g0, g1, g2, g3, g4, g5, g6, g7⟩
  | _ => none

theorem ofGroups?_groups (x : Ipv6) : ofGroups? x.groups = some x := rfl

theorem octets_inj {x y : Ipv6} (h : x.octets = y.octets) : x = y := by
  have hgroups : x.groups = y.groups :=
    BigEndian.flatMap_inj (f := fun g : UInt16 => BigEndian.encode 2 g.toNat)
      (fun g => BigEndian.length_encode 2 g.toNat)
      (fun g k hgk => UInt16.toNat_inj.mp (BigEndian.encode_inj (w := 2) g.toNat_lt k.toNat_lt hgk))
      rfl h
  have hread : some x = some y := by
    rw [← ofGroups?_groups x, hgroups, ofGroups?_groups]
  exact Option.some.inj hread

/-- The IPv4 address that the last two groups carry. -/
def mapped? (x : Ipv6) : Option Ipv4 :=
  if x.g0 = 0 ∧ x.g1 = 0 ∧ x.g2 = 0 ∧ x.g3 = 0 ∧ x.g4 = 0 ∧ x.g5 = 0xFFFF then
    some ⟨UInt8.ofNat (x.g6.toNat / 256), UInt8.ofNat x.g6.toNat,
      UInt8.ofNat (x.g7.toNat / 256), UInt8.ofNat x.g7.toNat⟩
  else none

end Ipv6

namespace IpAddr

def unspecified : IpAddr := .v4 .unspecified

instance : Inhabited IpAddr := ⟨unspecified⟩

def isV4 : IpAddr → Bool
  | v4 _ => true
  | v6 _ => false

/-- The address in network order, four or sixteen octets. -/
def octets : IpAddr → Bytes
  | v4 x => x.octets
  | v6 x => x.octets

def canonical : IpAddr → IpAddr
  | v4 x => v4 x
  | v6 x => match x.mapped? with
    | some y => v4 y
    | none => v6 x

theorem length_octets (ip : IpAddr) : ip.octets.length = if ip.isV4 then 4 else 16 := by
  cases ip <;> simp [octets, isV4, Ipv4.octets, Ipv6.octets, Ipv6.groups]

/-- The two families differ in length. -/
theorem octets_inj {x y : IpAddr} (h : x.octets = y.octets) : x = y := by
  have hlength := congrArg List.length h
  rw [length_octets, length_octets] at hlength
  cases x with
  | v4 x =>
    cases y with
    | v4 y => rw [Ipv4.octets_inj h]
    | v6 y => cases hlength
  | v6 x =>
    cases y with
    | v4 y => cases hlength
    | v6 y => rw [Ipv6.octets_inj h]

theorem canonical_canonical (ip : IpAddr) : ip.canonical.canonical = ip.canonical := by
  cases ip with
  | v4 => rfl
  | v6 x => cases h : x.mapped? <;> simp [canonical, h]

end IpAddr

/-- An address with a port; `scope` is the zone of an IPv6 address and zero
otherwise. -/
structure Endpoint where
  ip : IpAddr
  port : UInt16
  scope : UInt32 := 0
deriving DecidableEq, Repr

instance : Inhabited Endpoint := ⟨⟨.unspecified, 0, 0⟩⟩

end PeerTracker.Net
