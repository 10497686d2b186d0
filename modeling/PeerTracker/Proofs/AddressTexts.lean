import Mathlib.Algebra.GroupWithZero.Nat
import PeerTracker.Net.AddressText

/-!
# Texts of addresses

An address is read back from its text (`IpAddr.ofText?_toText`). The reader tries the dotted
form first, at the start and in front of every group but the last, so that what is written
for groups must never begin like a dotted address: it has no dot in it
(`readV4_eq_none`). Each part is read with anything behind it that is no digit; around the
`::` the groups are those on both sides, and those between are zero, for whatever run of
zeros was left out.
-/

namespace PeerTracker.Net

/-! ## Digits -/

section Digits

variable {radix : Nat} {cs rest : List Char} {ds : List Nat}

/-- The text does not begin with a digit. -/
def Stops (radix : Nat) (cs : List Char) : Prop := ∀ c ∈ cs.head?, digitValue? radix c = none

theorem stops_nil (radix : Nat) : Stops radix [] := fun _ h => nomatch h

theorem stops_cons {c : Char} (h : digitValue? radix c = none) (cs : List Char) :
    Stops radix (c :: cs) := fun _ hc => Option.some.inj hc ▸ h

theorem Stops.digitRun_eq (h : Stops radix cs) : digitRun radix cs = ([], cs) := by
  cases cs with
  | nil => rfl
  | cons c cs => rw [digitRun, h c rfl]

/-- A text that is digits to its end begins with one. -/
theorem exists_of_digitRun_cons {c : Char} (h : digitRun radix (c :: cs) = (ds, [])) :
    ∃ d ds', digitValue? radix c = some d ∧ digitRun radix cs = (ds', []) ∧ ds = d :: ds' := by
  rw [digitRun] at h
  cases hc : digitValue? radix c with
  | none =>
      rw [hc] at h
      cases h
  | some d =>
      rw [hc] at h
      obtain ⟨hds, hrest⟩ := Prod.mk.inj h
      exact ⟨d, _, rfl, Prod.ext rfl hrest, hds.symm⟩

theorem digitRun_append (h : digitRun radix cs = (ds, [])) (rest : List Char) :
    digitRun radix (cs ++ rest) = (ds ++ (digitRun radix rest).1, (digitRun radix rest).2) := by
  induction cs generalizing ds with
  | nil =>
      cases h
      rfl
  | cons c cs ih =>
      obtain ⟨d, ds, hc, hcs, rfl⟩ := exists_of_digitRun_cons h
      rw [List.cons_append, digitRun, hc, ih hcs]
      rfl

theorem digitRun_append_of_stops (h : digitRun radix cs = (ds, [])) (hrest : Stops radix rest) :
    digitRun radix (cs ++ rest) = (ds, rest) := by
  rw [digitRun_append h, hrest.digitRun_eq, List.append_nil]

theorem isSome_of_digitRun (h : digitRun radix cs = (ds, [])) :
    ∀ c ∈ cs, (digitValue? radix c).isSome := by
  induction cs generalizing ds with
  | nil => simp
  | cons c cs ih =>
      obtain ⟨d, ds, hc, hcs, rfl⟩ := exists_of_digitRun_cons h
      intro x hx
      rcases List.mem_cons.mp hx with rfl | hx
      · rw [hc]
        rfl
      · exact ih hcs x hx

/-- A digit is an ASCII character. -/
theorem toNat_lt_of_digitValue? {radix : Nat} {c : Char} (h : (digitValue? radix c).isSome) :
    c.toNat < 128 := by
  have hlast : ∀ {first last : Char}, (decide (first ≤ c) && decide (c ≤ last)) = true →
      c.toNat ≤ last.toNat := fun hrange =>
    UInt32.le_iff_toNat_le.mp (of_decide_eq_true (Bool.and_eq_true_iff.mp hrange).2)
  unfold digitValue? at h
  dsimp only at h
  split at h
  · next hrange => exact Nat.lt_of_le_of_lt (hlast hrange) (by decide)
  · split at h
    · next hrange => exact Nat.lt_of_le_of_lt (hlast hrange) (by decide)
    · split at h
      · next hrange => exact Nat.lt_of_le_of_lt (hlast hrange) (by decide)
      · cases h

/-- What is read as digits is ASCII. -/
theorem toNat_lt_of_digitRun {radix : Nat} {cs : List Char} (h : (digitRun radix cs).2 = []) :
    ∀ c ∈ cs, c.toNat < 128 := fun c hc =>
  toNat_lt_of_digitValue? (isSome_of_digitRun (Prod.ext rfl h) c hc)

theorem digitRun_suffix (radix : Nat) (cs : List Char) : (digitRun radix cs).2 <:+ cs := by
  induction cs with
  | nil => exact List.suffix_rfl
  | cons c cs ih =>
      rw [digitRun]
      split
      · exact List.suffix_rfl
      · exact ih.trans (List.suffix_cons c cs)

end Digits

/-! ## Numbers -/

section Numbers

variable {cs rest : List Char}

theorem readOctet_append {x : UInt8} (h : readOctet cs = some (x, [])) (hrest : Stops 10 rest) :
    readOctet (cs ++ rest) = some (x, rest) := by
  unfold readOctet at h ⊢
  dsimp only at h ⊢
  split at h
  · next hform =>
    obtain ⟨hx, hall⟩ := Prod.mk.inj (Option.some.inj h)
    rw [digitRun_append_of_stops (Prod.ext rfl hall) hrest, if_pos hform, hx]
  · cases h

theorem digitRun_of_readOctet {x : UInt8} (h : readOctet cs = some (x, rest)) :
    (digitRun 10 cs).2 = rest := by
  unfold readOctet at h
  dsimp only at h
  split at h
  · exact (Prod.mk.inj (Option.some.inj h)).2
  · cases h

theorem readOctet_decimalChars (x : UInt8) : readOctet (decimalChars x.toNat) = some (x, []) := by
  have hall : ∀ n < 256, readOctet (decimalChars n) = some (UInt8.ofNat n, []) := by
    decide +kernel
  rw [hall x.toNat x.toNat_lt, UInt8.ofNat_toNat]

theorem digitRun_hexDigits (n : Nat) :
    ∃ ds, digitRun 16 (Quoted.hexDigits n) = (ds, []) ∧ ds.foldl (fun n d => n * 16 + d) 0 = n ∧
      1 ≤ ds.length ∧ ∀ k, n < 16 ^ (k + 1) → ds.length ≤ k + 1 := by
  have hdigit : ∀ d < 16, digitRun 16 [Hex.digitChar d] = ([d], []) := by decide
  fun_induction Quoted.hexDigits n with
  | case1 n h => exact ⟨[n], hdigit n h, by simp, Nat.le_refl 1, fun k _ => by simp⟩
  | case2 n h ih =>
      obtain ⟨ds, hrun, hvalue, -, hlength⟩ := ih
      refine ⟨ds ++ [n % 16], ?_, ?_, by simp, ?_⟩
      · rw [digitRun_append hrun, hdigit _ (Nat.mod_lt n (by decide))]
      · rw [List.foldl_append, hvalue]
        exact Nat.div_add_mod' n 16
      · intro k hk
        cases k with
        | zero => omega
        | succ k =>
            have hquotient : n / 16 < 16 ^ (k + 1) := by
              rw [Nat.div_lt_iff_lt_mul (by decide), ← Nat.pow_succ]
              exact hk
            rw [List.length_append, List.length_singleton]
            exact Nat.succ_le_succ (hlength k hquotient)

theorem readGroup_hexDigits_append (g : UInt16) (hrest : Stops 16 rest) :
    readGroup (Quoted.hexDigits g.toNat ++ rest) = some (g, rest) := by
  obtain ⟨ds, hrun, hvalue, hsome, hlength⟩ := digitRun_hexDigits g.toNat
  rw [readGroup, digitRun_append_of_stops hrun hrest]
  dsimp only
  rw [if_pos ⟨hsome, hlength 3 g.toNat_lt⟩, hvalue, UInt16.ofNat_toNat]

end Numbers

/-! ## Dotted addresses -/

theorem readChar_cons (c : Char) (cs : List Char) : readChar c (c :: cs) = some cs := if_pos rfl

theorem readChar_of_notMem {c : Char} {cs : List Char} (h : c ∉ cs) : readChar c cs = none := by
  cases cs with
  | nil => rfl
  | cons x cs => exact if_neg fun hx => h (List.mem_cons.mpr (.inl hx.symm))

theorem readV4_chars_append (x : Ipv4) {rest : List Char} (hrest : Stops 10 rest) :
    readV4 (x.chars ++ rest) = some (x, rest) := by
  have hdot : ∀ cs, Stops 10 ('.' :: cs) := stops_cons (by decide)
  have hoctet : ∀ (y : UInt8) {cs : List Char}, Stops 10 cs →
      readOctet (decimalChars y.toNat ++ cs) = some (y, cs) := fun y _ =>
    readOctet_append (readOctet_decimalChars y)
  simp only [Ipv4.chars, List.append_assoc, List.cons_append, List.nil_append, readV4,
    hoctet _ (hdot _), hoctet _ hrest, readChar_cons, Option.bind_eq_bind, Option.bind_some]
  rfl

theorem readV4_chars (x : Ipv4) : readV4 x.chars = some (x, []) := by
  have hread := readV4_chars_append x (stops_nil 10)
  rw [List.append_nil] at hread
  exact hread

theorem readV4_of_stops {cs : List Char} (h : Stops 10 cs) : readV4 cs = none := by
  have hnone : readOctet cs = none := by
    rw [readOctet, h.digitRun_eq]
    rfl
  rw [readV4, hnone]
  rfl

theorem readV4_eq_none {cs : List Char} (h : '.' ∉ cs) : readV4 cs = none := by
  rw [readV4]
  cases hoctet : readOctet cs with
  | none => rfl
  | some r =>
      obtain ⟨x, rest⟩ := r
      have hsuffix : rest <:+ cs := digitRun_of_readOctet hoctet ▸ digitRun_suffix 10 cs
      have hnone : readChar '.' rest = none := readChar_of_notMem fun hdot => h (hsuffix.subset hdot)
      simp only [Option.bind_eq_bind, Option.bind_some, hnone, Option.bind_none]

/-! ## Groups -/

/-- Groups with a colon in front of each. -/
def colonGroups (gs : List UInt16) : List Char :=
  gs.flatMap fun g => ':' :: Quoted.hexDigits g.toNat

theorem joinGroups_cons (g : UInt16) (gs : List UInt16) :
    Ipv6.joinGroups (g :: gs) = Quoted.hexDigits g.toNat ++ colonGroups gs := by
  induction gs generalizing g with
  | nil => exact (List.append_nil _).symm
  | cons k gs ih =>
      rw [Ipv6.joinGroups, ih, List.append_assoc]
      · rfl
      · simp

/-- What groups are written with. -/
def IsGroupChar (c : Char) : Prop := c = ':' ∨ (digitValue? 16 c).isSome

theorem IsGroupChar.toNat_lt {c : Char} (h : IsGroupChar c) : c.toNat < 128 := by
  rcases h with rfl | h
  · decide
  · exact toNat_lt_of_digitValue? h

theorem dot_notMem {cs : List Char} (h : ∀ c ∈ cs, IsGroupChar c) : '.' ∉ cs := by
  intro hdot
  rcases h '.' hdot with hcolon | hdigit
  · exact absurd hcolon (by decide)
  · exact absurd hdigit (by decide)

theorem isGroupChar_hexDigits (n : Nat) : ∀ c ∈ Quoted.hexDigits n, IsGroupChar c := by
  obtain ⟨ds, hrun, -⟩ := digitRun_hexDigits n
  exact fun c hc => .inr (isSome_of_digitRun hrun c hc)

theorem isGroupChar_colonGroups (gs : List UInt16) : ∀ c ∈ colonGroups gs, IsGroupChar c := by
  intro c hc
  obtain ⟨g, -, hg⟩ := List.mem_flatMap.mp hc
  rcases List.mem_cons.mp hg with rfl | hg
  · exact .inl rfl
  · exact isGroupChar_hexDigits _ c hg

theorem isGroupChar_joinGroups (gs : List UInt16) : ∀ c ∈ Ipv6.joinGroups gs, IsGroupChar c := by
  cases gs with
  | nil => exact fun _ hc => absurd hc List.not_mem_nil
  | cons g gs =>
      rw [joinGroups_cons, List.forall_mem_append]
      exact ⟨isGroupChar_hexDigits _, isGroupChar_colonGroups gs⟩

theorem isGroupChar_groupsText (gs : List UInt16) : ∀ c ∈ Ipv6.groupsText gs, IsGroupChar c := by
  unfold Ipv6.groupsText
  dsimp only
  split
  · have hcolons : ∀ c ∈ [':', ':'], IsGroupChar c := by simp [IsGroupChar]
    rw [List.forall_mem_append, List.forall_mem_append]
    exact ⟨⟨isGroupChar_joinGroups _, hcolons⟩, isGroupChar_joinGroups _⟩
  · exact isGroupChar_joinGroups gs

/-- What may stand behind groups: nothing, or the place where zeros are left out. -/
inductive Ends : List Char → Prop
  | nil : Ends []
  | gap {cs : List Char} (nodot : '.' ∉ cs) : Ends (':' :: ':' :: cs)

section ReadGroups

variable {room : Nat} {cs body rest : List Char}

theorem readGroup_of_stops (h : Stops 16 cs) : readGroup cs = none := by
  rw [readGroup, h.digitRun_eq]
  rfl

/-- What does not begin like a dotted address is read as a group. -/
theorem readGroups_of_body (first : Bool)
    (hbody : (if first then some cs else readChar ':' cs) = some body) (h : readV4 body = none) :
    readGroups first (room + 1) cs =
      match readGroup body with
      | none => ([], false, cs)
      | some (g, rest) => (g :: (readGroups false room rest).1, (readGroups false room rest).2) := by
  have hdotted : (if 1 ≤ room then readV4 body else none) = none := by
    rw [h, ite_self]
  rw [readGroups, hbody]
  cases hgroup : readGroup body with
  | none => simp only [hdotted, hgroup]
  | some r => simp only [hdotted, hgroup]

theorem Ends.stops (h : Ends rest) : Stops 16 rest := by
  cases h with
  | nil => exact stops_nil 16
  | gap nodot => exact stops_cons (by decide) _

theorem Ends.dot_notMem (h : Ends rest) : '.' ∉ rest := by
  cases h with
  | nil => exact List.not_mem_nil
  | gap nodot => simp [nodot]

theorem Ends.readGroups_eq (h : Ends rest) (first : Bool) (room : Nat) :
    readGroups first room rest = ([], false, rest) := by
  cases room with
  | zero => rfl
  | succ room =>
      cases first with
      | true =>
          rw [readGroups_of_body true rfl (readV4_eq_none h.dot_notMem),
            readGroup_of_stops h.stops]
      | false =>
          cases h with
          | nil => rfl
          | gap nodot =>
              rw [readGroups_of_body false rfl (readV4_eq_none (by simp [nodot])),
                readGroup_of_stops (stops_cons (by decide) _)]

theorem stops_colonGroups (gs : List UInt16) (hrest : Ends rest) :
    Stops 16 (colonGroups gs ++ rest) := by
  cases gs with
  | nil => exact hrest.stops
  | cons g gs => exact stops_cons (by decide) _

theorem readGroups_colonGroups (gs : List UInt16) (hroom : gs.length ≤ room) (hrest : Ends rest) :
    readGroups false room (colonGroups gs ++ rest) = (gs, false, rest) := by
  induction gs generalizing room with
  | nil => exact hrest.readGroups_eq false room
  | cons g gs ih =>
      cases room with
      | zero => cases hroom
      | succ room =>
          have hbody : readChar ':' (colonGroups (g :: gs) ++ rest) =
              some (Quoted.hexDigits g.toNat ++ (colonGroups gs ++ rest)) := by
            rw [← List.append_assoc]
            exact readChar_cons ':' _
          have hdot : '.' ∉ Quoted.hexDigits g.toNat ++ (colonGroups gs ++ rest) := by
            simp [dot_notMem (isGroupChar_hexDigits _), dot_notMem (isGroupChar_colonGroups _),
              hrest.dot_notMem]
          rw [readGroups_of_body false ((if_neg Bool.false_ne_true).trans hbody)
            (readV4_eq_none hdot), readGroup_hexDigits_append g (stops_colonGroups gs hrest)]
          dsimp only
          rw [ih (Nat.le_of_succ_le_succ hroom)]

theorem readGroups_joinGroups (gs : List UInt16) (hroom : gs.length ≤ room) (hrest : Ends rest) :
    readGroups true room (Ipv6.joinGroups gs ++ rest) = (gs, false, rest) := by
  cases gs with
  | nil => exact hrest.readGroups_eq true room
  | cons g gs =>
      cases room with
      | zero => cases hroom
      | succ room =>
          have hdot : '.' ∉ Ipv6.joinGroups (g :: gs) ++ rest := by
            simp [dot_notMem (isGroupChar_joinGroups _), hrest.dot_notMem]
          rw [readGroups_of_body true rfl (readV4_eq_none hdot), joinGroups_cons,
            List.append_assoc, readGroup_hexDigits_append g (stops_colonGroups gs hrest)]
          dsimp only
          rw [readGroups_colonGroups gs (Nat.le_of_succ_le_succ hroom) hrest]

end ReadGroups

/-! ## Addresses -/

namespace Ipv6

/-- What is left out of the text is zeros. -/
theorem take_zeros_drop (gs : List UInt16) (start : Nat) :
    gs.take start ++ List.replicate (zeroRun gs start) 0 ++ gs.drop (start + zeroRun gs start) =
      gs := by
  have hzeros : (gs.drop start).takeWhile (· == 0) = List.replicate (zeroRun gs start) 0 := by
    refine List.eq_replicate_iff.mpr ⟨rfl, fun g hg => ?_⟩
    exact beq_iff_eq.mp (List.all_eq_true.mp List.all_takeWhile g hg)
  have hcut : (gs.drop start).takeWhile (· == 0) ++ (gs.drop start).drop (zeroRun gs start) =
      gs.drop start := List.prefix_iff_eq_append.mp (List.takeWhile_prefix _)
  rw [hzeros, List.drop_drop] at hcut
  rw [List.append_assoc, hcut, List.take_append_drop]

end Ipv6

/-- Groups with no `::` among them. -/
theorem readV6_joinGroups (x : Ipv6) : readV6 (Ipv6.joinGroups x.groups) = some (x, []) := by
  have hroom : x.groups.length ≤ 8 := Nat.le_refl 8
  have hgroups := readGroups_joinGroups x.groups hroom .nil
  rw [List.append_nil] at hgroups
  simp only [readV6, hgroups]
  rfl

section Gap

variable {x : Ipv6} {head tail : List UInt16} {n : Nat}
  (h : head ++ List.replicate n 0 ++ tail = x.groups) (hn : 0 < n)
include h

theorem length_of_gap : head.length + n + tail.length = 8 := by
  have hgroups := congrArg List.length h
  rw [List.length_append, List.length_append, List.length_replicate] at hgroups
  exact hgroups

include hn

/-- What is left out between groups before and behind is read as zeros. -/
theorem readV6_of_parts {cs cs' : List Char} {dotted : Bool}
    (hhead : readGroups true 8 cs = (head, false, ':' :: ':' :: cs'))
    (htail : readGroups true (7 - head.length) cs' = (tail, dotted, [])) :
    readV6 cs = some (x, []) := by
  have hlength := length_of_gap h
  have hnot : head.length ≠ 8 := by omega
  have hgap : 8 - head.length - tail.length = n := by omega
  simp only [readV6, hhead, if_neg hnot, Bool.false_eq_true, if_false, readChar_cons,
    Option.bind_eq_bind, Option.bind_some, htail, hgap, h, Ipv6.ofGroups?_groups]
  rfl

theorem readV6_joinGroups_gap :
    readV6 (Ipv6.joinGroups head ++ [':', ':'] ++ Ipv6.joinGroups tail) = some (x, []) := by
  have hlength := length_of_gap h
  have hroom : tail.length ≤ 7 - head.length := by omega
  have htail := readGroups_joinGroups tail hroom .nil
  rw [List.append_nil] at htail
  refine readV6_of_parts h hn ?_ htail
  rw [List.append_assoc]
  exact readGroups_joinGroups head (by omega) (.gap (dot_notMem (isGroupChar_joinGroups tail)))

end Gap

theorem joinOctets_div_mod (g : UInt16) :
    joinOctets (UInt8.ofNat (g.toNat / 256)) (UInt8.ofNat g.toNat) = g := by
  have hlt := g.toNat_lt
  apply UInt16.toNat_inj.mp
  rw [joinOctets, UInt8.toNat_ofNat', UInt8.toNat_ofNat', UInt16.toNat_ofNat']
  omega

theorem Ipv6.groups_of_mapped? {x : Ipv6} {y : Ipv4} (h : x.mapped? = some y) :
    x.groups = [0, 0, 0, 0, 0, 0xFFFF, joinOctets y.a y.b, joinOctets y.c y.d] := by
  unfold mapped? at h
  split at h
  · next hprefix =>
    obtain ⟨h0, h1, h2, h3, h4, h5⟩ := hprefix
    cases h
    simp only [groups, h0, h1, h2, h3, h4, h5, joinOctets_div_mod]
  · cases h

/-- A dotted address at the end is two groups. -/
theorem readGroups_dotted (y : Ipv4) (room : Nat) :
    readGroups false (room + 2) (':' :: y.chars) =
      ([joinOctets y.a y.b, joinOctets y.c y.d], true, []) := by
  have hroom : 1 ≤ room + 1 := Nat.le_add_left 1 room
  simp only [readGroups, Bool.false_eq_true, if_false, readChar_cons, if_pos hroom, readV4_chars]

/-- Behind the `::` stand the last of the groups of an address that carries another. -/
theorem readV6_mapped {x : Ipv6} {y : Ipv4} (h : x.mapped? = some y) :
    readV6 ("::ffff:".toList ++ y.chars) = some (x, []) := by
  have hcolon : ∀ (radix : Nat) (cs : List Char), Stops radix (':' :: cs) := fun _ =>
    stops_cons rfl
  have hword : Quoted.hexDigits (0xFFFF : UInt16).toNat = ['f', 'f', 'f', 'f'] := by
    decide +kernel
  have htext : "::ffff:".toList ++ y.chars =
      ':' :: ':' :: (Quoted.hexDigits (0xFFFF : UInt16).toNat ++ ':' :: y.chars) := by
    rw [hword]
    rfl
  have hhead : ∀ cs, readGroups true 8 (':' :: cs) = ([], false, ':' :: cs) := fun cs => by
    rw [readGroups_of_body true rfl (readV4_of_stops (hcolon 10 cs)),
      readGroup_of_stops (hcolon 16 cs)]
  have htail : readGroups true 7 (Quoted.hexDigits (0xFFFF : UInt16).toNat ++ ':' :: y.chars) =
      ([0xFFFF, joinOctets y.a y.b, joinOctets y.c y.d], true, []) := by
    have hstops : Stops 10 (Quoted.hexDigits (0xFFFF : UInt16).toNat ++ ':' :: y.chars) := by
      rw [hword]
      exact stops_cons (by decide) _
    rw [readGroups_of_body true rfl (readV4_of_stops hstops),
      readGroup_hexDigits_append 0xFFFF (hcolon 16 _)]
    dsimp only
    rw [readGroups_dotted]
  have hgroups : [] ++ List.replicate 5 0 ++ [0xFFFF, joinOctets y.a y.b, joinOctets y.c y.d] =
      x.groups := (Ipv6.groups_of_mapped? h).symm
  rw [htext]
  exact readV6_of_parts hgroups (by decide) (hhead _) htail

theorem readV6_groupsText (x : Ipv6) : readV6 (Ipv6.groupsText x.groups) = some (x, []) := by
  unfold Ipv6.groupsText
  dsimp only
  split
  · next hrun =>
    exact readV6_joinGroups_gap (Ipv6.take_zeros_drop x.groups _) (Nat.lt_of_succ_lt hrun)
  · exact readV6_joinGroups x

theorem readV6_chars (x : Ipv6) : readV6 x.chars = some (x, []) := by
  unfold Ipv6.chars
  split
  · next y h => exact readV6_mapped h
  · exact readV6_groupsText x

/-- The text of an IPv6 address does not begin like that of an IPv4 one. -/
theorem readV4_chars_v6 (x : Ipv6) : readV4 x.chars = none := by
  unfold Ipv6.chars
  split
  · exact readV4_of_stops (stops_cons (by decide) _)
  · exact readV4_eq_none (dot_notMem (isGroupChar_groupsText _))

/-- An address is read back from its text. -/
theorem IpAddr.ofText?_toText (ip : IpAddr) : ofText? ip.toText = some ip := by
  rw [ofText?, readAll, toText, String.toList_ofList]
  cases ip with
  | v4 x =>
      rw [chars, readV4_chars]
      rfl
  | v6 x =>
      rw [chars, readV4_chars_v6, readV6_chars]
      rfl

/-- Of two equal runs the first is left out. -/
example : (IpAddr.v6 ⟨0x2001, 0xDB8, 0, 0, 1, 0, 0, 1⟩).toText = "2001:db8::1:0:0:1" := by
  decide +kernel

/-! ## Characters -/

theorem Ipv4.toNat_lt_of_mem_chars (x : Ipv4) : ∀ c ∈ x.chars, c.toNat < 128 := by
  have hoctet : ∀ y : UInt8, ∀ c ∈ decimalChars y.toNat, c.toNat < 128 := fun y =>
    toNat_lt_of_digitRun (digitRun_of_readOctet (readOctet_decimalChars y))
  have hdot : '.'.toNat < 128 := by decide
  simp only [chars, List.forall_mem_append, List.forall_mem_singleton]
  exact ⟨⟨⟨⟨⟨⟨hoctet _, hdot⟩, hoctet _⟩, hdot⟩, hoctet _⟩, hdot⟩, hoctet _⟩

theorem Ipv6.toNat_lt_of_mem_chars (x : Ipv6) : ∀ c ∈ x.chars, c.toNat < 128 := by
  unfold chars
  split
  · next y _ =>
    have hprefix : ("::ffff:".toList.all fun c => decide (c.toNat < 128)) = true := rfl
    rw [List.forall_mem_append]
    refine ⟨fun c hc => ?_, y.toNat_lt_of_mem_chars⟩
    exact of_decide_eq_true (List.all_eq_true.mp hprefix c hc)
  · exact fun c hc => (isGroupChar_groupsText _ c hc).toNat_lt

/-- The text of an address is ASCII. -/
theorem IpAddr.toNat_lt_of_mem_toText (ip : IpAddr) : ∀ c ∈ ip.toText.toList, c.toNat < 128 := by
  rw [toText, String.toList_ofList]
  cases ip with
  | v4 x => exact x.toNat_lt_of_mem_chars
  | v6 x => exact x.toNat_lt_of_mem_chars

end PeerTracker.Net
